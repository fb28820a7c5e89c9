/-
The sampling loop of `i2c/bh1750_i2c`. `main` sets `next_sample` 500 ms after its start and then
spins: a pass of the loop whose `get_absolute_time()` has reached `next_sample` moves `next_sample`
on by 500 ms from where it was, not from the current time, reads the sensor and prints one line.
The schedule cannot drift: after `k` lines `next_sample` is exactly `k + 1` periods after the start,
whatever the loop's timing, so whether a pass samples depends only on its time and the number of
lines so far; no line comes before its slot; and a loop held up for several periods catches up
with back-to-back samples. The illuminance is printed as the float `raw / 1.2f`; the model keeps
the raw reading it is computed from.
-/
import PicoExamples.Net.Basic

namespace PicoExamples.Bh1750

/-- The 500 ms of `make_timeout_time_ms(500)` and `delayed_by_ms(next_sample, 500)`, in µs. -/
def samplePeriodUs : Nat := 500 * 1000

/-- `absolute_time_diff_us(from, to)`: `to - from` in µs, signed. -/
def absoluteTimeDiffUs (fromUs toUs : Nat) : Int := (toUs : Int) - fromUs

/-- `bh1750_read_lux` on what `i2c_read_blocking` returns and the two bytes of `buf`: `false` unless
two bytes came, else the 16-bit reading `(buf[0] << 8) | buf[1]`. -/
def bh1750ReadLux (read : Int) (b0 b1 : UInt8) : Option Nat :=
  if read ≠ 2 then none else some (b0.toNat <<< 8 ||| b1.toNat)

/-- A line `main` prints for a sample: `Illuminance: %.2f lux` of a raw reading, or `Read failed`. -/
inductive Line
  | illuminance (raw : Nat)
  | readFailed
  deriving DecidableEq, Repr

/-- `next_sample` (µs since boot) and the lines printed so far. -/
structure Sampler where
  nextSample : Nat
  out : List Line
  deriving DecidableEq, Repr

/-- One pass of `while (true)`: the time `get_absolute_time()` returns, and what the sensor answers
if it is read. -/
structure Pass where
  now : Nat
  read : Int
  b0 : UInt8
  b1 : UInt8
  deriving DecidableEq, Repr

/-- `main` at its loop, having set `next_sample` at time `start`. -/
def mainStart (start : Nat) : Sampler := ⟨start + samplePeriodUs, []⟩

/-- A pass of the loop. -/
def loopPass (s : Sampler) (p : Pass) : Sampler :=
  if absoluteTimeDiffUs p.now s.nextSample ≤ 0 then
    let line := match bh1750ReadLux p.read p.b0 p.b1 with
      | some raw => Line.illuminance raw
      | none => Line.readFailed
    ⟨s.nextSample + samplePeriodUs, s.out ++ [line]⟩
  else s

def mainLoop (start : Nat) (passes : List Pass) : Sampler := passes.foldl loopPass (mainStart start)

/-! ## The schedule -/

/-- A pass samples exactly when its time has reached `next_sample`, and then moves `next_sample`
on by one period and prints one line. -/
theorem loopPass_spec (s : Sampler) (p : Pass) :
    (s.nextSample ≤ p.now ∧ (loopPass s p).nextSample = s.nextSample + samplePeriodUs ∧
        (loopPass s p).out.length = s.out.length + 1) ∨
      (p.now < s.nextSample ∧ loopPass s p = s) := by
  unfold loopPass absoluteTimeDiffUs
  split
  · exact .inl ⟨by omega, rfl, by simp⟩
  · exact .inr ⟨by omega, rfl⟩

/-- What each pass keeps, the loop keeps: the fold invariant of `main`'s `while (true)`. -/
theorem foldl_loopPass_inv (Q : Pass → Prop) (P : Sampler → Prop)
    (hstep : ∀ s p, Q p → P s → P (loopPass s p)) :
    ∀ (passes : List Pass) (s : Sampler), (∀ p ∈ passes, Q p) → P s → P (passes.foldl loopPass s)
  | [], _, _, h => h
  | p :: passes, s, hq, h =>
    foldl_loopPass_inv Q P hstep passes (loopPass s p) (fun q hq' => hq q (List.mem_cons_of_mem p hq'))
      (hstep s p (hq p (List.mem_cons_self p passes)) h)

/-- `next_sample` is `k + 1` periods after `start` once `k` lines are out. -/
def OnSchedule (start : Nat) (s : Sampler) : Prop :=
  s.nextSample = start + samplePeriodUs * (s.out.length + 1)

/-- The `k` lines out fit in the time up to `T`: `k` periods after `start` at most. -/
def Fits (start T : Nat) (s : Sampler) : Prop := samplePeriodUs * s.out.length ≤ T - start

theorem loopPass_onSchedule {start : Nat} {s : Sampler} (p : Pass) (h : OnSchedule start s) :
    OnSchedule start (loopPass s p) := by
  rcases loopPass_spec s p with ⟨-, hn, hl⟩ | ⟨-, heq⟩
  · unfold OnSchedule samplePeriodUs at *
    rw [hn, hl]
    omega
  · rwa [heq]

theorem loopPass_fits {start T : Nat} {s : Sampler} {p : Pass} (hp : p.now ≤ T)
    (ho : OnSchedule start s) (h : Fits start T s) : Fits start T (loopPass s p) := by
  rcases loopPass_spec s p with ⟨hle, -, hl⟩ | ⟨-, heq⟩
  · unfold Fits OnSchedule samplePeriodUs at *
    rw [hl]
    omega
  · rwa [heq]

/-- Passes that each come at or after the slot of the last of them catch up: each samples. -/
theorem foldl_catchUp : ∀ (later : List Pass) (s : Sampler),
    (∀ p ∈ later, s.nextSample + samplePeriodUs * later.length ≤ p.now + samplePeriodUs) →
      (later.foldl loopPass s).out.length = s.out.length + later.length
  | [], _, _ => rfl
  | p :: later, s, h => by
    have hp := h p (List.mem_cons_self p later)
    simp only [List.length_cons, Nat.mul_add, Nat.mul_one] at h hp
    rcases loopPass_spec s p with ⟨-, hn, hl⟩ | ⟨hlt, -⟩
    · have ih := foldl_catchUp later (loopPass s p) fun q hq => by
        have := h q (List.mem_cons_of_mem p hq)
        rw [hn]
        omega
      rw [List.foldl_cons, ih, hl, List.length_cons]
      omega
    · omega

/-- For every start time and every run of the loop, however late or irregular its passes:
`next_sample` stays exactly one period per printed line after the start (no drift); the `k` lines
of a run whose passes all come by time `T` fit in it, `k` periods after the start at most (no line
before its slot); and a loop held up until the slot of line `k + j` catches up, each of its next
`j` passes printing a line. -/
theorem mainLoop_schedule (start : Nat) (passes : List Pass) :
    (mainLoop start passes).nextSample =
        start + samplePeriodUs * ((mainLoop start passes).out.length + 1) ∧
    (∀ T, (∀ p ∈ passes, p.now ≤ T) → samplePeriodUs * (mainLoop start passes).out.length ≤ T - start) ∧
    ∀ later : List Pass,
      (∀ p ∈ later, start + samplePeriodUs * ((mainLoop start passes).out.length + later.length) ≤ p.now) →
      (mainLoop start (passes ++ later)).out.length = (mainLoop start passes).out.length + later.length := by
  have h0 : OnSchedule start (mainStart start) := by simp [OnSchedule, mainStart]
  have ho : OnSchedule start (mainLoop start passes) :=
    foldl_loopPass_inv (fun _ => True) (OnSchedule start) (fun _ p _ h => loopPass_onSchedule p h)
      passes _ (fun _ _ => trivial) h0
  refine ⟨ho, fun T hT => ?_, fun later hl => ?_⟩
  · exact (foldl_loopPass_inv (·.now ≤ T) (fun s => OnSchedule start s ∧ Fits start T s)
      (fun _ _ hp h => ⟨loopPass_onSchedule _ h.1, loopPass_fits hp h.1 h.2⟩) passes _ hT
      ⟨h0, by simp [Fits, mainStart]⟩).2
  · rw [mainLoop, List.foldl_append, ← mainLoop]
    refine foldl_catchUp later _ fun p hp => ?_
    have := hl p hp
    unfold OnSchedule at ho
    rw [ho]
    unfold samplePeriodUs at *
    omega

/-- A loop held up from 0.7 s to 2.1 s: the line of the 0.5 s slot comes before the stall, and the
three passes right after it each sample, for the slots of 1 s, 1.5 s and 2 s. -/
def beforeStall : List Pass := [⟨600000, 2, 0, 100⟩, ⟨700000, 2, 0, 100⟩]
def afterStall : List Pass := [⟨2100000, 2, 0, 120⟩, ⟨2100001, 0, 0, 0⟩, ⟨2100002, 2, 1, 0⟩]

theorem mainLoop_schedule_stall :
    (mainLoop 0 (beforeStall ++ afterStall)).out =
        [.illuminance 100, .illuminance 120, .readFailed, .illuminance 256] ∧
      (mainLoop 0 (beforeStall ++ afterStall)).out.length =
        (mainLoop 0 beforeStall).out.length + afterStall.length :=
  ⟨rfl, (mainLoop_schedule 0 beforeStall).2.2 afterStall (by decide)⟩

end PicoExamples.Bh1750
