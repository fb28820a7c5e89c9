/-
The C vocabulary of the network examples (`pico_w/adafruit_io_bmp280`, `pico_w/wifi/http_client`):
lwIP's `err_t` and the pico SDK's error codes, byte strings and C strings, and the libc calls the
examples make on them — `snprintf` into a fixed buffer, `strlen` and `strncmp`.
-/
import Mathlib.Tactic.IntervalCases
import Mathlib.Data.Nat.Digits

namespace PicoExamples

/-! ## Error codes -/

/-- lwIP's `err_t`. The codes are those of lwIP's `lwip/err.h`, which the examples include; only the
codes the modelled functions compare against are named, and `ERR_MEM`, which `altcp_write` returns
when it cannot queue the data. -/
abbrev ErrT := Int

def errOk : ErrT := 0
def errMem : ErrT := -1
def errInprogress : ErrT := -5
def errAbrt : ErrT := -13

/-- The pico SDK's `PICO_ERROR_GENERIC` and `PICO_ERROR_TIMEOUT` (`pico/error.h`). -/
def picoErrorGeneric : Int := -1
def picoErrorTimeout : Int := -2

/-! ## Byte strings and C strings -/

abbrev Bytes := List UInt8

/-- The bytes of an ASCII literal of the source. -/
def ascii (s : String) : Bytes := s.toList.map Char.toUInt8

/-- A C string: the bytes before its terminating NUL. -/
structure CStr where
  bytes : Bytes
  nul_free : (0 : UInt8) ∉ bytes

/-- What `strlen` measures and `%s` copies out of a buffer: the bytes before the first NUL. -/
def cString (buf : Bytes) : Bytes := buf.takeWhile (· != 0)

/-- `snprintf(buf, size, …)` with `0 < size`, where `out` is the fully formatted text: the buffer
receives the first `size - 1` bytes of `out` and a NUL, and the call returns the length of `out`. -/
def snprintf (size : Nat) (out : Bytes) : Bytes × Nat := (out.take (size - 1) ++ [0], out.length)

/-- `printf`'s `%d` of a non-negative value. -/
def decimal (n : Nat) : Bytes := (Nat.toDigits 10 n).map Char.toUInt8

/-- `strncmp(s, t, n) == 0`, the end of either list read as its terminating NUL. -/
def strncmpEq : Nat → Bytes → Bytes → Bool
  | 0, _, _ => true
  | n + 1, s, t =>
    if s.headD 0 ≠ t.headD 0 then false
    else if s.headD 0 = 0 then true
    else strncmpEq n s.tail t.tail

theorem cString_of_nul_free {l : Bytes} (h : (0 : UInt8) ∉ l) : cString l = l :=
  List.takeWhile_eq_self_iff.2 fun x hx => by
    have : x ≠ 0 := fun e => h (e ▸ hx)
    simpa using this

/-- `strncmp` against a literal without NUL over the literal's length is a prefix test. -/
theorem strncmpEq_iff_prefix : ∀ (lit s : Bytes), (0 : UInt8) ∉ lit →
    (strncmpEq lit.length s lit = true ↔ lit <+: s)
  | [], s, _ => by simp [strncmpEq]
  | a :: l, s, h => by
    have ha : a ≠ 0 := fun e => h (e ▸ List.mem_cons_self a l)
    have hl : (0 : UInt8) ∉ l := fun hm => h (List.mem_cons_of_mem a hm)
    cases s with
    | nil => simp [strncmpEq, Ne.symm ha]
    | cons b s =>
      by_cases hb : b = a
      · subst hb
        simp [strncmpEq, ha, strncmpEq_iff_prefix l s hl, List.cons_prefix_cons]
      · simp [strncmpEq, hb, List.cons_prefix_cons, Ne.symm hb]

/-! ## Runs of an event-driven program -/

section Runs

variable {S E : Type} (step : S → E → Option S)

/-- The state after the events `es`, one step each, or `none` once a step cannot be taken. -/
def runSteps : S → List E → Option S
  | s, [] => some s
  | s, e :: es => (step s e).bind fun s' => runSteps s' es

theorem runSteps_append (s : S) (es fs : List E) :
    runSteps step s (es ++ fs) = (runSteps step s es).bind fun t => runSteps step t fs := by
  induction es generalizing s with
  | nil => rfl
  | cons e es ih => cases h : step s e <;> simp [runSteps, h, ih]

/-- A run that cannot be completed stops at one event: the events before it run, and it is
refused. -/
theorem runSteps_eq_none :
    ∀ {s : S} {es : List E}, runSteps step s es = none →
      ∃ pre e rest t, es = pre ++ e :: rest ∧ runSteps step s pre = some t ∧ step t e = none
  | _, [], h => absurd h (Option.some_ne_none _)
  | s, e :: es, h => by
    cases hs : step s e with
    | none => exact ⟨[], e, es, s, rfl, rfl, hs⟩
    | some t =>
      simp only [runSteps, hs, Option.some_bind] at h
      obtain ⟨pre, e', rest, t', rfl, ht, hn⟩ := runSteps_eq_none h
      exact ⟨e :: pre, e', rest, t', rfl, by simp [runSteps, hs, ht], hn⟩

/-- What every step by an event of `Q` keeps holds all along a run of such events. -/
theorem runSteps_inv_of (Q : E → Prop) (P : S → Prop)
    (hstep : ∀ s e s', Q e → P s → step s e = some s' → P s') :
    ∀ (es : List E) (s s' : S), (∀ e ∈ es, Q e) → P s → runSteps step s es = some s' → P s'
  | [], s, s', _, h, hr => by cases hr; exact h
  | e :: es, s, s', hq, h, hr => by
    cases hs : step s e with
    | none => simp [runSteps, hs] at hr
    | some t =>
      simp only [runSteps, hs, Option.bind_some] at hr
      exact runSteps_inv_of Q P hstep es t s' (fun x hx => hq x (List.mem_cons_of_mem e hx))
        (hstep s e t (hq e (List.mem_cons_self e es)) h hs) hr

/-- What every step keeps holds all along a run. -/
theorem runSteps_inv (P : S → Prop) (hstep : ∀ s e s', P s → step s e = some s' → P s')
    (es : List E) (s s' : S) (h : P s) (hr : runSteps step s es = some s') : P s' :=
  runSteps_inv_of step (fun _ => True) P (fun s e s' _ => hstep s e s') es s s' (fun _ _ => trivial) h hr

/-- A log that every step extends by what its event adds grows along a run by what all the events
add, in order. -/
theorem runSteps_log {α : Type} (f : S → List α) (g : E → List α)
    (hstep : ∀ s e s', step s e = some s' → f s' = f s ++ g e) :
    ∀ (es : List E) (s s' : S), runSteps step s es = some s' → f s' = f s ++ es.flatMap g
  | [], s, s', hr => by cases hr; simp
  | e :: es, s, s', hr => by
    cases hs : step s e with
    | none => simp [runSteps, hs] at hr
    | some t =>
      simp only [runSteps, hs, Option.bind_some] at hr
      rw [runSteps_log f g hstep es t s' hr, hstep s e t hs, List.flatMap_cons, List.append_assoc]

end Runs

end PicoExamples
