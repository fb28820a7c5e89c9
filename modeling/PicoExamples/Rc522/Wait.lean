/-
The `ComIrqReg` wait of `rc522_to_card`: over every sequence of register values, the driver goes on
to read `ErrorReg` exactly when one of the first 1999 polls shows bit 0 or a bit of `wait_irq`. The
loop reads `ComIrqReg` up to 2000 times, but the 2000th read brings `timeout` to 0 and leaves the
loop with `timeout == 0`, so a completion first seen there is taken for a timeout.

The proof is a step lemma for one poll (`pollComIrq_succ`), lifted by induction on `timeout` with the
bus generalised to the whole loop: what it returns (`pollComIrq_timeout`) and what it reads
(`pollComIrq_bus`).
-/
import PicoExamples.Rc522.Driver
import Mathlib.Data.List.GetD

namespace PicoExamples.Rc522

/-! ## One poll -/

/-- A `ComIrqReg` value that ends the wait: bit 0 or a bit of `wait_irq` set. -/
def irqDone (waitIrq n : UInt8) : Prop := n &&& 0x01 ≠ 0 ∨ n &&& waitIrq ≠ 0

instance (waitIrq n : UInt8) : Decidable (irqDone waitIrq n) := inferInstanceAs (Decidable (_ ∨ _))

theorem getD_zero_eq_headD {α : Type} (l : List α) (d : α) : l.getD 0 d = l.headD d := by
  cases l <;> rfl

theorem getD_tail {α : Type} (l : List α) (i : Nat) (d : α) : l.tail.getD i d = l.getD (i + 1) d := by
  cases l <;> simp

/-- The step lemma: a poll either ends the loop with `timeout` as it is, or goes on one read later
with `timeout` one lower. -/
theorem pollComIrq_succ (waitIrq : UInt8) (t : Nat) (b : Bus) :
    pollComIrq waitIrq (t + 1) b =
      if irqDone waitIrq (b.answers.getD 0 0) then (b.answers.headD 0, t + 1, (readRegister b rc522RegComIrq).2)
      else pollComIrq waitIrq t (readRegister b rc522RegComIrq).2 := by
  rw [getD_zero_eq_headD]
  by_cases h : irqDone waitIrq (b.answers.headD 0)
  · rw [if_pos h, pollComIrq, if_neg (by exact fun ⟨h1, h2⟩ => h.elim (· h1) (· h2))]; rfl
  · rw [if_neg h, pollComIrq, if_pos (by exact (not_or.1 h).imp not_not.1 not_not.1)]

/-! ## The whole loop -/

/-- Called with `timeout = t`, the loop leaves `timeout ≠ 0` exactly when one of the first `t`
values it reads ends the wait; the value read at `timeout = 0` is never tested. -/
theorem pollComIrq_timeout (waitIrq : UInt8) : ∀ (t : Nat) (b : Bus),
    (pollComIrq waitIrq t b).2.1 ≠ 0 ↔ ∃ i < t, irqDone waitIrq (b.answers.getD i 0)
  | 0, b => by simp [pollComIrq]
  | t + 1, b => by
    rw [pollComIrq_succ]
    split
    · exact iff_of_true (Nat.succ_ne_zero t) ⟨0, Nat.succ_pos t, ‹_›⟩
    · rw [pollComIrq_timeout waitIrq t, readRegister_answers]
      constructor
      · rintro ⟨i, hi, h⟩
        exact ⟨i + 1, by omega, by rwa [getD_tail] at h⟩
      · rintro ⟨_ | i, hi, h⟩
        · exact absurd h ‹_›
        · exact ⟨i, by omega, by rwa [getD_tail]⟩

/-- The loop reads `ComIrqReg` between once and `t + 1` times, and nothing else. -/
theorem pollComIrq_bus (waitIrq : UInt8) : ∀ (t : Nat) (b : Bus), ∃ k, 1 ≤ k ∧ k ≤ t + 1 ∧
    (pollComIrq waitIrq t b).2.2 = ⟨b.answers.drop k, b.log ++ List.replicate k (.read rc522RegComIrq)⟩
  | 0, b => ⟨1, le_rfl, le_rfl, by simp [pollComIrq, readRegister]⟩
  | t + 1, b => by
    rw [pollComIrq_succ]
    split
    · exact ⟨1, le_rfl, by omega, by simp [readRegister]⟩
    · obtain ⟨k, h1, h2, h⟩ := pollComIrq_bus waitIrq t (readRegister b rc522RegComIrq).2
      refine ⟨k + 1, by omega, by omega, ?_⟩
      rw [h]
      simp [readRegister, List.replicate_succ]

/-! ## The FIFO loops -/

theorem writeFifo_log (sendData : List UInt8) (b : Bus) :
    (writeFifo sendData b).log = b.log ++ sendData.map (.write rc522RegFifoData) := by
  induction sendData generalizing b with
  | nil => simp [writeFifo]
  | cons d ds ih =>
    show (writeFifo ds (writeRegister b rc522RegFifoData d)).log = _
    simp [ih, writeRegister]

theorem readFifo_log : ∀ (k : Nat) (b : Bus),
    (readFifo k b).2.log = b.log ++ List.replicate k (.read rc522RegFifoData)
  | 0, b => by simp [readFifo]
  | k + 1, b => by simp [readFifo, readFifo_log k, readRegister, List.replicate_succ]

/-! ## `rc522_to_card` after the wait -/

/-- `wait_irq` as `rc522_to_card` sets it for `cmd`. -/
def waitIrqOf (cmd : UInt8) : UInt8 :=
  if cmd = rc522CmdTransceive then 0x30 else if cmd = rc522CmdMfAuth then 0x10 else 0

/-- The register reads before the first `ComIrqReg` poll: those of `clear_bit_mask` and
`set_bit_mask`, and of the `BitFramingReg` `set_bit_mask` of a transceive. -/
def pollStart (cmd : UInt8) : Nat := if cmd = rc522CmdTransceive then 3 else 2

/-- On a bus that has not read `ErrorReg` yet, `rc522_to_card` reads it exactly when one of the first
1999 `ComIrqReg` values ends the wait, and otherwise returns status 2. -/
theorem rc522ToCard_wait {cmd : UInt8} {sendData : List UInt8} {b : Bus}
    (hb : Op.read rc522RegError ∉ b.log) :
    (Op.read rc522RegError ∈ (rc522ToCard cmd sendData b).bus.log ↔
      ∃ i < 1999, irqDone (waitIrqOf cmd) ((b.answers.drop (pollStart cmd)).getD i 0)) ∧
    ((¬∃ i < 1999, irqDone (waitIrqOf cmd) ((b.answers.drop (pollStart cmd)).getD i 0)) →
      (rc522ToCard cmd sendData b).status = 2) := by
  unfold rc522ToCard
  dsimp only
  generalize hbp : (if cmd = rc522CmdTransceive then setBitMask _ rc522RegBitFraming 0x80 else _ : Bus) = bp
  have hans : bp.answers = b.answers.drop (pollStart cmd) := by
    subst hbp
    split <;> simp only [pollStart, if_pos, if_neg, *, setBitMask_answers, writeRegister_answers, writeFifo_answers,
      clearBitMask_answers, ← List.drop_one, List.drop_drop, not_false_eq_true]
  have hlog : Op.read rc522RegError ∉ bp.log := by
    subst hbp
    split <;> simp only [writeFifo_log, writeRegister_log, setBitMask_log, clearBitMask_log, List.mem_append,
      List.mem_singleton, List.mem_map, hb, false_or, or_false, reduceCtorEq, Op.read.injEq, and_false, exists_false] <;> decide
  obtain ⟨k, -, -, hpoll⟩ := pollComIrq_bus (waitIrqOf cmd) 1999 bp
  rw [← hans, ← pollComIrq_timeout]
  simp only [waitIrqOf] at hpoll ⊢
  generalize pollComIrq _ 1999 bp = polled at hpoll ⊢
  have hE1 : rc522RegError ≠ rc522RegComIrq := by decide
  have hE2 : rc522RegError ≠ rc522RegBitFraming := by decide
  clear hbp
  by_cases h0 : polled.2.1 = 0
  · -- a timeout: the loop's `ComIrqReg` reads and the `BitFramingReg` mask, nothing else
    rw [if_pos h0]
    refine ⟨iff_of_false ?_ (not_not.2 h0), fun _ => rfl⟩
    simp only [clearBitMask_log, hpoll, List.mem_append, List.mem_replicate, List.mem_singleton, hlog,
      Op.read.injEq, hE1, hE2, reduceCtorEq, and_false, or_self, not_false_eq_true]
  · -- `ErrorReg` is read, and every later access is appended after it
    rw [if_neg h0]
    refine ⟨iff_of_true ?_ h0, fun h => absurd h (not_not.2 h0)⟩
    have herr : Op.read rc522RegError ∈
        (readRegister (clearBitMask polled.2.2 rc522RegBitFraming 128) rc522RegError).2.log := by
      rw [readRegister_log]; exact List.mem_append_right _ (List.mem_singleton_self _)
    generalize readRegister (clearBitMask polled.2.2 rc522RegBitFraming 128) rc522RegError = err at herr ⊢
    refine iteInduction (motive := fun c : ToCard => Op.read rc522RegError ∈ c.bus.log) (fun _ => herr)
      fun _ => iteInduction (motive := fun c : ToCard => Op.read rc522RegError ∈ c.bus.log) (fun _ => herr)
        fun _ => ?_
    simp only [readFifo_log, readRegister_log, List.mem_append, herr, true_or]

/-! ## A completion on the last poll -/

/-- Register reads that complete at the 2000th `ComIrqReg` poll of a transceive. -/
def lastPollReply : List UInt8 := List.replicate 3 0 ++ (List.replicate 1999 0 ++ [0x30])

/-- Over every sequence of register values, `rc522_to_card` reads `ErrorReg` exactly when one of the
first 1999 `ComIrqReg` polls ends the wait. A transceive whose 2000th poll is the first to show
`RxIRq | IdleIRq` is taken for a timeout: status 2, and `ErrorReg` is never read. -/
theorem rc522ToCard_misses_last_poll :
    (∀ (cmd : UInt8) (sendData answers : List UInt8),
      Op.read rc522RegError ∈ (rc522ToCard cmd sendData ⟨answers, []⟩).bus.log ↔
        ∃ i < 1999, irqDone (waitIrqOf cmd) ((answers.drop (pollStart cmd)).getD i 0)) ∧
    irqDone (waitIrqOf rc522CmdTransceive) ((lastPollReply.drop (pollStart rc522CmdTransceive)).getD 1999 0) ∧
    Op.read rc522RegError ∉ (rc522ToCard rc522CmdTransceive [mifareCmdReqa] ⟨lastPollReply, []⟩).bus.log ∧
    (rc522ToCard rc522CmdTransceive [mifareCmdReqa] ⟨lastPollReply, []⟩).status = 2 := by
  have hdrop : lastPollReply.drop (pollStart rc522CmdTransceive) = List.replicate 1999 0 ++ [0x30] :=
    List.drop_left' (List.length_replicate 3 0)
  have hpending : ¬∃ i < 1999, irqDone (waitIrqOf rc522CmdTransceive)
      ((lastPollReply.drop (pollStart rc522CmdTransceive)).getD i 0) := by
    rintro ⟨i, hi, h⟩
    rw [hdrop, List.getD_append _ _ _ _ ((List.length_replicate 1999 (0 : UInt8)).symm ▸ hi),
      List.getD_eq_getElem?_getD, List.getElem?_getD_replicate_default_eq] at h
    exact absurd h (by decide)
  have hwait := @rc522ToCard_wait rc522CmdTransceive [mifareCmdReqa] ⟨lastPollReply, []⟩ (List.not_mem_nil _)
  refine ⟨fun cmd sendData answers => (rc522ToCard_wait (List.not_mem_nil _)).1, ?_,
    fun h => hpending (hwait.1.1 h), hwait.2 hpending⟩
  rw [hdrop, List.getD_append_right _ _ _ _ (List.length_replicate 1999 (0 : UInt8)).le, List.length_replicate]
  decide

end PicoExamples.Rc522
