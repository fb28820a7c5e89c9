/-
The RC522 driver of `spi/rc522_spi`: `read_register` and `write_register` over SPI, the
read-modify-write masks, `rc522_to_card` with its FIFO loops and its `ComIrqReg` polling loop, and
what a transceive stores: at most `RC522_MAX_LEN` bytes, and a bit count in an 8-bit `back_len`.
The reader answers each register read with whatever the list of answers holds next, so every
sequence of register values is one bus.
-/
import PicoExamples.Net.Basic

namespace PicoExamples.Rc522

/-! ## Registers and commands -/

def rc522RegCommand : UInt8 := 0x01
def rc522RegComIEn : UInt8 := 0x02
def rc522RegComIrq : UInt8 := 0x04
def rc522RegError : UInt8 := 0x06
def rc522RegFifoData : UInt8 := 0x09
def rc522RegFifoLevel : UInt8 := 0x0A
def rc522RegControl : UInt8 := 0x0C
def rc522RegBitFraming : UInt8 := 0x0D

def rc522CmdIdle : UInt8 := 0x00
def rc522CmdTransceive : UInt8 := 0x0C
def rc522CmdMfAuth : UInt8 := 0x0E

def mifareCmdReqa : UInt8 := 0x26
def mifareCmdSelect : UInt8 := 0x93

/-- `RC522_MAX_LEN`. -/
def rc522MaxLen : Nat := 16

/-! ## The bus -/

/-- One register access over SPI. -/
inductive Op
  | read (reg : UInt8)
  | write (reg data : UInt8)
  deriving DecidableEq, Repr

/-- The reader as the driver sees it: what its next register reads return, and the accesses so
far. A read past the end of `answers` returns 0. -/
structure Bus where
  answers : List UInt8
  log : List Op
  deriving DecidableEq, Repr

section Bus

variable (b : Bus)

/-- `read_register`. -/
def readRegister (reg : UInt8) : UInt8 × Bus :=
  (b.answers.headD 0, ⟨b.answers.tail, b.log ++ [.read reg]⟩)

/-- `write_register`. -/
def writeRegister (reg data : UInt8) : Bus := { b with log := b.log ++ [.write reg data] }

/-- `clear_bit_mask`. -/
def clearBitMask (reg mask : UInt8) : Bus :=
  let r := readRegister b reg
  writeRegister r.2 reg (r.1 &&& ~~~mask)

/-- `set_bit_mask`. -/
def setBitMask (reg mask : UInt8) : Bus :=
  let r := readRegister b reg
  writeRegister r.2 reg (r.1 ||| mask)

@[simp] theorem readRegister_answers (reg : UInt8) : (readRegister b reg).2.answers = b.answers.tail := rfl
@[simp] theorem writeRegister_answers (reg data : UInt8) : (writeRegister b reg data).answers = b.answers :=
  rfl
@[simp] theorem clearBitMask_answers (reg mask : UInt8) : (clearBitMask b reg mask).answers = b.answers.tail :=
  rfl
@[simp] theorem setBitMask_answers (reg mask : UInt8) : (setBitMask b reg mask).answers = b.answers.tail :=
  rfl

@[simp] theorem readRegister_log (reg : UInt8) : (readRegister b reg).2.log = b.log ++ [.read reg] := rfl
@[simp] theorem writeRegister_log (reg data : UInt8) :
    (writeRegister b reg data).log = b.log ++ [.write reg data] := rfl
@[simp] theorem clearBitMask_log (reg mask : UInt8) :
    (clearBitMask b reg mask).log = b.log ++ [.read reg] ++ [.write reg (b.answers.headD 0 &&& ~~~mask)] := rfl
@[simp] theorem setBitMask_log (reg mask : UInt8) :
    (setBitMask b reg mask).log = b.log ++ [.read reg] ++ [.write reg (b.answers.headD 0 ||| mask)] := rfl

end Bus

/-! ## `rc522_to_card` -/

/-- The `do … while` loop on `ComIrqReg` after its first `timeout--`: `t` is the value `timeout`
takes at this read. It returns the last value read, `timeout` after the loop, and the bus. -/
def pollComIrq (waitIrq : UInt8) : Nat → Bus → UInt8 × Nat × Bus
  | 0, b => let r := readRegister b rc522RegComIrq; (r.1, 0, r.2)
  | t + 1, b =>
    let r := readRegister b rc522RegComIrq
    if r.1 &&& 0x01 = 0 ∧ r.1 &&& waitIrq = 0 then pollComIrq waitIrq t r.2 else (r.1, t + 1, r.2)

/-- The FIFO write loop: `send_data[0..send_len)` into `FIFODataReg`. -/
def writeFifo (sendData : List UInt8) (b : Bus) : Bus :=
  sendData.foldl (fun b d => writeRegister b rc522RegFifoData d) b

@[simp] theorem writeFifo_answers (sendData : List UInt8) (b : Bus) :
    (writeFifo sendData b).answers = b.answers := by
  induction sendData generalizing b with
  | nil => rfl
  | cons d ds ih => exact ih _

/-- The FIFO read loop: `n` reads of `FIFODataReg`, stored at `back_data[0..n)`. -/
def readFifo : Nat → Bus → List UInt8 × Bus
  | 0, b => ([], b)
  | k + 1, b =>
    let r := readRegister b rc522RegFifoData
    let rest := readFifo k r.2
    (r.1 :: rest.1, rest.2)

/-- What `rc522_to_card` returns and stores: its status, the bytes it stores at `back_data[0]`,
`back_data[1]`, … in order, and `*back_len` when it stores it. -/
structure ToCard where
  status : UInt8
  backData : List UInt8
  backLen : Option UInt8
  bus : Bus
  deriving DecidableEq, Repr

/-- `rc522_to_card`. The bit count `(n - 1) * 8 + last_bits` or `n * 8` is stored in the
`uint8_t` at `back_len`, modulo 256. -/
def rc522ToCard (cmd : UInt8) (sendData : List UInt8) (b : Bus) : ToCard :=
  let irqEn : UInt8 := if cmd = rc522CmdTransceive then 0x77 else if cmd = rc522CmdMfAuth then 0x12 else 0
  let waitIrq : UInt8 := if cmd = rc522CmdTransceive then 0x30 else if cmd = rc522CmdMfAuth then 0x10 else 0
  let b := writeRegister b rc522RegComIEn (irqEn ||| 0x80)
  let b := clearBitMask b rc522RegComIrq 0x80
  let b := setBitMask b rc522RegFifoLevel 0x80
  let b := writeRegister b rc522RegCommand rc522CmdIdle
  let b := writeFifo sendData b
  let b := writeRegister b rc522RegCommand cmd
  let b := if cmd = rc522CmdTransceive then setBitMask b rc522RegBitFraming 0x80 else b
  let polled := pollComIrq waitIrq 1999 b
  let n := polled.1
  let b := clearBitMask polled.2.2 rc522RegBitFraming 0x80
  if polled.2.1 = 0 then ⟨2, [], none, b⟩
  else
    let err := readRegister b rc522RegError
    if err.1 &&& 0x1B ≠ 0 then ⟨2, [], none, err.2⟩
    else
      let status : UInt8 := if n &&& irqEn &&& 0x01 ≠ 0 then 1 else 0
      if cmd ≠ rc522CmdTransceive then ⟨status, [], none, err.2⟩
      else
        let level := readRegister err.2 rc522RegFifoLevel
        let control := readRegister level.2 rc522RegControl
        let lastBits := control.1 &&& 0x07
        let backLen := if lastBits ≠ 0 then (level.1 - 1) * 8 + lastBits else level.1 * 8
        let count := min (max level.1.toNat 1) rc522MaxLen
        let data := readFifo count control.2
        ⟨status, data.1, some backLen, data.2⟩

/-! ## What a transceive stores -/

theorem readFifo_length : ∀ (k : Nat) (b : Bus), (readFifo k b).1.length = k
  | 0, _ => rfl
  | k + 1, b => by simp [readFifo, readFifo_length k]

theorem and_seven_lt (x : UInt8) : x &&& 0x07 < 8 := by
  rw [UInt8.lt_def, BitVec.lt_def]
  exact Nat.lt_of_le_of_lt (by simpa using Nat.and_le_right) (by decide)

/-- A transceive stores nothing, or reads `FIFOLevelReg`'s `level` and `ControlReg`'s last bits: it
then stores `level` bytes clamped to `1..RC522_MAX_LEN` and the bit count of a reply of `level`
bytes whose last byte holds `lastBits` bits (all of them when 0). -/
theorem rc522ToCard_transceive (sendData : List UInt8) (b : Bus) :
    ((rc522ToCard rc522CmdTransceive sendData b).backLen = none ∧
      (rc522ToCard rc522CmdTransceive sendData b).backData = []) ∨
    ∃ level lastBits : UInt8, lastBits < 8 ∧
      (rc522ToCard rc522CmdTransceive sendData b).backLen =
        some (if lastBits ≠ 0 then (level - 1) * 8 + lastBits else level * 8) ∧
      (rc522ToCard rc522CmdTransceive sendData b).backData.length = min (max level.toNat 1) rc522MaxLen := by
  unfold rc522ToCard
  generalize pollComIrq _ 1999 _ = p
  simp only [if_true, ne_eq, not_true_eq_false, if_false]
  split
  · exact .inl ⟨rfl, rfl⟩
  split
  · exact .inl ⟨rfl, rfl⟩
  · exact .inr ⟨_, _, and_seven_lt _, rfl, readFifo_length _ _⟩

/-- A poll that reads bit 0 or a bit of `wait_irq` set ends the loop. -/
theorem pollComIrq_of_irq {waitIrq : UInt8} {t : Nat} {b : Bus}
    (h : ¬(b.answers.headD 0 &&& 0x01 = 0 ∧ b.answers.headD 0 &&& waitIrq = 0)) :
    pollComIrq waitIrq (t + 1) b = (b.answers.headD 0, t + 1, (readRegister b rc522RegComIrq).2) :=
  if_neg h

/-- `RC522_MAX_LEN` bounds the bytes a transceive stores at `back_data`, whatever the registers. -/
theorem rc522ToCard_backData_length (sendData : List UInt8) (b : Bus) :
    (rc522ToCard rc522CmdTransceive sendData b).backData.length ≤ rc522MaxLen := by
  rcases rc522ToCard_transceive sendData b with ⟨-, h⟩ | ⟨_, _, -, -, h⟩ <;> simp [h]

/-- At a FIFO level of at most 2, the 8-bit bit count is 16 only for two whole bytes. -/
theorem bitCount_eq_sixteen {level lastBits : UInt8} (hl : lastBits < 8) (hlen : level.toNat ≤ 2)
    (h : (if lastBits ≠ 0 then (level - 1) * 8 + lastBits else level * 8) = 16) :
    level = 2 ∧ lastBits = 0 := by
  obtain ⟨L⟩ := level
  obtain ⟨B⟩ := lastBits
  have h' := congrArg UInt8.toBitVec h
  simp only [UInt8.lt_def, UInt8.toNat, UInt8.toBitVec_ofNat] at hl hlen
  split at h'
  · -- a partial last byte leaves the bit count a remainder modulo 8
    rename_i hne
    have hB : B ≠ 0#8 := fun e => hne (congrArg UInt8.mk e)
    simp only [UInt8.sub_def, UInt8.mul_def, UInt8.add_def, UInt8.toBitVec_ofNat] at h'
    bv_omega
  · simp only [UInt8.mul_def, UInt8.toBitVec_ofNat] at h'
    exact ⟨UInt8.eq_of_toBitVec_eq (by simp only [UInt8.toBitVec_ofNat]; bv_omega), not_not.1 ‹_›⟩

/-- A transceive that stores at most two bytes and reports 16 bits stored exactly two. -/
theorem rc522ToCard_length_of_bitCount {sendData : List UInt8} {b : Bus}
    (hlen : (rc522ToCard rc522CmdTransceive sendData b).backData.length ≤ 2)
    (h16 : (rc522ToCard rc522CmdTransceive sendData b).backLen = some 16) :
    (rc522ToCard rc522CmdTransceive sendData b).backData.length = 2 := by
  rcases rc522ToCard_transceive sendData b with ⟨h, -⟩ | ⟨level, lastBits, hl, hb, hd⟩
  · rw [h] at h16; cases h16
  · rw [hd] at hlen ⊢
    rw [hb] at h16
    have hlevel : level.toNat ≤ 2 := by simp only [rc522MaxLen] at hlen; omega
    rw [(bitCount_eq_sixteen hl hlevel (Option.some.inj h16)).1]
    rfl

end PicoExamples.Rc522
