/-
The two frames `spi/rc522_spi` sends and checks: `rc522_request` (REQA, answered by a 2-byte ATQA)
and `rc522_anticoll` (SELECT 0x93 0x70, answered by four UID bytes and their XOR). Each hands its
own stack buffer to `rc522_to_card` as `back_data`. A caller's buffer is a list of its C length;
a store past its end is undefined behaviour, and the call then has no result (`none`).

What is proved: `rc522_anticoll`'s 16-byte buffer holds every transceive, while `rc522_request`'s
2-byte one is overrun by every FIFO level above 2; on the runs that stay in bounds, which frames
each function accepts and what it copies out.
-/
import PicoExamples.Rc522.Driver

namespace PicoExamples.Rc522

/-! ## Caller buffers -/

/-- A C array of `n` bytes. -/
abbrev Buffer (n : Nat) := { l : List UInt8 // l.length = n }

/-- The contents of `buf` after `data` is stored from `buf[0]` on. -/
def Buffer.stored {n : Nat} (buf : Buffer n) (data : List UInt8) : List UInt8 :=
  data ++ buf.1.drop data.length

theorem Buffer.stored_length {n : Nat} (buf : Buffer n) {data : List UInt8} (h : data.length ≤ n) :
    (buf.stored data).length = n := by
  simp only [Buffer.stored, List.length_append, List.length_drop, buf.2]; omega

/-- `rc522_to_card` storing `data` at `back_data[0..)` of `buf`: `none` when it writes past the end. -/
def Buffer.store {n : Nat} (buf : Buffer n) (data : List UInt8) : Option (Buffer n) :=
  if h : data.length ≤ n then some ⟨buf.stored data, buf.stored_length h⟩ else none

@[simp] theorem Buffer.store_eq_none {n : Nat} (buf : Buffer n) (data : List UInt8) :
    buf.store data = none ↔ n < data.length := by
  unfold Buffer.store; split <;> simp <;> omega

theorem Buffer.store_eq_some {n : Nat} {buf buf' : Buffer n} {data : List UInt8}
    (h : buf.store data = some buf') : data.length ≤ n ∧ buf'.1 = buf.stored data := by
  unfold Buffer.store at h
  split at h
  · cases h; exact ⟨‹_›, rfl⟩
  · cases h

/-! ## `rc522_request` -/

/-- The transceive `rc522_request` makes: `BitFramingReg` set for a 7-bit frame, then `req_mode`
sent from `buf[0]`. -/
def requestToCard (reqMode : UInt8) (b : Bus) : ToCard :=
  rc522ToCard rc522CmdTransceive [reqMode] (writeRegister b rc522RegBitFraming 0x07)

/-- `rc522_request`: `buf` is `{req_mode, ?}` with its second byte as the stack left it, and
`tagType` is the caller's `tag_type[2]`. -/
def rc522Request (reqMode : UInt8) (stale : UInt8) (tagType : Buffer 2) (b : Bus) :
    Option (UInt8 × Buffer 2 × Bus) :=
  let buf : Buffer 2 := ⟨[reqMode, stale], rfl⟩
  let r := requestToCard reqMode b
  (buf.store r.backData).map fun buf =>
    let status : UInt8 := if r.status ≠ 0 ∨ r.backLen ≠ some 0x10 then 1 else 0
    (status, if status = 0 then ⟨buf.1.take 1 ++ tagType.1.drop 1, by simp [buf.2, tagType.2]⟩ else tagType, r.bus)

theorem rc522Request_eq_none (reqMode stale : UInt8) (tagType : Buffer 2) (b : Bus) :
    rc522Request reqMode stale tagType b = none ↔ 2 < (requestToCard reqMode b).backData.length := by
  simp [rc522Request]

/-- A reader that completes a transceive at once and without error, with `level` in `FIFOLevelReg`,
a whole last byte, and `data` (then zeros) in its FIFO. -/
def transceiveReply (level : UInt8) (data : List UInt8) : Bus :=
  ⟨[0, 0, 0, 0x30, 0, 0, level, 0] ++ data, []⟩

theorem requestToCard_transceiveReply_length (reqMode level : UInt8) (data : List UInt8) :
    (requestToCard reqMode (transceiveReply level data)).backData.length =
      min (max level.toNat 1) rc522MaxLen := by
  simp only [requestToCard, rc522ToCard, if_true]
  rw [pollComIrq_of_irq (by simp [transceiveReply]; decide)]
  simp [readRegister, transceiveReply, readFifo_length, show (0 : UInt8) &&& 0x1B = 0 from rfl]

/-- On a run within `buf`, `rc522_request` returns 0 exactly when the transceive succeeds with two
bytes read and a bit count of 16, and then `tag_type[0]` is the first byte read. -/
theorem rc522Request_ok {reqMode stale : UInt8} {tagType tagType' : Buffer 2} {b b' : Bus} {s : UInt8}
    (h : rc522Request reqMode stale tagType b = some (s, tagType', b')) :
    (s = 0 ↔ (requestToCard reqMode b).status = 0 ∧ (requestToCard reqMode b).backData.length = 2 ∧
      (requestToCard reqMode b).backLen = some 16) ∧
    (s = 0 → tagType'.1.head? = (requestToCard reqMode b).backData.head?) := by
  unfold rc522Request at h
  cases hs : Buffer.store (⟨[reqMode, stale], rfl⟩ : Buffer 2) (requestToCard reqMode b).backData with
  | none => simp [hs] at h
  | some buf =>
    obtain ⟨hlen, hbuf⟩ := Buffer.store_eq_some hs
    simp only [hs, Option.map_some'] at h
    by_cases hc : (requestToCard reqMode b).status = 0 ∧ (requestToCard reqMode b).backLen = some 16
    · have h2 : (requestToCard reqMode b).backData.length = 2 := rc522ToCard_length_of_bitCount hlen hc.2
      simp only [hc, ne_eq, not_true_eq_false, or_self, if_true, Prod.mk.injEq] at h
      obtain ⟨rfl, rfl, -⟩ := h
      obtain ⟨x, y, hxy⟩ := List.length_eq_two.1 h2
      exact ⟨by simp [hc, h2], fun _ => by simp [hbuf, Buffer.stored, hxy]⟩
    · have hc' : (requestToCard reqMode b).status ≠ 0 ∨ (requestToCard reqMode b).backLen ≠ some 16 :=
        not_and_or.1 hc
      rw [if_pos hc', if_neg (by decide)] at h
      obtain ⟨rfl, -⟩ := Prod.mk.inj (Option.some.inj h)
      have h10 : (1 : UInt8) ≠ 0 := by decide
      exact ⟨⟨fun e => absurd e h10, fun ⟨h0, _, h16⟩ => absurd ⟨h0, h16⟩ hc⟩, fun e => absurd e h10⟩

/-! ## `rc522_anticoll` -/

/-- The transceive `rc522_anticoll` makes: `BitFramingReg` cleared, then `{0x93, 0x70}` sent from
`buf`. -/
def anticollToCard (b : Bus) : ToCard :=
  rc522ToCard rc522CmdTransceive [mifareCmdSelect, 0x70] (writeRegister b rc522RegBitFraming 0x00)

/-- `rc522_anticoll`'s `buf[RC522_MAX_LEN]`: `{0x93, 0x70, …}` with the rest as the stack left it. -/
def anticollBuf (stale : Buffer 14) : Buffer 16 := ⟨[mifareCmdSelect, 0x70] ++ stale.1, by simp [stale.2]⟩

/-- The XOR of `buf[0..4)`. -/
def serNumCheck (buf : List UInt8) : UInt8 := (buf.take 4).foldl (· ^^^ ·) 0

/-- `rc522_anticoll`: `serNum` is the caller's `ser_num[5]`. -/
def rc522Anticoll (stale : Buffer 14) (serNum : Buffer 5) (b : Bus) : Option (UInt8 × Buffer 5 × Bus) :=
  let r := anticollToCard b
  ((anticollBuf stale).store r.backData).map fun buf =>
    let status : UInt8 := if r.status = 0 ∧ serNumCheck buf.1 ≠ buf.1.getD 4 0 then 2 else r.status
    (status, if status = 0 then ⟨buf.1.take 4 ++ serNum.1.drop 4, by simp [buf.2, serNum.2]⟩ else serNum, r.bus)

theorem anticollToCard_backData_length (b : Bus) : (anticollToCard b).backData.length ≤ 16 :=
  rc522ToCard_backData_length _ _

/-- `rc522_anticoll`'s buffer holds every transceive. -/
theorem anticollBuf_store (stale : Buffer 14) (b : Bus) :
    (anticollBuf stale).store (anticollToCard b).backData =
      some ⟨(anticollBuf stale).stored (anticollToCard b).backData,
        Buffer.stored_length _ (anticollToCard_backData_length b)⟩ :=
  dif_pos (anticollToCard_backData_length b)

theorem anticollStatus_eq_zero (status check last : UInt8) :
    (if status = 0 ∧ check ≠ last then (2 : UInt8) else status) = 0 ↔ status = 0 ∧ check = last := by
  by_cases h : status = 0 ∧ check ≠ last
  · rw [if_pos h]
    exact ⟨fun e => absurd e (by decide), fun h' => absurd h'.2 h.2⟩
  · rw [if_neg h]
    exact ⟨fun e => ⟨e, not_not.1 fun hc => h ⟨e, hc⟩⟩, And.left⟩

/-- `rc522_anticoll` always has a result, and returns 0 exactly when the transceive succeeds and
`buf[4]` is the XOR of `buf[0..4)`, whatever number of bytes was read; `ser_num[0..4)` is then
`buf[0..4)`. -/
theorem rc522Anticoll_ok (stale : Buffer 14) (serNum : Buffer 5) (b : Bus) :
    ∃ s serNum' b', rc522Anticoll stale serNum b = some (s, serNum', b') ∧
      (s = 0 ↔ (anticollToCard b).status = 0 ∧
        serNumCheck ((anticollBuf stale).stored (anticollToCard b).backData) =
          ((anticollBuf stale).stored (anticollToCard b).backData).getD 4 0) ∧
      (s = 0 → serNum'.1.take 4 = ((anticollBuf stale).stored (anticollToCard b).backData).take 4) := by
  simp only [rc522Anticoll, anticollBuf_store, Option.map_some']
  refine ⟨_, _, _, rfl, anticollStatus_eq_zero _ _ _, fun h => ?_⟩
  have h16 := Buffer.stored_length (anticollBuf stale) (anticollToCard_backData_length b)
  rw [if_pos h, List.take_append_of_le_length (by simp [h16]), List.take_take, min_self]

/-! ## The buffers against every reader -/

/-- `rc522_anticoll`'s 16-byte `buf` holds every transceive, but `rc522_request` hands its 2-byte
`buf` to a transceive that stores up to `RC522_MAX_LEN` bytes: a reader reporting any FIFO level
above 2 makes it write past `buf`. -/
theorem rc522Request_overruns_buf :
    (∀ stale serNum b, ∃ r, rc522Anticoll stale serNum b = some r) ∧
    ∀ (level : UInt8) (tagType : Buffer 2),
      (requestToCard mifareCmdReqa (transceiveReply level [])).backData.length =
        min (max level.toNat 1) rc522MaxLen ∧
      (rc522Request mifareCmdReqa 0 tagType (transceiveReply level []) = none ↔ 2 < level.toNat) := by
  refine ⟨fun stale serNum b => ?_, fun level tagType => ?_⟩
  · obtain ⟨_, _, _, h, -⟩ := rc522Anticoll_ok stale serNum b
    exact ⟨_, h⟩
  rw [rc522Request_eq_none, requestToCard_transceiveReply_length]
  exact ⟨rfl, by simp only [rc522MaxLen]; omega⟩

/-! ## Which frames are accepted -/

/-- What each frame check accepts, for every reader: on a run within its `buf`, `rc522_request`
returns 0 exactly when the transceive succeeds with two bytes read and a bit count of 16, and
`tag_type[0]` is then the first byte; `rc522_anticoll` returns 0 exactly when the transceive
succeeds and `buf[4]` is the XOR of `buf[0..4)`, and `ser_num[0..4)` is then `buf[0..4)`. -/
theorem rc522_frame_checks (reqMode stale : UInt8) (tagType : Buffer 2) (staleBuf : Buffer 14)
    (serNum : Buffer 5) (b : Bus) :
    (∀ s tagType' b', rc522Request reqMode stale tagType b = some (s, tagType', b') →
      (s = 0 ↔ (requestToCard reqMode b).status = 0 ∧ (requestToCard reqMode b).backData.length = 2 ∧
        (requestToCard reqMode b).backLen = some 16) ∧
      (s = 0 → tagType'.1.head? = (requestToCard reqMode b).backData.head?)) ∧
    ∃ s serNum' b', rc522Anticoll staleBuf serNum b = some (s, serNum', b') ∧
      (s = 0 ↔ (anticollToCard b).status = 0 ∧
        serNumCheck ((anticollBuf staleBuf).stored (anticollToCard b).backData) =
          ((anticollBuf staleBuf).stored (anticollToCard b).backData).getD 4 0) ∧
      (s = 0 → serNum'.1.take 4 = ((anticollBuf staleBuf).stored (anticollToCard b).backData).take 4) :=
  ⟨fun _ _ _ h => rc522Request_ok h, rc522Anticoll_ok staleBuf serNum b⟩

/-- A UID frame followed by eleven more bytes. -/
def longUidReply : Bus := transceiveReply 16 [0x01, 0x02, 0x04, 0x08, 0x0F]

/-- `rc522_anticoll` accepts a 16-byte (128-bit) reply whose fifth byte is the XOR of the first
four: it checks no length. -/
theorem rc522Anticoll_accepts_long_reply :
    (anticollToCard longUidReply).backData.length = 16 ∧
    (anticollToCard longUidReply).backLen = some 128 ∧
    ∃ serNum' b', rc522Anticoll ⟨List.replicate 14 0, rfl⟩ ⟨List.replicate 5 0, rfl⟩ longUidReply =
      some (0, serNum', b') ∧ serNum'.1.take 4 = [0x01, 0x02, 0x04, 0x08] :=
  ⟨rfl, rfl, _, _, rfl, rfl⟩

end PicoExamples.Rc522
