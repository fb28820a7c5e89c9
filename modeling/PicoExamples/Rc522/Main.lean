/-
`main` of `spi/rc522_spi`: `rc522_init`, the version read, then the `while (1)` loop that requests a
card with REQA and, when one answers, runs the anticollision and prints its UID. `tag_type[2]`
and `ser_num[5]` are `main`'s locals, never initialised; the stack buffers of `rc522_request` and
`rc522_anticoll` hold in each pass whatever the stack left there. The loop runs over every reader,
every sequence of register values and every stack content.

What is proved, over every run of the loop: `tag_type[1]`, printed with each detected card, is
never written, so every `Card detected!` line shows the byte the stack left in it. A run the model
cannot complete is one in which a pass's `rc522_request` receives more than two bytes into its
`buf[2]` (a FIFO level of 3 or more): C gives the rest of that run no meaning, and it is the only
run left out.
-/
import PicoExamples.Rc522.Frames

namespace PicoExamples.Rc522

/-! ## `rc522_init` -/

def rc522RegVersion : UInt8 := 0x37
def rc522RegMode : UInt8 := 0x11
def rc522RegTxControl : UInt8 := 0x14
def rc522RegTxAuto : UInt8 := 0x15
def rc522RegTMode : UInt8 := 0x2A
def rc522RegTPrescaler : UInt8 := 0x2B
def rc522RegTReloadH : UInt8 := 0x2C
def rc522RegTReloadL : UInt8 := 0x2D

def rc522CmdSoftReset : UInt8 := 0x0F

/-- `rc522_init` after the pulse of `rc522_reset` on the reset pin: the soft reset, the timer
(`TPrescaler * TReloadVal / 6.78 MHz = 24 ms`), 106 kBd, and the antenna on. -/
def rc522Init (b : Bus) : Bus :=
  let b := writeRegister b rc522RegCommand rc522CmdSoftReset
  let b := writeRegister b rc522RegTMode 0x8D
  let b := writeRegister b rc522RegTPrescaler 0x3E
  let b := writeRegister b rc522RegTReloadL 30
  let b := writeRegister b rc522RegTReloadH 0
  let b := writeRegister b rc522RegTxAuto 0x40
  let b := writeRegister b rc522RegMode 0x3D
  setBitMask b rc522RegTxControl 0x03

/-! ## `main` -/

/-- What `main` prints of the values it reads: the version, a detected card's `tag_type[0]` and
`tag_type[1]`, and `ser_num[0..4)`. -/
inductive Line
  | version (v : UInt8)
  | detected (type0 type1 : UInt8)
  | uid (serNum : List UInt8)
  deriving DecidableEq, Repr

/-- `main`'s `tag_type[2]` and `ser_num[5]`, the reader, and the lines printed so far. -/
structure Reader where
  tagType : Buffer 2
  serNum : Buffer 5
  bus : Bus
  out : List Line

/-- `main` up to its loop, with `tag_type` and `ser_num` as the stack leaves them. -/
def mainStart (tagType : Buffer 2) (serNum : Buffer 5) (b : Bus) : Reader :=
  let b := rc522Init b
  let v := readRegister b rc522RegVersion
  ⟨tagType, serNum, v.2, [.version v.1]⟩

/-- What the stack holds in one pass: `rc522_request`'s `buf[1]` and `rc522_anticoll`'s
`buf[2..16)`. -/
structure Stale where
  request : UInt8
  anticoll : Buffer 14

/-- One pass of `main`'s `while (1)`; `none` when a call writes past its buffer. -/
def mainPass (r : Reader) (stale : Stale) : Option Reader :=
  (rc522Request mifareCmdReqa stale.request r.tagType r.bus).bind fun (s, tagType, b) =>
    if s = 0 then
      let out := r.out ++ [.detected (tagType.1.getD 0 0) (tagType.1.getD 1 0)]
      (rc522Anticoll stale.anticoll r.serNum b).map fun (s', serNum, b') =>
        ⟨tagType, serNum, b', if s' = 0 then out ++ [.uid (serNum.1.take 4)] else out⟩
    else some { r with tagType := tagType, bus := b }

/-- The loop, one pass per element of `passes`. -/
def mainLoop (r : Reader) (passes : List Stale) : Option Reader := runSteps mainPass r passes

/-! ## One pass -/

/-- `rc522_request` writes `tag_type[0]` only. -/
theorem rc522Request_type1 {reqMode stale s : UInt8} {tagType tagType' : Buffer 2} {b b' : Bus}
    (h : rc522Request reqMode stale tagType b = some (s, tagType', b')) :
    tagType'.1.getD 1 0 = tagType.1.getD 1 0 := by
  unfold rc522Request at h
  cases hs : Buffer.store (⟨[reqMode, stale], rfl⟩ : Buffer 2) (requestToCard reqMode b).backData with
  | none => simp [hs] at h
  | some buf =>
    simp only [hs, Option.map_some', Option.some.injEq, Prod.mk.injEq] at h
    obtain ⟨-, rfl, -⟩ := h
    obtain ⟨x, y, hxy⟩ := List.length_eq_two.1 buf.2
    obtain ⟨u, v, huv⟩ := List.length_eq_two.1 tagType.2
    split_ifs <;> simp [hxy, huv]

/-- What a pass does: a failed REQA changes only `tag_type` and the reader; a detected card adds its
line, then the UID line when the anticollision succeeds. -/
theorem mainPass_cases {r r' : Reader} {stale : Stale} (h : mainPass r stale = some r') :
    ∃ s tagType b, rc522Request mifareCmdReqa stale.request r.tagType r.bus = some (s, tagType, b) ∧
      r'.tagType = tagType ∧
      ((s ≠ 0 ∧ r'.bus = b ∧ r'.out = r.out) ∨
       (s = 0 ∧ ∃ s' serNum, rc522Anticoll stale.anticoll r.serNum b = some (s', serNum, r'.bus) ∧
         (r'.out = r.out ++ [.detected (tagType.1.getD 0 0) (tagType.1.getD 1 0)] ∨
          r'.out = r.out ++ [.detected (tagType.1.getD 0 0) (tagType.1.getD 1 0), .uid (serNum.1.take 4)]))) := by
  unfold mainPass at h
  obtain ⟨⟨s, tagType, b⟩, hreq, h⟩ := Option.bind_eq_some.1 h
  refine ⟨s, tagType, b, hreq, ?_⟩
  dsimp only at h
  by_cases hs : s = 0
  · rw [if_pos hs] at h
    obtain ⟨⟨s', serNum, b'⟩, hac, rfl⟩ := Option.map_eq_some'.1 h
    refine ⟨rfl, .inr ⟨hs, s', serNum, hac, ?_⟩⟩
    split
    · exact .inr (by simp)
    · exact .inl rfl
  · rw [if_neg hs] at h
    cases h
    exact ⟨rfl, .inl ⟨hs, rfl, rfl⟩⟩

/-! ## Every run of the loop -/

/-- What stays true along the loop: `tag_type[1]` keeps the byte `t1`, and every detected line
shows it. -/
structure MainInv (t1 : UInt8) (r : Reader) : Prop where
  type1 : r.tagType.1.getD 1 0 = t1
  printed : ∀ t0 t, Line.detected t0 t ∈ r.out → t = t1

theorem mainPass_inv {t1 : UInt8} {r r' : Reader} {stale : Stale} (h : mainPass r stale = some r')
    (hi : MainInv t1 r) : MainInv t1 r' := by
  obtain ⟨s, tagType, b, hreq, htag, hcase⟩ := mainPass_cases h
  have h1 : tagType.1.getD 1 0 = t1 := (rc522Request_type1 hreq).trans hi.type1
  refine ⟨htag ▸ h1, fun t0 t ht => ?_⟩
  rcases hcase with ⟨-, -, hout⟩ | ⟨-, s', serNum, -, hout | hout⟩ <;> rw [hout] at ht
  · exact hi.printed t0 t ht
  all_goals
    simp only [List.mem_append, List.mem_cons, List.mem_singleton, Line.detected.injEq, reduceCtorEq,
      or_false, List.not_mem_nil] at ht
    rcases ht with ht | ⟨-, rfl⟩
    exacts [hi.printed t0 t ht, h1]

theorem mainStart_inv (tagType : Buffer 2) (serNum : Buffer 5) (b : Bus) :
    MainInv (tagType.1.getD 1 0) (mainStart tagType serNum b) :=
  ⟨rfl, by simp [mainStart]⟩

theorem mainLoop_inv (tagType : Buffer 2) (serNum : Buffer 5) (b : Bus) (passes : List Stale)
    {r : Reader} (h : mainLoop (mainStart tagType serNum b) passes = some r) :
    MainInv (tagType.1.getD 1 0) r :=
  runSteps_inv mainPass (MainInv (tagType.1.getD 1 0)) (fun _ _ _ hi h => mainPass_inv h hi) passes _ r
    (mainStart_inv tagType serNum b) h

/-- A pass fails only when the transceive of `rc522_request` overruns its two-byte `buf`: the
buffer of `rc522_anticoll` holds every transceive. -/
theorem mainPass_eq_none (r : Reader) (stale : Stale) :
    mainPass r stale = none ↔ 2 < (requestToCard mifareCmdReqa r.bus).backData.length := by
  rw [← rc522Request_eq_none mifareCmdReqa stale.request r.tagType r.bus]
  unfold mainPass
  cases rc522Request mifareCmdReqa stale.request r.tagType r.bus with
  | none => simp
  | some q =>
    simp only [Option.some_bind, reduceCtorEq, iff_false]
    split
    · simp [rc522Anticoll, anticollBuf_store]
    · simp

/-- `main` prints `tag_type[1]` with every card it detects but no code writes it: over every run of
the loop, whatever the reader answers and the stack holds, every `Card detected!` line shows the
byte `tag_type[1]` held before the loop. The runs this leaves out are those the model cannot
complete, and they are exactly the runs in which a pass's `rc522_request` receives more than two
bytes into its `buf[2]`. -/
theorem main_prints_unwritten_type1 (tagType : Buffer 2) (serNum : Buffer 5) (answers : List UInt8)
    (passes : List Stale) :
    (∀ r, mainLoop (mainStart tagType serNum ⟨answers, []⟩) passes = some r →
      r.tagType.1.getD 1 0 = tagType.1.getD 1 0 ∧
        ∀ t0 t1, Line.detected t0 t1 ∈ r.out → t1 = tagType.1.getD 1 0) ∧
    (mainLoop (mainStart tagType serNum ⟨answers, []⟩) passes = none →
      ∃ pre stale rest r, passes = pre ++ stale :: rest ∧
        mainLoop (mainStart tagType serNum ⟨answers, []⟩) pre = some r ∧
        2 < (requestToCard mifareCmdReqa r.bus).backData.length) := by
  refine ⟨fun r h => ?_, fun h => ?_⟩
  · have hi := mainLoop_inv tagType serNum _ passes h
    exact ⟨hi.type1, hi.printed⟩
  · obtain ⟨pre, stale, rest, r, hp, hr, hn⟩ := runSteps_eq_none mainPass h
    exact ⟨pre, stale, rest, r, hp, hr, (mainPass_eq_none r stale).1 hn⟩

/-- A reader that answers REQA with the ATQA `04 00` and the anticollision with the UID `01 02 04 08`
and its check byte `0F`, after the version `0x92`. -/
def cardReply : List UInt8 :=
  [0x80, 0x92] ++ [0, 0, 0, 0x30, 0, 0, 2, 0, 0x04, 0x00] ++ [0, 0, 0, 0x30, 0, 0, 5, 0, 0x01, 0x02, 0x04, 0x08, 0x0F]

theorem main_prints_unwritten_type1_card :
    ∃ r, mainLoop (mainStart ⟨[0, 0x5A], rfl⟩ ⟨List.replicate 5 0, rfl⟩ ⟨cardReply, []⟩)
        [⟨0, ⟨List.replicate 14 0, rfl⟩⟩] = some r ∧
      r.out = [.version 0x92, .detected 0x04 0x5A, .uid [0x01, 0x02, 0x04, 0x08]] ∧
      r.tagType.1.getD 1 0 = 0x5A ∧ ∀ t0 t1, Line.detected t0 t1 ∈ r.out → t1 = 0x5A :=
  ⟨_, rfl, rfl, (main_prints_unwritten_type1 ⟨[0, 0x5A], rfl⟩ ⟨List.replicate 5 0, rfl⟩ cardReply
    [⟨0, ⟨List.replicate 14 0, rfl⟩⟩]).1 _ rfl⟩

end PicoExamples.Rc522
