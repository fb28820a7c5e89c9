/-
The BMP280 side of `pico_w/adafruit_io_bmp280`: `bmp280_read_raw`'s packing of the two 20-bit
readings, `bmp280_get_calib_params`, and the fixed-point compensation `bmp280_convert`,
`bmp280_convert_temp` and `bmp280_convert_pressure`.

Every signed 32-bit intermediate is checked: one outside `int32_t` is undefined behaviour, and the
call then has no result (`none`). A left shift is a multiplication by a power of two; a right shift
of a negative value is arithmetic (a floor division), as the RP2040's compiler does it; `uint32_t`
arithmetic wraps modulo 2^32, and a `uint32_t` converted to `int32_t` wraps as that compiler does.
-/
import Mathlib.Tactic.Linarith

namespace PicoExamples.Bmp280

/-! ## C integers -/

/-- A signed 32-bit intermediate `x` passed on to the rest `k` of the computation: `none` when `x`
is outside `int32_t` (signed overflow). -/
def int32Then {α : Type} (x : Int) (k : Int → Option α) : Option α :=
  if -2 ^ 31 ≤ x ∧ x < 2 ^ 31 then k x else none

/-- A signed 32-bit intermediate that is the result. -/
def int32 (x : Int) : Option Int := int32Then x some

/-- `x >> k` on a signed value: an arithmetic shift, `x / 2^k` rounded down. -/
def shr (x : Int) (k : Nat) : Int := x / 2 ^ k

/-- Conversion to `uint32_t`: the value modulo 2^32. -/
def uint32 (x : Int) : Nat := (x % 2 ^ 32).toNat

/-- Conversion of a `uint32_t` value to `int32_t`. -/
def toInt32 (n : Nat) : Int := if n < 2 ^ 31 then n else (n : Int) - 2 ^ 32

section Checked

variable {α : Type} {x : Int} {k : Int → Option α}

theorem int32Then_of_bounds (h1 : -2 ^ 31 ≤ x) (h2 : x < 2 ^ 31) : int32Then x k = k x :=
  if_pos ⟨h1, h2⟩

theorem int32Then_of_le (h : 2 ^ 31 ≤ x) : int32Then x k = none :=
  if_neg fun h' => by omega

theorem int32Then_eq_some {b : α} (h : int32Then x k = some b) :
    (-2 ^ 31 ≤ x ∧ x < 2 ^ 31) ∧ k x = some b := by
  unfold int32Then at h
  split at h
  · exact ⟨‹_›, h⟩
  · cases h

/-- A checked intermediate in range passes its value on; `hf` sees it as a fresh name. -/
theorem int32Then_intro {P : Option α → Prop} (h1 : -2 ^ 31 ≤ x) (h2 : x < 2 ^ 31)
    (hf : ∀ v, v = x → P (k v)) : P (int32Then x k) := by
  rw [int32Then_of_bounds h1 h2]; exact hf x rfl

theorem int32Then_isSome (h1 : -2 ^ 31 ≤ x) (h2 : x < 2 ^ 31) (hf : ∀ v, v = x → (k v).isSome) :
    (int32Then x k).isSome :=
  int32Then_intro (P := fun o => o.isSome) h1 h2 hf

/-- A checked intermediate within `lo..hi`, an interval inside `int32_t`, passes on a value that
`hf` knows only by that interval. -/
theorem int32Then_within {P : Option α → Prop} (lo hi : Int) (h : -2 ^ 31 ≤ lo ∧ hi < 2 ^ 31)
    (hx : lo ≤ x ∧ x ≤ hi) (hf : ∀ v, lo ≤ v → v ≤ hi → P (k v)) : P (int32Then x k) :=
  int32Then_intro (by omega) (by omega) fun v hv => hv ▸ hf x hx.1 hx.2

end Checked

theorem uint32_of_lt {x : Int} (h0 : 0 ≤ x) (h1 : x < 2 ^ 32) : uint32 x = x.toNat := by
  rw [uint32, Int.emod_eq_of_lt h0 h1]

theorem toInt32_of_lt {n : Nat} (h : n < 2 ^ 31) : toInt32 n = n := if_pos h

/-! ## The sensor's registers -/

/-- `struct bmp280_calib_param`: `dig_t1` and `dig_p1` are `uint16_t`, the other ten `int16_t`. -/
structure Bmp280CalibParam where
  digT1 : UInt16
  digT2 : BitVec 16
  digT3 : BitVec 16
  digP1 : UInt16
  digP2 : BitVec 16
  digP3 : BitVec 16
  digP4 : BitVec 16
  digP5 : BitVec 16
  digP6 : BitVec 16
  digP7 : BitVec 16
  digP8 : BitVec 16
  digP9 : BitVec 16
  deriving DecidableEq, Repr

/-- `(hi << 8) | lo`, the little-endian 16-bit word of two calibration bytes. -/
def word16 (lo hi : UInt8) : Nat := hi.toNat <<< 8 ||| lo.toNat

/-- `bmp280_get_calib_params` on the 24 bytes read from `0x88` on; a failed read leaves `buf` as
its initialiser `{ 0 }` set it. -/
def bmp280GetCalibParams (buf : List UInt8) : Bmp280CalibParam :=
  let w (i : Nat) := word16 (buf.getD (2 * i) 0) (buf.getD (2 * i + 1) 0)
  ⟨.ofNat (w 0), .ofNat 16 (w 1), .ofNat 16 (w 2), .ofNat (w 3), .ofNat 16 (w 4), .ofNat 16 (w 5),
    .ofNat 16 (w 6), .ofNat 16 (w 7), .ofNat 16 (w 8), .ofNat 16 (w 9), .ofNat 16 (w 10),
    .ofNat 16 (w 11)⟩

/-- `(msb << 12) | (lsb << 4) | (xlsb >> 4)`, a 20-bit reading. -/
def pack20 (msb lsb xlsb : UInt8) : Nat := msb.toNat <<< 12 ||| lsb.toNat <<< 4 ||| xlsb.toNat >>> 4

/-- `bmp280_read_raw` on the six bytes read from `0xF7` on: the raw temperature and the raw
pressure. -/
def bmp280ReadRaw (buf : List UInt8) : Int × Int :=
  (pack20 (buf.getD 3 0) (buf.getD 4 0) (buf.getD 5 0), pack20 (buf.getD 0 0) (buf.getD 1 0) (buf.getD 2 0))

theorem pack20_lt (msb lsb xlsb : UInt8) : pack20 msb lsb xlsb < 2 ^ 20 := by
  have := msb.toNat_lt_size
  have := lsb.toNat_lt_size
  have := xlsb.toNat_lt_size
  simp only [UInt8.size] at *
  refine Nat.or_lt_two_pow (Nat.or_lt_two_pow ?_ ?_) ?_
  · rw [Nat.shiftLeft_eq]; omega
  · rw [Nat.shiftLeft_eq]; omega
  · rw [Nat.shiftRight_eq_div_pow]; omega

/-- Both readings of `bmp280_read_raw` are in `[0, 2^20)`. -/
theorem bmp280ReadRaw_range (buf : List UInt8) :
    (0 ≤ (bmp280ReadRaw buf).1 ∧ (bmp280ReadRaw buf).1 < 2 ^ 20) ∧
    (0 ≤ (bmp280ReadRaw buf).2 ∧ (bmp280ReadRaw buf).2 < 2 ^ 20) := by
  have h1 := pack20_lt (buf.getD 3 0) (buf.getD 4 0) (buf.getD 5 0)
  have h2 := pack20_lt (buf.getD 0 0) (buf.getD 1 0) (buf.getD 2 0)
  simp only [bmp280ReadRaw]
  omega

/-! ## The compensation formulas -/

section Formulas

variable (params : Bmp280CalibParam)

/-- `bmp280_convert`: the fine temperature `t_fine`. -/
def bmp280Convert (temp : Int) : Option Int :=
  let t1 : Int := params.digT1.toNat
  int32Then (t1 * 2 ^ 1) fun t1x2 =>
  int32Then (shr temp 3 - t1x2) fun d1 =>
  int32Then (d1 * params.digT2.toInt) fun m1 =>
  let var1 := shr m1 11
  int32Then (shr temp 4 - t1) fun d2 =>
  int32Then (d2 * d2) fun sq =>
  int32Then (shr sq 12 * params.digT3.toInt) fun m2 =>
  let var2 := shr m2 14
  int32 (var1 + var2)

/-- `bmp280_convert_temp`: hundredths of a degree Celsius. -/
def bmp280ConvertTemp (temp : Int) : Option Int :=
  (bmp280Convert params temp).bind fun tFine =>
  int32Then (tFine * 5) fun m =>
  int32Then (m + 128) fun s =>
  some (shr s 8)

/-- The first half of `bmp280_convert_pressure`, from `t_fine` alone: its `var1` (the divisor)
and `var2` before the raw pressure enters. -/
def pressureTerms (tFine : Int) : Option (Int × Int) :=
  int32Then (shr tFine 1 - 64000) fun var1 =>
  int32Then (shr var1 2 * shr var1 2) fun sq =>
  int32Then (shr sq 11 * params.digP6.toInt) fun var2 =>
  int32Then (var1 * params.digP5.toInt) fun m5 =>
  int32Then (m5 * 2 ^ 1) fun m5x2 =>
  int32Then (var2 + m5x2) fun var2 =>
  int32Then (params.digP4.toInt * 2 ^ 16) fun p4 =>
  int32Then (shr var2 2 + p4) fun var2 =>
  int32Then (shr var1 2 * shr var1 2) fun sq' =>
  int32Then (params.digP3.toInt * shr sq' 13) fun m3 =>
  int32Then (params.digP2.toInt * var1) fun m2 =>
  int32Then (shr m3 3 + shr m2 1) fun s =>
  let var1 := shr s 18
  int32Then (32768 + var1) fun s' =>
  int32Then (s' * params.digP1.toNat) fun m1 =>
  some (shr m1 15, var2)

/-- The second half of `bmp280_convert_pressure`, from the raw pressure and the two terms:
pascals, or 0 when the divisor is 0. -/
def pressureFromTerms (pressure var1 var2 : Int) : Option Int :=
  if var1 = 0 then some 0 else
  int32Then (1048576 - pressure) fun d =>
  let c := uint32 (uint32 d - shr var2 12) * 3125 % 2 ^ 32
  let c := if c < 0x80000000 then c * 2 ^ 1 % 2 ^ 32 / uint32 var1 else c / uint32 var1 * 2 % 2 ^ 32
  let w := ((c >>> 3) * (c >>> 3) % 2 ^ 32) >>> 13
  int32Then (params.digP9.toInt * w) fun m9 =>
  let var1 := shr m9 12
  int32Then (((c >>> 2 : Nat) : Int) * params.digP8.toInt) fun m8 =>
  let var2 := shr m8 13
  int32Then (var1 + var2) fun s =>
  int32Then (s + params.digP7.toInt) fun s =>
  -- the `uint32_t` cast of the sum and the `int32_t` return value cancel
  int32 (toInt32 c + shr s 4)

/-- `bmp280_convert_pressure`. -/
def bmp280ConvertPressure (pressure temp : Int) : Option Int :=
  (bmp280Convert params temp).bind fun tFine =>
  (pressureTerms params tFine).bind fun terms =>
  pressureFromTerms params pressure terms.1 terms.2

/-- `t_fine` stays within the two checked terms it adds: `|var1| ≤ 2^20`, `|var2| ≤ 2^17`. -/
theorem bmp280Convert_range {temp v : Int} (h : bmp280Convert params temp = some v) :
    -2 ^ 20 - 2 ^ 17 ≤ v ∧ v < 2 ^ 20 + 2 ^ 17 := by
  simp only [bmp280Convert, int32] at h
  obtain ⟨-, h⟩ := int32Then_eq_some h
  obtain ⟨-, h⟩ := int32Then_eq_some h
  obtain ⟨hm1, h⟩ := int32Then_eq_some h
  obtain ⟨-, h⟩ := int32Then_eq_some h
  obtain ⟨-, h⟩ := int32Then_eq_some h
  obtain ⟨hm2, h⟩ := int32Then_eq_some h
  obtain ⟨-, h⟩ := int32Then_eq_some h
  cases h
  simp only [shr] at *
  omega

/-- `bmp280_convert_temp` adds no overflow of its own: it is defined exactly where
`bmp280_convert` is. -/
theorem bmp280ConvertTemp_eq (temp : Int) :
    bmp280ConvertTemp params temp =
      (bmp280Convert params temp).map fun tFine : Int => shr (tFine * 5 + 128) 8 := by
  cases h : bmp280Convert params temp with
  | none => simp [bmp280ConvertTemp, h]
  | some v =>
    have := bmp280Convert_range params h
    simp only [bmp280ConvertTemp, h, Option.some_bind, Option.map_some']
    rw [int32Then_of_bounds (by omega) (by omega), int32Then_of_bounds (by omega) (by omega)]

end Formulas

end PicoExamples.Bmp280
