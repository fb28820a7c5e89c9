/-
Where the BMP280 compensation stays inside `int32_t`. Not for every calibration record: the
all-zero record that a failed calibration read leaves overflows `bmp280_convert`'s square
`((temp >> 4) - dig_t1)^2` from raw temperature 741456 on. With the example record of the sensor's
documentation, the record the reference vector uses, the temperature path is defined on every
20-bit reading and the pressure path on every raw pressure at raw temperatures from 300000 to
740000, readings of -44.36 °C to 93.50 °C.

The proofs bound each intermediate in turn: `int32Then_intro` names it, or `int32Then_within`
keeps only its interval, `omega` bounds it, and the few squares are bounded by
`mul_self_le_mul_self`.
-/
import PicoExamples.Bmp280.Compensation

namespace PicoExamples.Bmp280

/-! ## The record a failed calibration read leaves -/

/-- `bmp280_get_calib_params` after a failed read: `buf` still all zero. -/
def zeroCalib : Bmp280CalibParam := bmp280GetCalibParams (List.replicate 24 0)

theorem zeroCalib_eq : zeroCalib = ⟨0, 0, 0, 0, 0, 0, 0, 0, 0, 0, 0, 0⟩ := by decide

/-- With the all-zero record, `t_fine` is 0 below raw temperature 741456, and the square of
`(temp >> 4) - dig_t1` overflows from there on. -/
theorem bmp280Convert_zero {temp : Int} (h0 : 0 ≤ temp) (h1 : temp < 2 ^ 20) :
    bmp280Convert zeroCalib temp = if temp < 741456 then some 0 else none := by
  have hz : (0 : BitVec 16).toInt = 0 := rfl
  rw [zeroCalib_eq]
  simp (disch := omega) only [bmp280Convert, int32, int32Then_of_bounds, shr, hz,
    UInt16.toNat_zero, Nat.cast_zero, zero_mul, mul_zero, sub_zero, Nat.cast_pow, Nat.cast_ofNat, Int.reducePow,
    Int.zero_ediv, add_zero]
  split_ifs with ht
  · have hsq : temp / 16 * (temp / 16) ≤ 46340 * 46340 :=
      mul_self_le_mul_self_of_le_of_neg_le (by omega) (by omega)
    rw [int32Then_of_bounds (by nlinarith) (by omega)]
  · have hsq : 46341 * 46341 ≤ temp / 16 * (temp / 16) := mul_self_le_mul_self (by norm_num) (by omega)
    rw [int32Then_of_le (by omega)]

/-- With the all-zero record `bmp280_convert_pressure` returns 0 through its zero-divisor guard
wherever `bmp280_convert` is defined. -/
theorem bmp280ConvertPressure_zero {pressure temp : Int} (h0 : 0 ≤ temp) (h1 : temp < 2 ^ 20) :
    bmp280ConvertPressure zeroCalib pressure temp = if temp < 741456 then some 0 else none := by
  rw [bmp280ConvertPressure, bmp280Convert_zero h0 h1]
  split_ifs
  · rw [zeroCalib_eq]; rfl
  · rfl

/-! ## The example record -/

/-- The example calibration record of the sensor's documentation, the one the reference vector
uses. -/
def exampleCalib : Bmp280CalibParam :=
  ⟨27504, 26435, .ofInt 16 (-1000), 36477, .ofInt 16 (-10685), 3024, 2855, 140, .ofInt 16 (-7), 15500,
    .ofInt 16 (-14600), 6000⟩

/-- The reference vector: 25.08 °C, and the 32-bit formula's 100656 Pa. -/
example : bmp280ConvertTemp exampleCalib 519888 = some 2508 ∧
    bmp280ConvertPressure exampleCalib 415148 519888 = some 100656 := by decide

theorem exampleCalib_coeffs :
    (exampleCalib.digT1.toNat : Int) = 27504 ∧ exampleCalib.digT2.toInt = 26435 ∧
    exampleCalib.digT3.toInt = -1000 ∧ (exampleCalib.digP1.toNat : Int) = 36477 ∧
    exampleCalib.digP2.toInt = -10685 ∧ exampleCalib.digP3.toInt = 3024 ∧
    exampleCalib.digP4.toInt = 2855 ∧ exampleCalib.digP5.toInt = 140 ∧ exampleCalib.digP6.toInt = -7 ∧
    exampleCalib.digP7.toInt = 15500 ∧ exampleCalib.digP8.toInt = -14600 ∧ exampleCalib.digP9.toInt = 6000 := by
  decide

/-- With the example record `bmp280_convert` is defined on every 20-bit reading; `t_fine` is the
formula in unbounded integers. -/
theorem bmp280Convert_example {temp : Int} (h0 : 0 ≤ temp) (h1 : temp < 2 ^ 20) :
    bmp280Convert exampleCalib temp = some ((temp / 8 - 55008) * 26435 / 2048 +
      (temp / 16 - 27504) * (temp / 16 - 27504) / 4096 * -1000 / 16384) := by
  obtain ⟨t1, t2, t3, -⟩ := exampleCalib_coeffs
  have hsq : (temp / 16 - 27504) * (temp / 16 - 27504) ≤ 38031 * 38031 :=
    mul_self_le_mul_self_of_le_of_neg_le (by omega) (by omega)
  have hsq0 := mul_self_nonneg (temp / 16 - 27504)
  simp (disch := omega) only [bmp280Convert, int32, int32Then_of_bounds, shr, t1, t2, t3,
    Nat.cast_pow, Nat.cast_ofNat, Int.reducePow, Int.reduceMul]

/-- `t_fine` at raw temperatures from 300000 to 740000. -/
theorem bmp280Convert_example_mid {temp : Int} (h0 : 300000 ≤ temp) (h1 : temp ≤ 740000) :
    ∃ tFine, bmp280Convert exampleCalib temp = some tFine ∧ -231226 ≤ tFine ∧ tFine ≤ 483936 := by
  have hsq : (temp / 16 - 27504) * (temp / 16 - 27504) ≤ 18746 * 18746 :=
    mul_self_le_mul_self_of_le_of_neg_le (by omega) (by omega)
  have hsq0 := mul_self_nonneg (temp / 16 - 27504)
  exact ⟨_, bmp280Convert_example (by omega) (by omega), by omega, by omega⟩

/-- `pressureTerms` gives a divisor of at least 32000. -/
def DivisorFrom (o : Option (Int × Int)) : Prop :=
  ∃ var1 var2, o = some (var1, var2) ∧ 32000 ≤ var1 ∧ var1 < 2 ^ 31

theorem pressureTerms_example {tFine : Int} (hl : -231226 ≤ tFine) (hu : tFine ≤ 483936) :
    DivisorFrom (pressureTerms exampleCalib tFine) := by
  obtain ⟨-, -, -, p1, p2, p3, p4, p5, p6, -⟩ := exampleCalib_coeffs
  simp only [pressureTerms, shr, p1, p2, p3, p4, p5, p6, Int.reducePow, Nat.reducePow,
    Nat.cast_ofNat]
  -- each intermediate in turn, known from here on only by its interval
  refine int32Then_within (-179613) 177968 (by norm_num) ⟨by omega, by omega⟩ fun var1 _ _ => ?_
  -- the one square: `(var1 >> 2)^2`, twice
  have hsq := mul_self_le_mul_self_of_le_of_neg_le (a := var1 / 4) (b := 44904) (by omega) (by omega)
  have hsq0 := mul_self_nonneg (var1 / 4)
  refine int32Then_within 0 2016369216 (by norm_num) ⟨hsq0, hsq⟩ fun sq _ _ => ?_
  refine int32Then_within (-6891885) 0 (by norm_num) ⟨by omega, by omega⟩ fun var2 _ _ => ?_
  refine int32Then_within (-25145820) 24915520 (by norm_num) ⟨by omega, by omega⟩ fun m5 _ _ => ?_
  refine int32Then_within (-50291640) 49831040 (by norm_num) ⟨by omega, by omega⟩ fun m5x2 _ _ => ?_
  refine int32Then_within (-57183525) 49831040 (by norm_num) ⟨by omega, by omega⟩ fun var2 _ _ => ?_
  refine int32Then_within 187105280 187105280 (by norm_num) ⟨by omega, by omega⟩ fun p4 _ _ => ?_
  refine int32Then_within 172809398 199563040 (by norm_num) ⟨by omega, by omega⟩ fun var2 _ _ => ?_
  refine int32Then_within 0 2016369216 (by norm_num) ⟨hsq0, hsq⟩ fun sq' _ _ => ?_
  refine int32Then_within 0 744321312 (by norm_num) ⟨by omega, by omega⟩ fun m3 _ _ => ?_
  refine int32Then_within (-1901588080) 1919164905 (by norm_num) ⟨by omega, by omega⟩ fun m2 _ _ => ?_
  refine int32Then_within (-950794040) 1052622616 (by norm_num) ⟨by omega, by omega⟩ fun s _ _ => ?_
  refine int32Then_within 29141 36783 (by norm_num) ⟨by omega, by omega⟩ fun s' _ _ => ?_
  refine int32Then_within 1062976257 1341733491 (by norm_num) ⟨by omega, by omega⟩ fun m1 _ _ => ?_
  exact ⟨_, _, rfl, by omega, by omega⟩

/-- The `uint32_t` quotient of `bmp280_convert_pressure` by a divisor of at least 32000, in either
branch. -/
theorem quotient_le {c n : Nat} (hc : c < 2 ^ 32) (hn : 32000 ≤ n) :
    (if c < 2147483648 then c * 2 ^ 1 % 2 ^ 32 / n else c / n * 2 % 2 ^ 32) ≤ 268434 := by
  have hq : ∀ a, a < 2 ^ 32 → a / n ≤ 134217 := fun a ha =>
    (Nat.div_le_div_left hn (by norm_num)).trans (by omega)
  split
  · exact (hq _ (Nat.mod_lt _ (by norm_num))).trans (by norm_num)
  · have := hq c hc
    rw [Nat.mod_eq_of_lt (by omega)]
    omega

theorem pressureFromTerms_example {pressure var1 var2 : Int} (hp0 : 0 ≤ pressure)
    (hp1 : pressure < 2 ^ 20) (hv : 32000 ≤ var1) (hv' : var1 < 2 ^ 31) :
    (pressureFromTerms exampleCalib pressure var1 var2).isSome := by
  obtain ⟨-, -, -, -, -, -, -, -, -, p7, p8, p9⟩ := exampleCalib_coeffs
  simp only [pressureFromTerms, if_neg (show var1 ≠ 0 by omega), p7, p8, p9,
    uint32_of_lt (show 0 ≤ var1 by omega) (show var1 < 2 ^ 32 by omega)]
  refine int32Then_isSome (by omega) (by omega) fun d _ => ?_
  have hq := quotient_le (Nat.mod_lt (uint32 (↑(uint32 d) - shr var2 12) * 3125) (by norm_num : 0 < 2 ^ 32))
    (show 32000 ≤ var1.toNat by omega)
  generalize (if _ < 2147483648 then _ else _) = q at hq ⊢
  have hw : (q >>> 3 * q >>> 3 % 2 ^ 32) >>> 13 ≤ 137435 := by
    have : q >>> 3 * q >>> 3 ≤ 33554 * 33554 := by
      rw [Nat.shiftRight_eq_div_pow]; exact Nat.mul_le_mul (by omega) (by omega)
    rw [Nat.mod_eq_of_lt (by omega), Nat.shiftRight_eq_div_pow]
    omega
  generalize (q >>> 3 * q >>> 3 % 2 ^ 32) >>> 13 = w at hw ⊢
  rw [toInt32_of_lt (by omega)]
  simp only [shr, Nat.shiftRight_eq_div_pow, Nat.reducePow, Nat.cast_ofNat]
  refine int32Then_isSome (by omega) (by omega) fun m9 _ => ?_
  refine int32Then_isSome (by omega) (by omega) fun m8 _ => ?_
  refine int32Then_isSome (by omega) (by omega) fun s _ => ?_
  refine int32Then_isSome (by omega) (by omega) fun s' _ => ?_
  rw [int32, int32Then_of_bounds (by omega) (by omega)]
  rfl

/-- With the example record `bmp280_convert_pressure` is defined on every raw pressure at raw
temperatures from 300000 to 740000. -/
theorem bmp280ConvertPressure_example {pressure temp : Int} (hp0 : 0 ≤ pressure) (hp1 : pressure < 2 ^ 20)
    (ht0 : 300000 ≤ temp) (ht1 : temp ≤ 740000) :
    (bmp280ConvertPressure exampleCalib pressure temp).isSome := by
  obtain ⟨tFine, ht, hl, hu⟩ := bmp280Convert_example_mid ht0 ht1
  obtain ⟨var1, var2, hterms, hv, hv'⟩ := pressureTerms_example hl hu
  simp only [bmp280ConvertPressure, ht, hterms, Option.some_bind]
  exact pressureFromTerms_example hp0 hp1 hv hv'

/-! ## Where the compensation is defined -/

/-- Where the compensation stays in `int32_t`: both readings are 20-bit; `bmp280_convert_temp`
adds no overflow to `bmp280_convert`; the all-zero record is defined exactly below raw temperature
741456 (and gives 0); the example record is defined on every raw temperature, and for pressure on
every raw pressure at raw temperatures from 300000 to 740000. -/
theorem bmp280_compensation_ranges :
    (∀ buf, (0 ≤ (bmp280ReadRaw buf).1 ∧ (bmp280ReadRaw buf).1 < 2 ^ 20) ∧
      (0 ≤ (bmp280ReadRaw buf).2 ∧ (bmp280ReadRaw buf).2 < 2 ^ 20)) ∧
    (∀ params temp, bmp280ConvertTemp params temp =
      (bmp280Convert params temp).map fun tFine : Int => shr (tFine * 5 + 128) 8) ∧
    (∀ pressure temp : Int, 0 ≤ temp → temp < 2 ^ 20 →
      bmp280Convert zeroCalib temp = (if temp < 741456 then some 0 else none) ∧
      bmp280ConvertPressure zeroCalib pressure temp = (if temp < 741456 then some 0 else none)) ∧
    (∀ temp : Int, 0 ≤ temp → temp < 2 ^ 20 → (bmp280ConvertTemp exampleCalib temp).isSome) ∧
    (∀ pressure temp : Int, 0 ≤ pressure → pressure < 2 ^ 20 → 300000 ≤ temp → temp ≤ 740000 →
      (bmp280ConvertPressure exampleCalib pressure temp).isSome) :=
  ⟨bmp280ReadRaw_range, bmp280ConvertTemp_eq,
    fun _ _ h0 h1 => ⟨bmp280Convert_zero h0 h1, bmp280ConvertPressure_zero h0 h1⟩,
    fun _ h0 h1 => by simp [bmp280ConvertTemp_eq, bmp280Convert_example h0 h1],
    fun _ _ hp0 hp1 ht0 ht1 => bmp280ConvertPressure_example hp0 hp1 ht0 ht1⟩

/-- Raw temperature 0xFFFFF, as `bmp280_read_raw` packs the bytes `FF FF F0`, overflows
`bmp280_convert` with the all-zero record: `(0xFFFFF >> 4)^2 = 65535^2` is past `INT32_MAX`. -/
theorem zero_record_overflows :
    bmp280ReadRaw [0, 0, 0, 0xFF, 0xFF, 0xF0] = (0xFFFFF, 0) ∧
    bmp280ConvertTemp zeroCalib 0xFFFFF = none ∧ bmp280ConvertPressure zeroCalib 0 0xFFFFF = none := by
  decide

end PicoExamples.Bmp280
