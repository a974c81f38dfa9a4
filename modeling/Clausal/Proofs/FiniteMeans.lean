import Mathlib
import Clausal.Json.Use

/-!
# Means of finite doubles

The mean of finite doubles is finite. It lies between the least and the greatest of them, so its quotient
is at most the largest double, and rounding a quotient to the nearest double does not lead past the largest
one: at the highest exponent the mantissa of such a quotient has no room to be carried. So the mean of a
list of doubles is never refused.
-/

namespace Clausal

/-! ## Bits of doubles -/

namespace Binary64

open Float.Model (Format)
open Float.Model.UnpackedFloat (unpack unpackExponent pack_unpack isNaNBits)

/-- The exponent bits of a double as a number. -/
theorem toNat_unpackExponent (bits : UInt64) :
    (@unpackExponent Format.binary64 bits.toBitVec).toNat = bits.toNat / leadingBit % 2048 := by
  simp only [unpackExponent, BitVec.toNat_cast, BitVec.extractLsb_toNat]
  simp [leadingBit, Nat.shiftRight_eq_div_pow]

/-- The exponent bits are all set exactly if they are the greatest number. -/
theorem unpackExponent_eq_iff (bits : UInt64) :
    @unpackExponent Format.binary64 bits.toBitVec = 2047#11 ↔
      bits.toNat / leadingBit % 2048 = 2047 := by
  rw [← toNat_unpackExponent]
  exact ⟨fun same => by rw [same]; rfl, fun same => BitVec.eq_of_toNat_eq same⟩

/-- A double is finite unless its exponent bits are all set. -/
theorem isFinite_iff (double : Float) :
    double.isFinite = true ↔ double.toBits.toNat / leadingBit % 2048 ≠ 2047 := by
  rw [ne_eq, ← unpackExponent_eq_iff]
  show (unpack Format.binary64 double.toBits.toBitVec).isFinite = true ↔ _
  unfold unpack
  simp only
  split
  · next all =>
    have all : @unpackExponent Format.binary64 double.toBits.toBitVec = 2047#11 := all
    split <;> simp [Float.Model.UnpackedFloat.isFinite, all]
  · next some =>
    have some : ¬ @unpackExponent Format.binary64 double.toBits.toBitVec = 2047#11 := some
    split
    · split <;> simp [Float.Model.UnpackedFloat.isFinite, some]
    · simp [Float.Model.UnpackedFloat.isFinite, some]

/-- Bits whose exponent bits are not all set are kept. -/
theorem toBits_ofBits {bits : UInt64} (some : bits.toNat / leadingBit % 2048 ≠ 2047) :
    (Float.ofBits bits).toBits = bits := by
  have number : @isNaNBits Format.binary64 bits.toBitVec = false := by
    have exponent := mt (unpackExponent_eq_iff bits).mp some
    simp [isNaNBits, exponent]
  have kept := @pack_unpack Format.binary64 bits.toBitVec (by decide)
  rw [number, if_neg (by simp)] at kept
  show UInt64.ofBitVec (Float.Model.UnpackedFloat.pack Format.binary64
    (unpack Format.binary64 bits.toBitVec)) = bits
  rw [kept]

/-- Bits below those of an infinity are those of a finite double. -/
theorem isFinite_ofMagnitude (negative : Bool) {magnitude : Nat}
    (below : magnitude < infiniteMagnitude) : (ofMagnitude negative magnitude).isFinite = true := by
  have limit : infiniteMagnitude = 9218868437227405312 := by decide
  have exponent : ((if negative then Nat.pow 2 63 else 0) + magnitude) / leadingBit % 2048 ≠ 2047 := by
    have unit : leadingBit = 4503599627370496 := by decide
    have sign : Nat.pow 2 63 = 9223372036854775808 := by decide
    rw [unit, sign]
    split <;> omega
  have toNat : (UInt64.ofNat ((if negative then Nat.pow 2 63 else 0) + magnitude)).toNat =
      (if negative then Nat.pow 2 63 else 0) + magnitude := by
    have sign : Nat.pow 2 63 = 9223372036854775808 := by decide
    rw [UInt64.toNat_ofNat', Nat.mod_eq_of_lt]
    rw [sign]
    split <;> omega
  rw [isFinite_iff, ofMagnitude, toBits_ofBits (by rwa [toNat]), toNat]
  exact exponent

/-! ## Quotients -/

/-- A quotient that is at most a whole number is rounded to at most that number. A quotient that is the
number itself has no rest to be rounded up. -/
theorem roundDiv_le {numerator denominator bound : Nat} (positive : 0 < denominator)
    (most : numerator ≤ denominator * bound) : roundDiv numerator denominator ≤ bound := by
  have quotient : numerator / denominator ≤ bound := Nat.div_le_of_le_mul most
  have split := Nat.div_add_mod numerator denominator
  unfold roundDiv
  simp only
  split_ifs with up
  · have different : numerator / denominator ≠ bound := by
      intro same
      rw [same] at split
      have rest : numerator % denominator = 0 := by omega
      rw [rest] at up
      omega
    omega
  · exact quotient

/-- The quotient of what was scaled down is the quotient divided by the power of two. -/
theorem scaleDown_eq (numerator denominator : Nat) (exponent : Int) :
    ((scaleDown numerator denominator exponent).1 : ℚ) / (scaleDown numerator denominator exponent).2 =
      numerator / denominator / 2 ^ exponent := by
  unfold scaleDown
  split
  · next up =>
    have power : (2 : ℚ) ^ exponent = 2 ^ exponent.toNat := by
      rw [← zpow_natCast, Int.toNat_of_nonneg up]
    rw [power, Nat.pow_eq]
    push_cast
    rw [div_div]
  · next down =>
    have power : (2 : ℚ) ^ exponent = (2 ^ (-exponent).toNat)⁻¹ := by
      rw [← zpow_natCast, Int.toNat_of_nonneg (by omega), zpow_neg, inv_inv]
    rw [power, Nat.pow_eq]
    push_cast
    field_simp

/-- A fraction that is scaled down keeps a positive denominator. -/
theorem scaleDown_pos (numerator : Nat) {denominator : Nat} (positive : 0 < denominator)
    (exponent : Int) : 0 < (scaleDown numerator denominator exponent).2 := by
  unfold scaleDown
  split
  · exact Nat.mul_pos positive (Nat.two_pow_pos _)
  · exact positive

/-- What was scaled down is compared with a bound like the quotient. -/
theorem scaleDown_le_iff (numerator : Nat) {denominator : Nat} (positive : 0 < denominator)
    (exponent : Int) (bound : Nat) :
    (scaleDown numerator denominator exponent).1 ≤
        (scaleDown numerator denominator exponent).2 * bound ↔
      (numerator / denominator : ℚ) ≤ bound * 2 ^ exponent := by
  have below : (0 : ℚ) < (scaleDown numerator denominator exponent).2 := by
    exact_mod_cast scaleDown_pos numerator positive exponent
  have power : (0 : ℚ) < 2 ^ exponent := zpow_pos (by norm_num) exponent
  rw [← div_le_iff₀ power, ← scaleDown_eq, div_le_iff₀ below, mul_comm (bound : ℚ)]
  norm_cast

/-- What was scaled down is below a bound like the quotient. -/
theorem scaleDown_lt_iff (numerator : Nat) {denominator : Nat} (positive : 0 < denominator)
    (exponent : Int) (bound : Nat) :
    (scaleDown numerator denominator exponent).1 <
        (scaleDown numerator denominator exponent).2 * bound ↔
      (numerator / denominator : ℚ) < bound * 2 ^ exponent := by
  have below : (0 : ℚ) < (scaleDown numerator denominator exponent).2 := by
    exact_mod_cast scaleDown_pos numerator positive exponent
  have power : (0 : ℚ) < 2 ^ exponent := zpow_pos (by norm_num) exponent
  rw [← div_lt_iff₀ power, ← scaleDown_eq, div_lt_iff₀ below, mul_comm (bound : ℚ)]
  norm_cast

/-- A quotient that is not zero lies between two powers of two that are told by the lengths of its parts. -/
theorem ratio_bounds {numerator denominator : Nat} (some : numerator ≠ 0) (positive : 0 < denominator) :
    (2 : ℚ) ^ ((numerator.log2 : Int) - denominator.log2 - 1) ≤ numerator / denominator ∧
      (numerator / denominator : ℚ) < 2 ^ ((numerator.log2 : Int) - denominator.log2 + 1) := by
  have numeratorLow : ((2 : ℚ) ^ numerator.log2) ≤ numerator := by
    exact_mod_cast Nat.log2_self_le some
  have numeratorHigh : (numerator : ℚ) < 2 ^ (numerator.log2 + 1) := by
    exact_mod_cast Nat.lt_log2_self
  have denominatorLow : ((2 : ℚ) ^ denominator.log2) ≤ denominator := by
    exact_mod_cast Nat.log2_self_le (by omega)
  have denominatorHigh : (denominator : ℚ) < 2 ^ (denominator.log2 + 1) := by
    exact_mod_cast Nat.lt_log2_self
  have above : (0 : ℚ) < denominator := by exact_mod_cast positive
  constructor
  · have power : (2 : ℚ) ^ ((numerator.log2 : Int) - denominator.log2 - 1) =
        2 ^ numerator.log2 / 2 ^ (denominator.log2 + 1) := by
      rw [← zpow_natCast, ← zpow_natCast, ← zpow_sub₀ (by norm_num)]
      congr 1
      push_cast
      ring
    rw [power]
    gcongr
  · have power : (2 : ℚ) ^ ((numerator.log2 : Int) - denominator.log2 + 1) =
        2 ^ (numerator.log2 + 1) / 2 ^ denominator.log2 := by
      rw [← zpow_natCast, ← zpow_natCast, ← zpow_sub₀ (by norm_num)]
      congr 1
      push_cast
      ring
    rw [power]
    calc (numerator / denominator : ℚ) < 2 ^ (numerator.log2 + 1) / denominator := by gcongr
      _ ≤ 2 ^ (numerator.log2 + 1) / 2 ^ denominator.log2 := by gcongr

/-- A mantissa of at most 53 bits, or the next power of two, makes a finite double unless its exponent is
the highest and the mantissa is carried. -/
theorem isFinite_encode (negative : Bool) {mantissa : Nat} {exponent : Int}
    (fits : mantissa ≤ 2 * leadingBit) (low : leastExponent ≤ exponent) (high : exponent ≤ 971)
    (room : exponent = 971 → mantissa < 2 * leadingBit) :
    (encode negative mantissa exponent).isFinite = true := by
  have unit : leadingBit = 4503599627370496 := by decide
  have limit : infiniteMagnitude = 9218868437227405312 := by decide
  unfold leastExponent at low
  by_cases small : mantissa < leadingBit
  · rw [encode, if_pos small]
    exact isFinite_ofMagnitude negative (by omega)
  · rw [encode, if_neg small]
    by_cases carried : 2 * leadingBit ≤ mantissa
    · have field : ¬ (exponent + 1075 + 1).toNat ≥ 2047 := by omega
      have magnitude : (exponent + 1075 + 1).toNat * leadingBit + (mantissa / 2 - leadingBit) <
          infiniteMagnitude := by
        rw [unit, limit]
        omega
      simpa [carried, field] using isFinite_ofMagnitude negative magnitude
    · have field : ¬ (exponent + 1075).toNat ≥ 2047 := by omega
      have magnitude : (exponent + 1075).toNat * leadingBit + (mantissa - leadingBit) <
          infiniteMagnitude := by
        rw [unit, limit]
        omega
      simpa [carried, field] using isFinite_ofMagnitude negative magnitude

/-- The whole part of a quotient has 53 bits for its normal exponent. -/
theorem normalExponent_bounds {numerator denominator : Nat} (some : numerator ≠ 0)
    (positive : 0 < denominator) :
    (2 : ℚ) ^ (normalExponent numerator denominator + 52) ≤ numerator / denominator ∧
      (numerator / denominator : ℚ) ≤
        ((2 * leadingBit : Nat) : ℚ) * 2 ^ normalExponent numerator denominator := by
  obtain ⟨low, high⟩ := ratio_bounds some positive
  have unit (exponent : Int) : ((2 * leadingBit : Nat) : ℚ) * 2 ^ exponent = 2 ^ (exponent + 53) := by
    rw [zpow_add₀ (by norm_num)]
    norm_num [leadingBit]
    ring
  unfold normalExponent
  simp only [scaleDown_lt_iff numerator positive, unit]
  generalize guessed : (numerator.log2 : Int) - denominator.log2 - 53 = guess
  have lower : (numerator.log2 : Int) - denominator.log2 - 1 = guess + 52 := by omega
  have upper : (numerator.log2 : Int) - denominator.log2 + 1 = guess + 1 + 53 := by omega
  rw [lower] at low
  rw [upper] at high
  split
  · next small => exact ⟨low, small.le⟩
  · next large =>
    have next : guess + 1 + 52 = guess + 53 := by omega
    rw [next]
    exact ⟨not_lt.mp large, high.le⟩

/-- A quotient that is at most the largest double is rounded to a finite double. -/
theorem isFinite_ofRatio (negative : Bool) {numerator denominator : Nat} (positive : 0 < denominator)
    (most : numerator ≤ denominator * ((2 ^ 53 - 1) * 2 ^ 971)) :
    (ofRatio negative numerator denominator).isFinite = true := by
  by_cases some : numerator = 0
  · rw [ofRatio, if_pos some]
    exact isFinite_ofMagnitude negative (by decide)
  obtain ⟨low, high⟩ := normalExponent_bounds some positive
  have largest : (numerator / denominator : ℚ) ≤ ((2 ^ 53 - 1 : Nat) : ℚ) * 2 ^ (971 : Int) := by
    rw [div_le_iff₀ (by exact_mod_cast positive)]
    have cast : ((2 : ℚ) ^ (971 : Int)) = ((2 ^ 971 : Nat) : ℚ) := by
      rw [Nat.cast_pow, ← zpow_natCast]
      rfl
    rw [cast]
    calc (numerator : ℚ) ≤ ((denominator * ((2 ^ 53 - 1) * 2 ^ 971) : Nat) : ℚ) := by
          exact_mod_cast most
      _ = ((2 ^ 53 - 1 : Nat) : ℚ) * ((2 ^ 971 : Nat) : ℚ) * denominator := by
          rw [Nat.cast_mul, Nat.cast_mul]
          ring
  have below : normalExponent numerator denominator ≤ 971 := by
    by_contra above
    have power : (2 : ℚ) ^ (971 + 53 : Int) ≤ 2 ^ (normalExponent numerator denominator + 52) :=
      zpow_le_zpow_right₀ (by norm_num) (by omega)
    have full (exponent : Int) : (2 : ℚ) ^ (exponent + 53) = 2 ^ 53 * 2 ^ exponent := by
      rw [zpow_add₀ (by norm_num), mul_comm]
      norm_num
    have unit : (0 : ℚ) < 2 ^ (971 : Int) := zpow_pos (by norm_num) _
    rw [full] at power
    have short := le_of_mul_le_mul_right (power.trans (low.trans largest)) unit
    norm_num at short
  rw [ofRatio, if_neg some]
  have reach : (2 : ℚ) ^ normalExponent numerator denominator ≤
      2 ^ max (normalExponent numerator denominator) leastExponent :=
    zpow_le_zpow_right₀ (by norm_num) (le_max_left _ _)
  have fits : (numerator / denominator : ℚ) ≤
      ((2 * leadingBit : Nat) : ℚ) * 2 ^ max (normalExponent numerator denominator) leastExponent :=
    high.trans (mul_le_mul_of_nonneg_left reach (Nat.cast_nonneg _))
  apply isFinite_encode
  · exact roundDiv_le (scaleDown_pos numerator positive _)
      ((scaleDown_le_iff numerator positive _ _).mpr fits)
  · exact le_max_right _ leastExponent
  · exact max_le below (by decide)
  · intro highest
    have bound := roundDiv_le (scaleDown_pos numerator positive (971 : Int))
      ((scaleDown_le_iff numerator positive 971 (2 ^ 53 - 1)).mpr largest)
    rw [highest]
    exact lt_of_le_of_lt bound (by norm_num [leadingBit])

end Binary64

/-! ## Means -/

namespace Number

open Binary64 (leadingBit)

/-- The largest double as a multiple of the smallest positive one. -/
def largestMultiple : Nat :=
  (2 ^ 53 - 1) * 2 ^ 2045

/-- One is a positive number of smallest doubles. -/
theorem smallestPerUnit_pos : 0 < smallestPerUnit := by
  decide +kernel

/-- The largest double is a 53 bit number times a power of two, in multiples of the smallest. -/
theorem largestMultiple_eq : largestMultiple = smallestPerUnit * ((2 ^ 53 - 1) * 2 ^ 971) := by
  decide +kernel

/-- A mantissa of 53 bits and an exponent of a double make at most the largest double. -/
theorem le_largestMultiple {mantissa power : Nat} (short : mantissa ≤ 2 ^ 53 - 1)
    (low : power ≤ 2045) : mantissa * 2 ^ power ≤ largestMultiple := by
  unfold largestMultiple
  gcongr
  decide

/-- A sign does not change a magnitude. -/
theorem natAbs_signed (negative : Bool) (magnitude : Nat) :
    (if negative then -(magnitude : Int) else magnitude).natAbs = magnitude := by
  cases negative <;> simp

/-- A finite double is a multiple of the smallest positive one, at most as large as the largest one. -/
theorem smallest?_of_isFinite {double : Float} (finite : double.isFinite = true) :
    ∃ multiple : Int, smallest? (.real double) = some multiple ∧
      multiple.natAbs ≤ largestMultiple := by
  have field := (Binary64.isFinite_iff double).mp finite
  have unit : leadingBit = 4503599627370496 := by decide
  have fraction : double.toBits.toNat % leadingBit < leadingBit := Nat.mod_lt _ (by decide)
  have signed (negative : Bool) {mantissa power : Nat} (short : mantissa ≤ 2 ^ 53 - 1)
      (low : power ≤ 2045) :
      (if negative then -((mantissa : Int) * Nat.pow 2 power) else mantissa * Nat.pow 2 power).natAbs ≤
        largestMultiple := by
    have cast : (mantissa : Int) * Nat.pow 2 power = ((mantissa * 2 ^ power : Nat) : Int) := by
      rw [Nat.pow_eq]
      push_cast
      rfl
    rw [cast, natAbs_signed]
    exact le_largestMultiple short low
  unfold smallest? Binary64.decode
  simp only [field, if_false]
  by_cases zero : double.toBits.toNat / leadingBit % 2048 = 0
  · simp only [zero, if_true]
    exact ⟨_, rfl, signed _ (by omega) (by decide)⟩
  · simp only [zero, if_false]
    exact ⟨_, rfl, signed _ (by omega) (by omega)⟩

/-- The multiples of finite doubles add up to at most as many times the largest one. -/
theorem sum_le_largestMultiple (multiples : List Int) :
    ∀ start : Int, (∀ multiple ∈ multiples, multiple.natAbs ≤ largestMultiple) →
      (multiples.foldl (· + ·) start).natAbs ≤ start.natAbs + multiples.length * largestMultiple := by
  induction multiples with
  | nil => intro start _; simp
  | cons first rest ih =>
    intro start small
    have here := small first (by simp)
    have others := ih (start + first) fun multiple member => small multiple (by simp [member])
    have triangle := Int.natAbs_add_le start first
    rw [List.foldl_cons, List.length_cons, Nat.add_mul, Nat.one_mul]
    omega

/-- Finite doubles have multiples of the smallest positive one. -/
theorem mapM_smallest? (doubles : List Float) (finite : ∀ double ∈ doubles, double.isFinite = true) :
    ∃ multiples : List Int, (doubles.map real).mapM smallest? = some multiples ∧
      multiples.length = doubles.length ∧
      ∀ multiple ∈ multiples, multiple.natAbs ≤ largestMultiple := by
  induction doubles with
  | nil => exact ⟨[], rfl, rfl, by simp⟩
  | cons double rest ih =>
    obtain ⟨multiple, here, small⟩ := smallest?_of_isFinite (finite double (by simp))
    obtain ⟨multiples, others, size, smaller⟩ := ih fun other member => finite other (by simp [member])
    refine ⟨multiple :: multiples, ?_, by simp [size], ?_⟩
    · simp [here, others]
    · intro other member
      rcases List.mem_cons.mp member with rfl | found
      · exact small
      · exact smaller other found

/-- The mean of finite doubles is a finite double. -/
theorem mean_of_isFinite {doubles : List Float} (some : doubles ≠ [])
    (finite : ∀ double ∈ doubles, double.isFinite = true) :
    (mean (doubles.map real)).isFinite = true := by
  obtain ⟨multiples, found, size, small⟩ := mapM_smallest? doubles finite
  have fractional : (doubles.map real).all isWhole = false := by
    obtain ⟨double, rest, rfl⟩ := List.exists_cons_of_ne_nil some
    rfl
  have count : 0 < doubles.length := List.length_pos_iff.mpr some
  have sum := sum_le_largestMultiple multiples 0 small
  rw [size, Int.natAbs_zero, Nat.zero_add] at sum
  simp only [mean, found, fractional, Bool.false_and, Bool.false_eq_true, if_false, isFinite,
    Binary64.ofQuotient, List.length_map]
  apply Binary64.isFinite_ofRatio
  · exact Nat.mul_pos count smallestPerUnit_pos
  · rwa [Nat.mul_assoc, ← largestMultiple_eq]

/-- The mean of doubles is a double. -/
theorem exists_mean_real {doubles : List Float} (some : doubles ≠ []) :
    ∃ double, mean (doubles.map real) = .real double := by
  have fractional : (doubles.map real).all isWhole = false := by
    obtain ⟨double, rest, rfl⟩ := List.exists_cons_of_ne_nil some
    rfl
  unfold mean
  split
  · simp only [fractional, Bool.false_and, Bool.false_eq_true, if_false]
    exact ⟨_, rfl⟩
  · exact ⟨_, rfl⟩

end Number

/-- A list of doubles as a document. -/
def Json.ofFloats (doubles : List Float) : Json :=
  .array (doubles.map .ofFloat)

/-- A list of doubles is a list of numbers. -/
theorem Json.numbers_ofFloats (doubles : List Float) :
    (Json.ofFloats doubles).numbers = .ok (doubles.map .real) := by
  show (doubles.map Json.ofFloat).mapM Json.exact = _
  induction doubles with
  | nil => rfl
  | cons double rest ih =>
    simp [Json.ofFloat, Json.exact, Json.number?, ih, bind, Except.bind, pure, Except.pure]

/-- The mean of a list of doubles is never refused. -/
theorem Json.mean_ofFloats {doubles : List Float} (some : doubles ≠ []) :
    ∃ double, (Json.ofFloats doubles).mean = .ok (.real double) := by
  obtain ⟨double, found⟩ := Number.exists_mean_real some
  have accepted : ((doubles.map Number.real).all Number.isFinite &&
      !(Number.mean (doubles.map Number.real)).isFinite) = false := by
    by_cases finite : ∀ double ∈ doubles, double.isFinite = true
    · rw [Number.mean_of_isFinite some finite]
      simp
    · have endless : (doubles.map Number.real).all Number.isFinite = false := by
        rw [List.all_map]
        simpa [Number.isFinite] using finite
      rw [endless, Bool.false_and]
  have nonempty : (doubles.map Number.real).isEmpty = false := by simpa using some
  rw [found] at accepted
  refine ⟨double, ?_⟩
  simp only [Json.mean, Json.numbers_ofFloats, bind, Except.bind, nonempty, found, accepted,
    Bool.false_eq_true, if_false]

/-- A double has a form with a fixed number of places. -/
@[simp]
theorem Json.fixedNumber_real (places : Nat) (double : Float) :
    Json.fixedNumber places (.real double) = .ok (Decimal.fixed places double) := rfl

/-- The lesser of two doubles is a double. -/
theorem Number.exists_least_real (left right : Float) :
    ∃ double, Number.least (.real left) (.real right) = .real double := by
  unfold Number.least
  split <;> exact ⟨_, rfl⟩

/-- The greater of two doubles is a double. -/
theorem Number.exists_greatest_real (left right : Float) :
    ∃ double, Number.greatest (.real left) (.real right) = .real double := by
  unfold Number.greatest
  split <;> exact ⟨_, rfl⟩

/-- What is chosen among doubles two by two is a double. -/
theorem Number.exists_foldl_real {choose : Number → Number → Number}
    (either : ∀ left right, ∃ double, choose (.real left) (.real right) = .real double)
    (doubles : List Float) :
    ∀ first, ∃ double, (doubles.map Number.real).foldl choose (.real first) = .real double := by
  induction doubles with
  | nil => exact fun first => ⟨first, rfl⟩
  | cons double rest ih =>
    intro first
    obtain ⟨chosen, here⟩ := either first double
    simpa [here] using ih chosen

/-- The smallest one of some doubles is a double. -/
theorem Number.exists_smallestOf_real {doubles : List Float} (some : doubles ≠ []) :
    ∃ double, Number.smallestOf (doubles.map .real) = .real double := by
  obtain ⟨first, rest, rfl⟩ := List.exists_cons_of_ne_nil some
  exact Number.exists_foldl_real Number.exists_least_real rest first

/-- The largest one of some doubles is a double. -/
theorem Number.exists_largestOf_real {doubles : List Float} (some : doubles ≠ []) :
    ∃ double, Number.largestOf (doubles.map .real) = .real double := by
  obtain ⟨first, rest, rfl⟩ := List.exists_cons_of_ne_nil some
  exact Number.exists_foldl_real Number.exists_greatest_real rest first

end Clausal
