import ControlPlane.Library.Decimal
import Mathlib.Algebra.Order.Floor.Ring
import Mathlib.Algebra.Order.Field.Power
import Mathlib.Data.Int.Log
import Mathlib.Data.Rat.Floor
import Mathlib.Tactic.FieldSimp
import Mathlib.Tactic.Linarith
import Mathlib.Tactic.Positivity
import Mathlib.Tactic.Ring

/-!
# Correctly rounded decimals

What a context computes is the exact result, rounded to the nearest decimal of
its precision, ties to the one with an even last digit; and rescaling to an
integer rounds half up what is there.
-/

namespace DecimalArithmetic

/-! ## Nearest numbers -/

/-- The nearest integer, ties to the even one. -/
def halfEven (value : ℚ) : ℤ :=
  if 2 * Int.fract value < 1 then ⌊value⌋
  else if 1 < 2 * Int.fract value then ⌊value⌋ + 1
  else if ⌊value⌋ % 2 = 0 then ⌊value⌋ else ⌊value⌋ + 1

/-- The unit of the last digit of a number in a precision. -/
def lastUnit (precision : Nat) (value : ℚ) : ℚ := 10 ^ (Int.log 10 value + 1 - precision)

/-- The nearest decimal of a precision, ties to the one with an even last digit. -/
def nearest (precision : Nat) (value : ℚ) : ℚ :=
  halfEven (value / lastUnit precision value) * lastUnit precision value

theorem halfEven_intCast (value : ℤ) : halfEven value = value := by
  unfold halfEven
  rw [Int.fract_intCast, if_pos (by norm_num), Int.floor_intCast]

/-- Rounding moves a number by half a unit at most. -/
theorem halfEven_close (value : ℚ) : |(halfEven value : ℚ) - value| ≤ 1 / 2 := by
  have parts := Int.floor_add_fract value
  have least := Int.fract_nonneg value
  have most := Int.fract_lt_one value
  rw [abs_le]
  unfold halfEven
  split_ifs <;> push_cast <;> constructor <;> linarith

/-- Rounding quotients of natural numbers is rounding their rational quotient. -/
theorem roundHalfEven_eq (value : Nat) {unit : Nat} (positive : 0 < unit) :
    (roundHalfEven value unit : ℤ) = halfEven (value / unit) := by
  have some : (0 : ℚ) < unit := by exact_mod_cast positive
  have whole : ⌊(value / unit : ℚ)⌋ = ((value / unit : Nat) : ℤ) := by
    rw [Rat.floor_natCast_div_natCast]
    rfl
  have part : 2 * Int.fract (value / unit : ℚ) = ((2 * (value % unit) : Nat) : ℚ) / unit := by
    rw [Int.fract_div_natCast_eq_div_natCast_mod]
    push_cast
    ring
  unfold roundHalfEven halfEven
  dsimp only
  simp only [whole, part, div_lt_one some, lt_div_iff₀ some, one_mul, Nat.cast_lt]
  split_ifs <;> omega

theorem lastUnit_pos (precision : Nat) (value : ℚ) : 0 < lastUnit precision value := by
  unfold lastUnit
  positivity

theorem nearest_close (precision : Nat) (value : ℚ) :
    |nearest precision value - value| ≤ lastUnit precision value / 2 := by
  have positive := lastUnit_pos precision value
  have close := halfEven_close (value / lastUnit precision value)
  unfold nearest
  have scaled : halfEven (value / lastUnit precision value) * lastUnit precision value - value =
      (halfEven (value / lastUnit precision value) - value / lastUnit precision value) *
        lastUnit precision value := by
    field_simp
  rw [scaled, abs_mul, abs_of_pos positive]
  calc _ ≤ 1 / 2 * lastUnit precision value := by gcongr
    _ = lastUnit precision value / 2 := by ring

/-- The last digit of a number whose digits are known. -/
theorem lastUnit_eq {precision : Nat} {value : ℚ} {place : ℤ}
    (least : (10 : ℚ) ^ (place + precision - 1) ≤ value)
    (most : value < (10 : ℚ) ^ (place + precision)) : lastUnit precision value = 10 ^ place := by
  have positive : 0 < value := lt_of_lt_of_le (by positivity) least
  have lower := (Int.zpow_le_iff_le_log (b := 10) (by decide) positive).mp
    (by exact_mod_cast least)
  have upper := (Int.lt_zpow_iff_log_lt (b := 10) (by decide) positive).mp
    (by exact_mod_cast most)
  unfold lastUnit
  congr 1
  omega

/-- A decimal of the precision is nearest to itself. -/
theorem nearest_of_lt {precision coefficient : Nat} (short : coefficient < 10 ^ precision)
    (exponent : ℤ) :
    nearest precision (coefficient * 10 ^ exponent) = coefficient * 10 ^ exponent := by
  by_cases none : coefficient = 0
  · subst none
    unfold nearest
    rw [Nat.cast_zero, zero_mul, zero_div]
    rw [show halfEven (0 : ℚ) = 0 from halfEven_intCast 0, Int.cast_zero, zero_mul]
  · obtain ⟨more, total⟩ : ∃ more, digits coefficient + more = precision :=
      ⟨precision - digits coefficient, by
        have few := Nat.log_lt_of_lt_pow none short
        unfold digits
        omega⟩
    have least : (10 : ℚ) ^ (digits coefficient - 1) ≤ coefficient := by
      exact_mod_cast Nat.pow_log_le_self 10 none
    have most : (coefficient : ℚ) < 10 ^ digits coefficient := by
      exact_mod_cast Nat.lt_pow_succ_log_self (by decide) coefficient
    have unit : lastUnit precision (coefficient * 10 ^ exponent) = 10 ^ (exponent - more) := by
      have place : (0 : ℚ) < 10 ^ exponent := by positivity
      refine lastUnit_eq ?_ ?_
      · rw [show exponent - more + precision - 1 = (digits coefficient - 1 : Nat) + exponent by
          unfold digits at *
          omega, zpow_add₀ (by norm_num), zpow_natCast]
        gcongr
      · rw [show exponent - more + precision = (digits coefficient : Nat) + exponent by omega,
          zpow_add₀ (by norm_num), zpow_natCast]
        gcongr
    unfold nearest
    rw [unit]
    have whole : (coefficient * 10 ^ exponent / 10 ^ (exponent - more) : ℚ) =
        ((coefficient * 10 ^ more : Nat) : ℤ) := by
      rw [zpow_sub₀ (by norm_num), zpow_natCast]
      push_cast
      field_simp
    rw [whole, halfEven_intCast, ← whole]
    field_simp

/-! ## Digits -/

theorem lt_pow_digits (value : Nat) : value < 10 ^ digits value :=
  Nat.lt_pow_succ_log_self (by decide) value

theorem pow_digits_le {value : Nat} (some : value ≠ 0) : 10 ^ (digits value - 1) ≤ value :=
  Nat.pow_log_le_self 10 some

theorem digits_le_iff {precision : Nat} (positive : 0 < precision) (value : Nat) :
    digits value ≤ precision ↔ value < 10 ^ precision := by
  unfold digits
  rw [Nat.succ_le_iff]
  rcases Nat.eq_zero_or_pos value with rfl | some
  · simp [positive]
  · exact Nat.log_lt_iff_lt_pow (by decide) some.ne'

theorem digits_mul_pow {value : Nat} (some : value ≠ 0) (places : Nat) :
    digits (value * 10 ^ places) = digits value + places := by
  unfold digits
  induction places with
  | zero => simp
  | succ places inductionHypothesis =>
      rw [Nat.pow_succ, ← Nat.mul_assoc, Nat.log_mul_base (by decide) (by positivity)]
      omega

/-- The last unit of a number of too many digits. -/
theorem lastUnit_of_long {precision coefficient : Nat} {value : ℚ} (exponent : ℤ)
    (positive : 0 < precision) (long : precision < digits coefficient)
    (least : coefficient * 10 ^ exponent ≤ value)
    (most : value < (coefficient + 1 : Nat) * 10 ^ exponent) :
    lastUnit precision value = 10 ^ (exponent + (digits coefficient - precision : Nat)) := by
  have some : coefficient ≠ 0 := by
    rintro rfl
    rw [digits, Nat.log_zero_right] at long
    omega
  refine lastUnit_eq ?_ ?_
  · refine le_trans ?_ least
    rw [show exponent + (digits coefficient - precision : Nat) + precision - 1 =
      (digits coefficient - 1 : Nat) + exponent by omega, zpow_add₀ (by norm_num), zpow_natCast]
    gcongr
    exact_mod_cast pow_digits_le some
  · refine lt_of_lt_of_le most ?_
    rw [show exponent + (digits coefficient - precision : Nat) + precision =
      (digits coefficient : Nat) + exponent by omega, zpow_add₀ (by norm_num), zpow_natCast]
    gcongr
    exact_mod_cast lt_pow_digits coefficient

/-- Where the last unit is known, a quotient is rounded to a multiple of it. -/
theorem nearest_quotient {precision numerator denominator excess : Nat} {exponent : ℤ}
    (positive : 0 < denominator)
    (unit : lastUnit precision (numerator / denominator * 10 ^ exponent) =
      10 ^ (exponent + excess)) :
    nearest precision (numerator / denominator * 10 ^ exponent) =
      roundHalfEven numerator (denominator * 10 ^ excess) * 10 ^ (exponent + excess) := by
  have some : (0 : ℚ) < denominator := by exact_mod_cast positive
  have scaled : (numerator / denominator * 10 ^ exponent / 10 ^ (exponent + excess) : ℚ) =
      numerator / ((denominator * 10 ^ excess : Nat) : ℚ) := by
    rw [zpow_add₀ (by norm_num), zpow_natCast]
    push_cast
    field_simp
  unfold nearest
  rw [unit, scaled, ← roundHalfEven_eq numerator (by positivity), Int.cast_natCast]

namespace Decimal

/-- The number that a decimal stands for. -/
def value (decimal : Decimal) : ℚ := decimal.coefficient * 10 ^ decimal.exponent

/-! ## Results of a context -/

/-- A rounded coefficient has no more than the digits of the precision, or is the next power of
ten. -/
theorem roundHalfEven_le {precision : Nat} (value : Nat) (long : precision ≤ digits value) :
    roundHalfEven value (10 ^ (digits value - precision)) ≤ 10 ^ precision := by
  have unit : (0 : ℚ) < 10 ^ (digits value - precision) := by positivity
  have close := (abs_le.mp (halfEven_close (value / (10 ^ (digits value - precision) : Nat)))).2
  rw [← roundHalfEven_eq value (by positivity), Int.cast_natCast] at close
  have below : (value : ℚ) / (10 ^ (digits value - precision) : Nat) < 10 ^ precision := by
    push_cast
    rw [div_lt_iff₀ unit, ← pow_add, show precision + (digits value - precision) = digits value by
      omega]
    exact_mod_cast lt_pow_digits value
  have most : (roundHalfEven value (10 ^ (digits value - precision)) : ℚ) <
      (10 ^ precision + 1 : Nat) := by
    push_cast
    linarith
  exact Nat.lt_succ_iff.mp (by exact_mod_cast most)

/-- What a context makes of a result is the nearest decimal. -/
theorem fix_value {precision : Nat} (positive : 0 < precision) (decimal : Decimal) :
    (fix precision decimal).value = nearest precision decimal.value ∧
      (fix precision decimal).coefficient < 10 ^ precision := by
  obtain ⟨coefficient, exponent⟩ := decimal
  unfold fix
  dsimp only
  by_cases short : digits coefficient - precision = 0
  · rw [if_pos short]
    have few := (digits_le_iff positive coefficient).mp (by omega)
    exact ⟨(nearest_of_lt few exponent).symm, few⟩
  · rw [if_neg short]
    have pow : ∀ base exponent : Nat, Nat.pow base exponent = base ^ exponent := fun _ _ => rfl
    have atMost := roundHalfEven_le coefficient (by omega : precision ≤ _)
    have unit := lastUnit_of_long exponent positive (by omega : precision < digits coefficient) le_rfl
      (by push_cast; gcongr; linarith)
    have rounded := @nearest_quotient precision coefficient 1 _ exponent Nat.one_pos
      (by rw [Nat.cast_one, div_one]; exact unit)
    rw [Nat.cast_one, div_one, Nat.one_mul] at rounded
    change _ = nearest precision (coefficient * 10 ^ exponent) ∧ _
    rw [rounded]
    simp only [pow]
    generalize roundHalfEven coefficient (10 ^ (digits coefficient - precision)) = result at *
    generalize digits coefficient - precision = excess at *
    split_ifs with carry
    · have full : result = 10 ^ precision := by
        have large := mt (digits_le_iff positive result).mpr (not_le.mpr carry)
        omega
      obtain ⟨less, rfl⟩ : ∃ less, precision = less + 1 := ⟨precision - 1, by omega⟩
      have tenth : result / 10 = 10 ^ less := by
        rw [full, Nat.pow_succ]
        exact Nat.mul_div_cancel _ (by decide)
      constructor
      · unfold value
        dsimp only
        rw [tenth, full, zpow_add_one₀ (by norm_num)]
        push_cast
        ring
      · rw [tenth]
        exact Nat.pow_lt_pow_right (by decide) (Nat.lt_succ_self _)
    · exact ⟨rfl, (digits_le_iff positive result).mp (not_lt.mp carry)⟩

/-- A product is correctly rounded. -/
theorem mul_value {precision : Nat} (positive : 0 < precision) (left right : Decimal) :
    (mul precision left right).value = nearest precision (left.value * right.value) := by
  unfold mul
  rw [(fix_value positive _).1]
  congr 1
  unfold value
  dsimp only
  rw [zpow_add₀ (by norm_num)]
  push_cast
  ring

/-- Dropping trailing zeros keeps the value. -/
theorem reduce_value (steps : Nat) (decimal : Decimal) :
    (reduce steps decimal).value = decimal.value := by
  induction steps generalizing decimal with
  | zero => rfl
  | succ steps inductionHypothesis =>
      rw [reduce]
      split_ifs with zero
      · rw [inductionHypothesis]
        obtain ⟨rest, exactly⟩ := Nat.dvd_of_mod_eq_zero zero
        unfold value
        rw [exactly, Nat.mul_div_cancel_left _ (by decide), zpow_add_one₀ (by norm_num)]
        push_cast
        ring
      · rfl

/-- A quotient with the last digit that a division gives it if it is inexact. -/
def sticky (quotient : Nat) : Nat := if quotient % 5 = 0 then quotient + 1 else quotient

/-- Where there is no tie, the half decides. -/
theorem roundHalfEven_of_untied {value unit : Nat} (untied : 2 * (value % unit) ≠ unit) :
    roundHalfEven value unit = value / unit + if 2 * (value % unit) < unit then 0 else 1 := by
  unfold roundHalfEven
  dsimp only
  split_ifs <;> omega

/-- What is lost with the last digits of an inexact quotient is no tie, and less than a half
exactly where those digits are. -/
theorem inexact_untied {numerator denominator excess : Nat} (positive : 0 < denominator)
    (long : 0 < excess) (inexact : numerator % denominator ≠ 0) :
    2 * (numerator % (denominator * 10 ^ excess)) ≠ denominator * 10 ^ excess ∧
      (2 * (numerator % (denominator * 10 ^ excess)) < denominator * 10 ^ excess ↔
        2 * (numerator / denominator % 10 ^ excess) < 10 ^ excess) := by
  obtain ⟨less, rfl⟩ : ∃ less, excess = less + 1 := ⟨excess - 1, by omega⟩
  have rest := Nat.mod_lt numerator positive
  have ten : (10 : Nat) ^ (less + 1) = 2 * (5 * 10 ^ less) := by ring
  rw [Nat.mod_mul, ten]
  generalize numerator / denominator % (2 * (5 * 10 ^ less)) = tail
  generalize 5 * 10 ^ less = half
  have twice : denominator * (2 * half) = 2 * (denominator * half) := by ring
  rw [twice]
  rcases Nat.lt_or_ge tail half with below | above
  · have product := Nat.mul_le_mul_left denominator (Nat.succ_le_of_lt below)
    rw [Nat.mul_succ] at product
    omega
  · have product := Nat.mul_le_mul_left denominator above
    omega

/-- A sticky last digit makes no carry and is no tie. -/
theorem sticky_untied {quotient excess : Nat} (long : 0 < excess) :
    sticky quotient / 10 ^ excess = quotient / 10 ^ excess ∧
      2 * (sticky quotient % 10 ^ excess) ≠ 10 ^ excess ∧
        (2 * (sticky quotient % 10 ^ excess) < 10 ^ excess ↔
          2 * (quotient % 10 ^ excess) < 10 ^ excess) := by
  obtain ⟨less, rfl⟩ : ∃ less, excess = less + 1 := ⟨excess - 1, by omega⟩
  have positive : 0 < 10 ^ (less + 1) := by positivity
  have ten : (10 : Nat) ^ (less + 1) = 5 * (2 * 10 ^ less) := by ring
  have parts := Nat.div_add_mod quotient (10 ^ (less + 1))
  have below := Nat.mod_lt quotient positive
  have multiple : 10 ^ (less + 1) * (quotient / 10 ^ (less + 1)) =
      5 * (2 * 10 ^ less * (quotient / 10 ^ (less + 1))) := by
    rw [ten]
    ring
  generalize quotient / 10 ^ (less + 1) = head at *
  generalize quotient % 10 ^ (less + 1) = tail at *
  obtain ⟨more, few, sticks, chosen⟩ : ∃ more, more ≤ 1 ∧ (more = 1 ↔ quotient % 5 = 0) ∧
      sticky quotient = quotient + more := by
    unfold sticky
    by_cases fifth : quotient % 5 = 0
    · exact ⟨1, le_rfl, by simp [fifth], if_pos fifth⟩
    · exact ⟨0, by omega, by simp [fifth], if_neg fifth⟩
  have next : tail + more + 10 ^ (less + 1) * head = sticky quotient ∧
      tail + more < 10 ^ (less + 1) := by
    omega
  obtain ⟨same, its⟩ := (Nat.div_mod_unique positive).mpr next
  rw [same, its]
  exact ⟨rfl, by omega, by omega⟩

/-- An inexact quotient with a sticky last digit is rounded like the exact one. -/
theorem roundHalfEven_sticky {numerator denominator excess : Nat} (positive : 0 < denominator)
    (long : 0 < excess) (inexact : numerator % denominator ≠ 0) :
    roundHalfEven (sticky (numerator / denominator)) (10 ^ excess) =
      roundHalfEven numerator (denominator * 10 ^ excess) := by
  obtain ⟨untied, half⟩ := inexact_untied positive long inexact
  obtain ⟨same, apart, its⟩ := @sticky_untied (numerator / denominator) excess long
  rw [roundHalfEven_of_untied untied, roundHalfEven_of_untied apart, same, Nat.div_div_eq_div_mul]
  simp only [half, its]

/-- A sticky last digit adds no digit. -/
theorem digits_sticky (quotient : Nat) : digits (sticky quotient) = digits quotient := by
  unfold sticky
  split_ifs with fifth
  · by_cases zero : quotient = 0
    · subst zero
      decide
    have lower := Nat.pow_log_le_self 10 zero
    have upper := Nat.lt_pow_succ_log_self (b := 10) (by decide) quotient
    have power : (10 : Nat) ^ (Nat.log 10 quotient + 1) = 5 * (2 * 10 ^ Nat.log 10 quotient) := by
      ring
    unfold digits
    rw [Nat.log_eq_of_pow_le_of_lt_pow (lower.trans (Nat.le_succ _)) (by omega)]
  · rfl

/-- An inexact quotient with a sticky last digit has the nearest decimal of the exact one. -/
theorem nearest_sticky {precision numerator denominator : Nat} (exponent : ℤ)
    (positive : 0 < precision) (some : 0 < denominator)
    (inexact : numerator % denominator ≠ 0) (long : precision < digits (numerator / denominator)) :
    nearest precision (value ⟨sticky (numerator / denominator), exponent⟩) =
      nearest precision (numerator / denominator * 10 ^ exponent) := by
  have under : (0 : ℚ) < denominator := by exact_mod_cast some
  have unit : lastUnit precision (numerator / denominator * 10 ^ exponent) =
      10 ^ (exponent + (digits (numerator / denominator) - precision : Nat)) := by
    refine lastUnit_of_long exponent positive long ?_ ?_
    · gcongr
      rw [le_div_iff₀ under]
      exact_mod_cast Nat.div_mul_le_self numerator denominator
    · gcongr
      rw [div_lt_iff₀ under]
      have above := Nat.lt_mul_div_succ numerator some
      rw [Nat.mul_comm] at above
      exact_mod_cast above
  have exactly := nearest_quotient some unit
  have padded := @nearest_quotient precision (sticky (numerator / denominator)) 1 _ exponent
    Nat.one_pos (by
      rw [Nat.cast_one, div_one]
      exact lastUnit_of_long exponent positive (by rw [digits_sticky]; exact long) le_rfl
        (by push_cast; gcongr; linarith))
  rw [Nat.cast_one, div_one, Nat.one_mul, digits_sticky,
    roundHalfEven_sticky some (by omega) inexact] at padded
  exact padded.trans exactly.symm

/-- The quotient of a division has more digits than the precision, before it is rounded. -/
theorem long_quotient {precision dividend divisor : Nat} (some : dividend ≠ 0)
    (positive : 0 < divisor) (shift : ℤ)
    (shifted : shift = (digits divisor : ℤ) - digits dividend + precision + 1) :
    precision < digits (dividend * 10 ^ shift.toNat / (divisor * 10 ^ (-shift).toNat)) := by
  have lower := pow_digits_le some
  have upper := lt_pow_digits divisor
  have large : 10 ^ precision ≤ dividend * 10 ^ shift.toNat / (divisor * 10 ^ (-shift).toNat) := by
    rw [Nat.le_div_iff_mul_le (by positivity)]
    calc 10 ^ precision * (divisor * 10 ^ (-shift).toNat)
        ≤ 10 ^ precision * (10 ^ digits divisor * 10 ^ (-shift).toNat) := by gcongr
      _ = 10 ^ (digits dividend - 1) * 10 ^ shift.toNat := by
          rw [← Nat.pow_add, ← Nat.pow_add, ← Nat.pow_add]
          congr 1
          have some : 1 ≤ digits dividend := Nat.le_add_left ..
          omega
      _ ≤ dividend * 10 ^ shift.toNat := by gcongr
  unfold digits
  exact Nat.lt_succ_of_le (Nat.le_log_of_pow_le (by decide) large)

/-- A quotient is correctly rounded. -/
theorem div_value {precision : Nat} (positive : 0 < precision) (left right : Decimal)
    (some : 0 < right.coefficient) :
    (div precision left right).value = nearest precision (left.value / right.value) ∧
      (div precision left right).coefficient < 10 ^ precision := by
  have pow : ∀ base exponent : Nat, Nat.pow base exponent = base ^ exponent := fun _ _ => rfl
  obtain ⟨dividend, high⟩ := left
  obtain ⟨divisor, low⟩ := right
  unfold div
  dsimp only at some ⊢
  simp only [pow]
  by_cases none : dividend = 0
  · subst none
    rw [if_pos rfl]
    obtain ⟨rounded, few⟩ := fix_value positive ⟨0, high - low⟩
    refine ⟨rounded.trans ?_, few⟩
    congr 1
    unfold value
    simp
  · rw [if_neg none]
    generalize shifted : (digits divisor : ℤ) - digits dividend + precision + 1 = shift
    have long := long_quotient none some shift shifted.symm
    have numerator : (0 : ℚ) < dividend := by exact_mod_cast Nat.pos_of_ne_zero none
    have denominator : (0 : ℚ) < divisor := by exact_mod_cast some
    have quotient : value ⟨dividend, high⟩ / value ⟨divisor, low⟩ =
        ((dividend * 10 ^ shift.toNat : Nat) : ℚ) / (divisor * 10 ^ (-shift).toNat : Nat) *
          10 ^ (high - low - shift) := by
      have power : (10 : ℚ) ^ shift.toNat = 10 ^ shift * 10 ^ (-shift).toNat := by
        rw [← zpow_natCast, ← zpow_natCast, ← zpow_add₀ (by norm_num)]
        congr 1
        omega
      unfold value
      push_cast
      rw [power, zpow_sub₀ (by norm_num), zpow_sub₀ (by norm_num)]
      field_simp
    rw [quotient]
    have unit : 0 < divisor * 10 ^ (-shift).toNat := by positivity
    generalize dividend * 10 ^ shift.toNat = scaled at *
    generalize divisor * 10 ^ (-shift).toNat = under at *
    generalize high - low - shift = exponent at *
    have positiveUnder : (0 : ℚ) < under := by exact_mod_cast unit
    by_cases exactly : scaled % under = 0
    · rw [if_pos exactly]
      obtain ⟨rounded, few⟩ := fix_value positive (reduce shift.toNat ⟨scaled / under, exponent⟩)
      refine ⟨rounded.trans ?_, few⟩
      rw [reduce_value]
      congr 1
      have whole : scaled / under * under = scaled :=
        Nat.div_mul_cancel (Nat.dvd_of_mod_eq_zero exactly)
      unfold value
      dsimp only
      rw [← whole, Nat.mul_div_cancel _ unit]
      push_cast
      field_simp
    · rw [if_neg exactly]
      obtain ⟨rounded, few⟩ := fix_value positive ⟨sticky (scaled / under), exponent⟩
      exact ⟨rounded.trans (nearest_sticky exponent positive unit exactly long), few⟩

/-! ## Rescaling -/

/-- Rounding half up is the floor of the quotient and a half. -/
theorem roundHalfUp_eq_floor (value : Nat) {unit : Nat} (positive : 0 < unit) :
    (roundHalfUp value unit : ℤ) = ⌊(value : ℚ) / unit + 1 / 2⌋ := by
  have some : (0 : ℚ) < unit := by exact_mod_cast positive
  unfold roundHalfUp
  rw [Int.natCast_ediv, ← Rat.floor_natCast_div_natCast]
  congr 1
  push_cast
  field_simp

/-- A unit of two or more divides a number below a bound to a result below it. -/
theorem roundHalfUp_lt {value unit bound : Nat} (unital : 2 ≤ unit) (below : value < bound) :
    roundHalfUp value unit < bound := by
  unfold roundHalfUp
  rw [Nat.div_lt_iff_lt_mul (by omega)]
  have twice : bound * 2 ≤ bound * unit := Nat.mul_le_mul_left bound unital
  have spread : bound * (2 * unit) = bound * unit + bound * unit := by ring
  have less : unit ≤ bound * unit := Nat.le_mul_of_pos_left unit (by omega)
  rw [spread]
  omega

/-- Rescaling gives the integer that is reached by rounding half up, unless it has too many
digits. -/
theorem quantizeUnit_eq_some {precision result : Nat} (positive : 0 < precision)
    {decimal : Decimal} (short : decimal.coefficient < 10 ^ precision) :
    quantizeUnit precision decimal = some result ↔
      ⌊decimal.value + 1 / 2⌋ = result ∧ result < 10 ^ precision := by
  have pow : ∀ base exponent : Nat, Nat.pow base exponent = base ^ exponent := fun _ _ => rfl
  obtain ⟨coefficient, exponent⟩ := decimal
  have few := (digits_le_iff positive coefficient).mpr short
  unfold quantizeUnit value
  dsimp only at short ⊢
  simp only [pow]
  by_cases whole : 0 ≤ exponent
  · obtain ⟨places, rfl⟩ := Int.eq_ofNat_of_zero_le whole
    have integral : (coefficient * 10 ^ (places : ℤ) + 1 / 2 : ℚ) =
        ((coefficient * 10 ^ places : Nat) : ℤ) + 1 / 2 := by
      push_cast
      rw [zpow_natCast]
    have half : ⌊(1 / 2 : ℚ)⌋ = 0 := by norm_num
    rw [integral, Int.floor_intCast_add, half, add_zero, if_pos whole, Int.toNat_natCast]
    by_cases none : coefficient = 0
    · subst none
      have one : ¬precision < digits 0 := not_lt.mpr positive
      simp only [ne_eq, not_true_eq_false, false_and, if_false, Nat.zero_mul, if_neg one,
        Option.some.injEq, Nat.cast_zero]
      constructor
      · rintro rfl
        exact ⟨rfl, by positivity⟩
      · exact fun same => by exact_mod_cast same.1
    · have total := digits_mul_pow none places
      have fits := digits_le_iff positive (coefficient * 10 ^ places)
      rw [total] at fits
      rw [Int.natCast_inj]
      by_cases many : precision < digits coefficient + places
      · rw [if_pos ⟨none, by omega⟩]
        constructor
        · rintro ⟨⟩
        · rintro ⟨rfl, below⟩
          exact absurd (fits.mpr below) (by omega)
      · rw [if_neg (by omega), total, if_neg many, Option.some.injEq]
        constructor
        · rintro rfl
          exact ⟨rfl, fits.mp (by omega)⟩
        · exact fun same => same.1
  · obtain ⟨less, rfl⟩ : ∃ less : Nat, exponent = -((less + 1 : Nat) : ℤ) :=
      ⟨(-exponent).toNat - 1, by omega⟩
    have parts : (coefficient * 10 ^ (-((less + 1 : Nat) : ℤ)) + 1 / 2 : ℚ) =
        coefficient / ((10 ^ (less + 1) : Nat) : ℚ) + 1 / 2 := by
      rw [zpow_neg, zpow_natCast, div_eq_mul_inv]
      push_cast
      rfl
    rw [parts, ← roundHalfUp_eq_floor coefficient (by positivity), if_neg whole, neg_neg,
      Int.toNat_natCast]
    have below : roundHalfUp coefficient (10 ^ (less + 1)) < 10 ^ precision := by
      refine roundHalfUp_lt ?_ short
      rw [Nat.pow_succ]
      have some : 0 < 10 ^ less := by positivity
      omega
    have fits := (digits_le_iff positive _).mpr below
    rw [if_neg (by omega), if_neg (by omega), Option.some.injEq, Int.natCast_inj]
    constructor
    · rintro rfl
      exact ⟨rfl, below⟩
    · exact fun same => same.1

end Decimal

end DecimalArithmetic
