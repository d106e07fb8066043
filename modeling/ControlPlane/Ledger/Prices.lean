import ControlPlane.Domain
import ControlPlane.Library.DecimalRounding

/-!
# Prices that rounding leaves exact

The price of a usage is the exact product of bytes, rate and coefficient over a
gibibyte, rounded half up, as long as the digits that the context rounds away on
the way take it over no half, and the result has no more digits than the context.
-/

namespace ControlPlane

open DecimalArithmetic Decimal

/-! ## Halves -/

/-- No half lies between two numbers. -/
def SameHalves (first second : ℚ) : Prop :=
  ∀ whole : ℕ, (whole + 1 / 2 : ℚ) ≤ first ↔ (whole + 1 / 2 : ℚ) ≤ second

/-- Numbers with no half between them are rounded to the same integer. -/
theorem sameHalves_iff {first second : ℚ} (nonnegative : 0 ≤ first) (others : 0 ≤ second) :
    SameHalves first second ↔ ⌊first + 1 / 2⌋ = ⌊second + 1 / 2⌋ := by
  have reaches : ∀ (whole : ℕ) (number : ℚ),
      (whole + 1 / 2 : ℚ) ≤ number ↔ ((whole + 1 : ℕ) : ℤ) ≤ ⌊number + 1 / 2⌋ := by
    intro whole number
    rw [Int.le_floor]
    push_cast
    constructor <;> intro bound <;> linarith
  constructor
  · intro same
    have up : ∀ one other : ℚ, 0 ≤ other →
        (∀ whole : ℕ, (whole + 1 / 2 : ℚ) ≤ one → (whole + 1 / 2 : ℚ) ≤ other) →
          ⌊one + 1 / 2⌋ ≤ ⌊other + 1 / 2⌋ := by
      intro one other some follows
      by_contra less
      have least : 0 ≤ ⌊other + 1 / 2⌋ := Int.floor_nonneg.mpr (by linarith)
      obtain ⟨whole, its⟩ := Int.eq_ofNat_of_zero_le least
      have reached := (reaches whole other).mp (follows whole ((reaches whole one).mpr (by omega)))
      omega
    exact le_antisymm (up _ _ others fun whole => (same whole).mp)
      (up _ _ nonnegative fun whole => (same whole).mpr)
  · intro same whole
    rw [reaches, reaches, same]

/-! ## Prices -/

section

variable (deltaBytes rateIrr coefficient places : ℕ)

/-- The price of a usage, before it is rounded. -/
def exactPrice : ℚ := deltaBytes * rateIrr * (coefficient / 10 ^ places) / 2 ^ 30

/-- The price of a usage, before it is rounded, from products and a quotient with no more digits
than the context has. -/
def contextPrice : ℚ :=
  nearest contextPrecision (nearest contextPrecision
    (nearest contextPrecision (deltaBytes * rateIrr) * (coefficient / 10 ^ places)) / 2 ^ 30)

/-- The context has room for the price, and the digits that it rounds away take the price over no
half. -/
structure KeepsPrice : Prop where
  fits : exactPrice deltaBytes rateIrr coefficient places + 1 / 2 < 10 ^ contextPrecision
  halves : SameHalves (exactPrice deltaBytes rateIrr coefficient places)
    (contextPrice deltaBytes rateIrr coefficient places)

end

variable {deltaBytes rateIrr coefficient places : ℕ}

theorem exactPrice_nonneg : 0 ≤ exactPrice deltaBytes rateIrr coefficient places := by
  unfold exactPrice
  positivity

/-- What is quantized in the end. -/
theorem div_gib (deltaBytes rateIrr coefficient places : ℕ) :
    ∃ quotient : Decimal, quotient = div contextPrecision
        (((ofNat deltaBytes).mul contextPrecision (ofNat rateIrr)).mul contextPrecision
          ⟨coefficient, -(places : ℤ)⟩) (ofNat gib) ∧
      quotient.value = contextPrice deltaBytes rateIrr coefficient places ∧
      quotient.coefficient < 10 ^ contextPrecision := by
  obtain ⟨rounded, few⟩ := div_value (by decide : 0 < contextPrecision)
    (((ofNat deltaBytes).mul contextPrecision (ofNat rateIrr)).mul contextPrecision
      ⟨coefficient, -(places : ℤ)⟩) (ofNat gib) (by decide)
  refine ⟨_, rfl, rounded.trans ?_, few⟩
  rw [mul_value (by decide), mul_value (by decide)]
  have natural : ∀ number : ℕ, (ofNat number).value = number := fun number => by
    simp [ofNat, value]
  have factor : value ⟨coefficient, -(places : ℤ)⟩ = coefficient / 10 ^ places := by
    rw [value, zpow_neg, zpow_natCast, div_eq_mul_inv]
  have bytes : (gib : ℚ) = 2 ^ 30 := by
    unfold gib
    norm_num
  rw [natural, natural, natural, factor, bytes]
  rfl

/-- The price of a usage is the exact price, rounded half up, exactly where the context keeps it. -/
theorem priceUsage_exact_iff (deltaBytes rateIrr coefficient places : ℕ) :
    priceUsage deltaBytes rateIrr ⟨coefficient, -(places : ℤ)⟩ =
        .ok ⌊(deltaBytes * rateIrr * (coefficient / 10 ^ places) / 2 ^ 30 + 1 / 2 : ℚ)⌋ ↔
      KeepsPrice deltaBytes rateIrr coefficient places := by
  obtain ⟨quotient, computed, same, few⟩ := div_gib deltaBytes rateIrr coefficient places
  have context : 0 ≤ contextPrice deltaBytes rateIrr coefficient places := by
    rw [← same, value]
    positivity
  have halves := sameHalves_iff (@exactPrice_nonneg deltaBytes rateIrr coefficient places) context
  have rescaled := fun result : ℕ =>
    @quantizeUnit_eq_some _ result (by decide : 0 < contextPrecision) _ few
  rw [same] at rescaled
  change _ = Except.ok ⌊exactPrice deltaBytes rateIrr coefficient places + 1 / 2⌋ ↔ _
  have least : 0 ≤ ⌊exactPrice deltaBytes rateIrr coefficient places + 1 / 2⌋ :=
    Int.floor_nonneg.mpr (by linarith [@exactPrice_nonneg deltaBytes rateIrr coefficient places])
  obtain ⟨price, its⟩ := Int.eq_ofNat_of_zero_le least
  have fits : exactPrice deltaBytes rateIrr coefficient places + 1 / 2 < 10 ^ contextPrecision ↔
      price < 10 ^ contextPrecision := by
    have bound := Int.floor_lt (a := exactPrice deltaBytes rateIrr coefficient places + 1 / 2)
      (z := ((10 ^ contextPrecision : ℕ) : ℤ))
    rw [its] at bound
    push_cast at bound
    rw [← bound]
    exact_mod_cast Iff.rfl
  rw [its] at halves ⊢
  have priced : priceUsage deltaBytes rateIrr ⟨coefficient, -(places : ℤ)⟩ = .ok (price : ℤ) ↔
      quantizeUnit contextPrecision quotient = some price := by
    unfold priceUsage
    rw [if_neg (by omega)]
    dsimp only
    rw [Int.toNat_natCast, Int.toNat_natCast, ← computed]
    cases quantizeUnit contextPrecision quotient with
    | none => exact ⟨by rintro ⟨⟩, by rintro ⟨⟩⟩
    | some amount =>
        change Except.ok (amount : ℤ) = _ ↔ _
        rw [Except.ok.injEq, Int.natCast_inj, Option.some.injEq]
  rw [priced, rescaled]
  constructor
  · rintro ⟨reached, below⟩
    exact ⟨fits.mpr below, halves.mpr reached.symm⟩
  · rintro ⟨below, kept⟩
    exact ⟨(halves.mp kept).symm, fits.mp below⟩

/-! ## Prices that are kept -/

/-- A number with no more digits than the context has. -/
def Short (number : ℚ) : Prop :=
  ∃ (digits : ℕ) (exponent : ℤ), digits < 10 ^ contextPrecision ∧ number = digits * 10 ^ exponent

theorem Short.nearest {number : ℚ} (short : Short number) :
    nearest contextPrecision number = number := by
  obtain ⟨digits, exponent, few, rfl⟩ := short
  exact nearest_of_lt few exponent

/-- Where nothing is rounded on the way, a price that fits is kept. -/
theorem KeepsPrice.of_short (product : Short (deltaBytes * rateIrr))
    (weighted : Short (deltaBytes * rateIrr * (coefficient / 10 ^ places)))
    (price : Short (exactPrice deltaBytes rateIrr coefficient places))
    (fits : exactPrice deltaBytes rateIrr coefficient places + 1 / 2 < 10 ^ contextPrecision) :
    KeepsPrice deltaBytes rateIrr coefficient places := by
  refine ⟨fits, fun whole => ?_⟩
  have same : contextPrice deltaBytes rateIrr coefficient places =
      exactPrice deltaBytes rateIrr coefficient places := by
    unfold contextPrice
    rw [product.nearest, weighted.nearest]
    exact price.nearest
  rw [same]

/-- A quotient by a gibibyte is no half, or further away from the next one than the context moves
it. -/
theorem sameHalves_nearest {amount : ℕ} (short : amount < 10 ^ contextPrecision) (places : ℕ) :
    SameHalves (amount / 10 ^ places / 2 ^ 30)
      (nearest contextPrecision (amount / 10 ^ places / 2 ^ 30)) := by
  by_cases none : amount = 0
  · subst none
    have zero : nearest contextPrecision 0 = 0 := by
      simpa using nearest_of_lt (by decide : 0 < 10 ^ contextPrecision) 0
    rw [Nat.cast_zero, zero_div, zero_div, zero]
    exact fun _ => Iff.rfl
  have some : (0 : ℚ) < amount := by exact_mod_cast Nat.pos_of_ne_zero none
  have few : (amount : ℚ) < 10 ^ 28 := by exact_mod_cast short
  have scale : (0 : ℚ) < 10 ^ places := by positivity
  generalize exactly : (amount / 10 ^ places / 2 ^ 30 : ℚ) = price
  have total : price * (10 ^ places * 2 ^ 30) = amount := by
    rw [← exactly]
    field_simp
  have positive : 0 < price := by
    rw [← exactly]
    positivity
  -- Nine places after the point are left beside those of the coefficient.
  have unit : lastUnit contextPrecision price * 10 ^ places ≤ 1 / 10 ^ 9 := by
    have small : price < 10 ^ ((19 : ℤ) - places) := by
      rw [zpow_sub₀ (by norm_num), zpow_natCast, lt_div_iff₀ scale]
      have bound : price * 10 ^ places * 2 ^ 30 < 10 ^ 28 := by
        linarith
      have nineteen : ((10 : ℚ) ^ (19 : ℤ)) = 10 ^ 19 := by norm_num
      rw [nineteen]
      linarith
    have log : Int.log 10 price < 19 - places :=
      (Int.lt_zpow_iff_log_lt (by decide) positive).mp (by push_cast; exact small)
    have power : lastUnit contextPrecision price ≤ 10 ^ ((-9 : ℤ) - places) :=
      zpow_le_zpow_right₀ (by norm_num) (by unfold contextPrecision; omega)
    calc lastUnit contextPrecision price * 10 ^ places
        ≤ 10 ^ ((-9 : ℤ) - places) * 10 ^ places := by gcongr
      _ = 1 / 10 ^ 9 := by
          rw [zpow_sub₀ (by norm_num), zpow_natCast, div_mul_cancel₀ _ scale.ne']
          norm_num
  obtain ⟨below, above⟩ := abs_le.mp (nearest_close contextPrecision price)
  have near : lastUnit contextPrecision price / 2 * (10 ^ places * 2 ^ 30) < 1 := by
    linarith
  intro whole
  have width : (0 : ℚ) < 10 ^ places * 2 ^ 30 := by positivity
  have half : (whole + 1 / 2 : ℚ) * (10 ^ places * 2 ^ 30) =
      (((2 * whole + 1) * 10 ^ places * 2 ^ 29 : ℕ) : ℚ) := by
    push_cast
    ring
  have upper := mul_le_mul_of_nonneg_right above width.le
  have lower := mul_le_mul_of_nonneg_right below width.le
  rcases lt_trichotomy amount ((2 * whole + 1) * 10 ^ places * 2 ^ 29) with less | same | more
  · have apart : (amount : ℚ) + 1 ≤ ((2 * whole + 1) * 10 ^ places * 2 ^ 29 : ℕ) := by
      exact_mod_cast less
    rw [← mul_le_mul_iff_left₀ width, ← mul_le_mul_iff_left₀ (b := (whole + 1 / 2 : ℚ)) width, half,
      total]
    constructor <;> intro reached <;> linarith
  · have own : price = whole + 1 / 2 := by
      refine mul_right_cancel₀ width.ne' ?_
      rw [half, total, same]
    have room : 10 * whole + 5 < 10 ^ contextPrecision := by
      have one : (1 : ℚ) ≤ 10 ^ places := one_le_pow₀ (by norm_num)
      have most : price * 2 ^ 30 ≤ amount := by
        rw [← total]
        nlinarith
      have bound : (10 * whole + 5 : ℚ) < 10 ^ 28 := by
        rw [own] at most
        linarith
      exact_mod_cast bound
    have exactly : nearest contextPrecision price = price := by
      have kept := nearest_of_lt room (-1)
      have tenth : ((10 * whole + 5 : ℕ) : ℚ) * 10 ^ (-1 : ℤ) = price := by
        rw [own]
        push_cast
        norm_num
        ring
      rwa [tenth] at kept
    rw [exactly]
  · have apart : (((2 * whole + 1) * 10 ^ places * 2 ^ 29 : ℕ) : ℚ) + 1 ≤ amount := by
      exact_mod_cast more
    rw [← mul_le_mul_iff_left₀ width, ← mul_le_mul_iff_left₀ (b := (whole + 1 / 2 : ℚ)) width, half,
      total]
    constructor <;> intro reached <;> linarith

/-- Products of no more digits than the context has keep their price. -/
theorem KeepsPrice.of_lt (some : 0 < coefficient)
    (short : deltaBytes * rateIrr * coefficient < 10 ^ contextPrecision) :
    KeepsPrice deltaBytes rateIrr coefficient places := by
  have product : Short ((deltaBytes : ℚ) * rateIrr) := by
    refine ⟨deltaBytes * rateIrr, 0, lt_of_le_of_lt (Nat.le_mul_of_pos_right _ some) short, ?_⟩
    push_cast
    ring
  have amount : (deltaBytes * rateIrr * (coefficient / 10 ^ places) : ℚ) =
      ((deltaBytes * rateIrr * coefficient : ℕ) : ℚ) / 10 ^ places := by
    push_cast
    ring
  have weighted : Short (deltaBytes * rateIrr * (coefficient / 10 ^ places)) := by
    refine ⟨deltaBytes * rateIrr * coefficient, -(places : ℤ), short, ?_⟩
    rw [amount, zpow_neg, zpow_natCast, div_eq_mul_inv]
  constructor
  · have few : ((deltaBytes * rateIrr * coefficient : ℕ) : ℚ) < 10 ^ contextPrecision := by
      exact_mod_cast short
    have one : (1 : ℚ) ≤ 10 ^ places := one_le_pow₀ (by norm_num)
    have least : ((deltaBytes * rateIrr * coefficient : ℕ) : ℚ) / 10 ^ places ≤
        (deltaBytes * rateIrr * coefficient : ℕ) := div_le_self (Nat.cast_nonneg _) one
    unfold exactPrice
    rw [amount]
    unfold contextPrecision at few ⊢
    linarith
  · unfold exactPrice contextPrice
    rw [product.nearest, weighted.nearest, amount]
    exact sameHalves_nearest short places

/-- Half a gibibyte at an odd rate costs a half more than a whole number. -/
example : KeepsPrice (2 ^ 29) 5001 10000 4 := .of_lt (by decide) (by decide)

/-- Products of thirty digits and more that end in zeros. -/
example : KeepsPrice (2 ^ 50) (10 ^ 14) 10000 4 := by
  have product : Short ((2 ^ 50 : ℕ) * (10 ^ 14 : ℕ)) :=
    ⟨2 ^ 50, 14, by decide, by norm_num⟩
  refine .of_short product ?_ ⟨2 ^ 20, 14, by decide, ?_⟩ ?_
  · norm_num at product ⊢
    exact product
  · norm_num [exactPrice]
  · norm_num [exactPrice, contextPrecision]

/-- The largest numbers have a price the context cannot hold. -/
theorem priceUsage_fails :
    ¬∀ deltaBytes rateIrr coefficient : Nat, deltaBytes < 2 ^ 63 → rateIrr < 2 ^ 63 →
      0 < coefficient → coefficient ≤ 1000 * 10 ^ 4 →
        priceUsage deltaBytes rateIrr ⟨coefficient, -(4 : Nat)⟩ =
          .ok ⌊(deltaBytes * rateIrr * (coefficient / 10 ^ 4) / 2 ^ 30 + 1 / 2 : ℚ)⌋ := by
  intro claim
  have priced := claim (2 ^ 63 - 1) (2 ^ 63 - 1) (1000 * 10 ^ 4) (by decide) (by decide)
    (by decide) (by decide)
  have refused : priceUsage ((2 ^ 63 - 1 : Nat) : Int) ((2 ^ 63 - 1 : Nat) : Int)
      ⟨1000 * 10 ^ 4, -(4 : Nat)⟩ = .error .unexpected := by
    decide +kernel
  rw [refused] at priced
  cases priced

end ControlPlane
