import CitationFile.Decimal.Shortest
import CitationFile.Proofs.Digits
import Mathlib.Algebra.Order.Field.Power
import Mathlib.Algebra.Order.Field.Rat
import Mathlib.Tactic.Linarith
import Mathlib.Tactic.Positivity
import Mathlib.Tactic.Ring

/-! What `Binary64.ofDecimal` computes, over the rationals: the one number in normal form whose
interval the decimal lies in. -/

namespace CitationFile.Decimal

open Binary64 (leastExponent greatestExponent)

structure IsNormal (mantissa : Nat) (exponent : Int) : Prop where
  bounded : mantissa < 2 ^ 53
  least : leastExponent ≤ exponent
  full : leastExponent < exponent → 2 ^ 52 ≤ mantissa

variable {mantissa mantissa' : Nat} {exponent exponent' : Int} {x : ℚ}

/-- Halfway to the next number. -/
def upperEnd (mantissa : Nat) (exponent : Int) : ℚ :=
  (mantissa + 1 / 2) * 2 ^ exponent

/-- Halfway to the number before, which is nearer below a power of two. -/
def lowerEnd (mantissa : Nat) (exponent : Int) : ℚ :=
  if mantissa = 2 ^ 52 ∧ leastExponent < exponent then (mantissa - 1 / 4) * 2 ^ exponent
  else (mantissa - 1 / 2) * 2 ^ exponent

/-- The rationals that round to `mantissa * 2 ^ exponent`, with halves to the even mantissa. -/
structure RoundsTo (x : ℚ) (mantissa : Nat) (exponent : Int) : Prop where
  lower : lowerEnd mantissa exponent ≤ x
  upper : x ≤ upperEnd mantissa exponent
  even : x = lowerEnd mantissa exponent ∨ x = upperEnd mantissa exponent → mantissa % 2 = 0

theorem RoundsTo.of_lt (hlow : lowerEnd mantissa exponent < x)
    (hhigh : x < upperEnd mantissa exponent) : RoundsTo x mantissa exponent where
  lower := hlow.le
  upper := hhigh.le
  even := by
    rintro (hatLow | hatHigh)
    · exact absurd hatLow hlow.ne'
    · exact absurd hatHigh hhigh.ne

theorem roundsTo_iff_of_even (heven : mantissa % 2 = 0) :
    RoundsTo x mantissa exponent ↔
      lowerEnd mantissa exponent ≤ x ∧ x ≤ upperEnd mantissa exponent :=
  ⟨fun hrounds => ⟨hrounds.lower, hrounds.upper⟩,
    fun hinside => ⟨hinside.1, hinside.2, fun _ => heven⟩⟩

theorem roundsTo_iff_of_odd (hodd : mantissa % 2 ≠ 0) :
    RoundsTo x mantissa exponent ↔
      lowerEnd mantissa exponent < x ∧ x < upperEnd mantissa exponent := by
  constructor
  · intro hrounds
    have hinside := mt hrounds.even hodd
    rw [not_or] at hinside
    exact ⟨lt_of_le_of_ne hrounds.lower (Ne.symm hinside.1), lt_of_le_of_ne hrounds.upper hinside.2⟩
  · rintro ⟨hlow, hhigh⟩
    exact .of_lt hlow hhigh

theorem two_zpow_pos (exponent : Int) : (0 : ℚ) < 2 ^ exponent :=
  zpow_pos (by norm_num) exponent

theorem ten_zpow_pos (scale : Int) : (0 : ℚ) < 10 ^ scale :=
  zpow_pos (by norm_num) scale

private theorem lowerEnd_lt (mantissa : Nat) (exponent : Int) :
    lowerEnd mantissa exponent < mantissa * 2 ^ exponent := by
  have hunit := two_zpow_pos exponent
  unfold lowerEnd
  split <;> exact mul_lt_mul_of_pos_right (by linarith) hunit

private theorem lt_upperEnd (mantissa : Nat) (exponent : Int) :
    mantissa * 2 ^ exponent < upperEnd mantissa exponent :=
  mul_lt_mul_of_pos_right (by linarith) (two_zpow_pos exponent)

theorem roundsTo_self (mantissa : Nat) (exponent : Int) :
    RoundsTo (mantissa * 2 ^ exponent) mantissa exponent :=
  .of_lt (lowerEnd_lt mantissa exponent) (lt_upperEnd mantissa exponent)

theorem RoundsTo.between {y z : ℚ} (hfirst : RoundsTo x mantissa exponent)
    (hlast : RoundsTo z mantissa exponent) (hlow : x ≤ y) (hhigh : y ≤ z) :
    RoundsTo y mantissa exponent where
  lower := hfirst.lower.trans hlow
  upper := hhigh.trans hlast.upper
  even := by
    rintro (hatLow | hatHigh)
    · exact hfirst.even (.inl (le_antisymm (hlow.trans_eq hatLow) hfirst.lower))
    · exact hlast.even (.inr (le_antisymm hlast.upper (hatHigh.symm.trans_le hhigh)))

/-! No rational rounds to two numbers. -/

private theorem not_lt_of_roundsTo (hnormal : IsNormal mantissa exponent)
    (hrounds : RoundsTo x mantissa exponent) (hrounds' : RoundsTo x mantissa' exponent) :
    ¬ mantissa < mantissa' := by
  intro hless
  have hunit := two_zpow_pos exponent
  have hlower' : lowerEnd mantissa' exponent = (mantissa' - 1 / 2) * 2 ^ exponent := by
    refine if_neg fun ⟨hpower, habove⟩ => ?_
    have := hnormal.full habove
    omega
  have hstep : (mantissa : ℚ) + 1 ≤ mantissa' := by exact_mod_cast hless
  have hends : upperEnd mantissa exponent ≤ lowerEnd mantissa' exponent := by
    rw [hlower']
    exact mul_le_mul_of_nonneg_right (by linarith) hunit.le
  have hatUpper : x = upperEnd mantissa exponent :=
    le_antisymm hrounds.upper (hends.trans hrounds'.lower)
  have hatLower : x = lowerEnd mantissa' exponent :=
    le_antisymm (hrounds.upper.trans hends) hrounds'.lower
  have heq : (mantissa : ℚ) + 1 / 2 = mantissa' - 1 / 2 := by
    have : (mantissa + 1 / 2 : ℚ) * 2 ^ exponent = (mantissa' - 1 / 2) * 2 ^ exponent := by
      rw [← hlower', ← hatLower, hatUpper, upperEnd]
    exact mul_right_cancel₀ hunit.ne' this
  have hnext : mantissa' = mantissa + 1 := by
    have : (mantissa' : ℚ) = mantissa + 1 := by linarith
    exact_mod_cast this
  have heven := hrounds.even (.inr hatUpper)
  have heven' := hrounds'.even (.inl hatLower)
  omega

private theorem le_lowerEnd_of_full (habove : leastExponent < exponent)
    (hfull : 2 ^ 52 ≤ mantissa) :
    (2 ^ 52 - 1 / 4 : ℚ) * 2 ^ exponent ≤ lowerEnd mantissa exponent := by
  unfold lowerEnd
  split
  case isTrue hpower =>
    rw [hpower.1]
    push_cast
    exact le_rfl
  case isFalse hother =>
    have hnext : (2 ^ 52 : ℚ) + 1 ≤ mantissa := by
      have : 2 ^ 52 + 1 ≤ mantissa := by omega
      exact_mod_cast this
    exact mul_le_mul_of_nonneg_right (by linarith) (two_zpow_pos exponent).le

/-- The greatest mantissa is odd, so its end above does not belong to it. -/
theorem RoundsTo.lt_top (hrounds : RoundsTo x mantissa exponent)
    (hnormal : IsNormal mantissa exponent) : x < (2 ^ 53 - 1 / 2) * 2 ^ exponent := by
  have hunit := two_zpow_pos exponent
  have hbelow : (mantissa : ℚ) + 1 ≤ 2 ^ 53 := by exact_mod_cast hnormal.bounded
  have hmost : upperEnd mantissa exponent ≤ (2 ^ 53 - 1 / 2) * 2 ^ exponent :=
    mul_le_mul_of_nonneg_right (by linarith) hunit.le
  refine lt_of_le_of_ne (hrounds.upper.trans hmost) fun heq => ?_
  have hatUpper : x = upperEnd mantissa exponent := le_antisymm hrounds.upper (heq ▸ hmost)
  have htop : (mantissa : ℚ) + 1 / 2 = 2 ^ 53 - 1 / 2 :=
    mul_right_cancel₀ hunit.ne' (hatUpper.symm.trans heq)
  have hodd : mantissa + 1 = 2 ^ 53 := by
    have : (mantissa : ℚ) + 1 = 2 ^ 53 := by linarith
    exact_mod_cast this
  have heven := hrounds.even (.inr hatUpper)
  omega

private theorem not_exponent_lt_of_roundsTo (hnormal : IsNormal mantissa exponent)
    (hnormal' : IsNormal mantissa' exponent') (hrounds : RoundsTo x mantissa exponent)
    (hrounds' : RoundsTo x mantissa' exponent') : ¬ exponent < exponent' := by
  intro hless
  have habove : leastExponent < exponent' := hnormal.least.trans_lt hless
  have hdoubled : (2 : ℚ) * 2 ^ exponent ≤ 2 ^ exponent' := by
    have : (2 : ℚ) ^ (exponent + 1) ≤ 2 ^ exponent' := zpow_le_zpow_right₀ (by norm_num) hless
    rwa [zpow_add_one₀ (by norm_num), mul_comm] at this
  have hbound : (2 ^ 53 - 1 / 2 : ℚ) * 2 ^ exponent ≤ lowerEnd mantissa' exponent' := by
    linarith [le_lowerEnd_of_full habove (hnormal'.full habove)]
  exact absurd ((hrounds.lt_top hnormal).trans_le hbound) hrounds'.lower.not_gt

private theorem RoundsTo.unique (hnormal : IsNormal mantissa exponent)
    (hnormal' : IsNormal mantissa' exponent') (hrounds : RoundsTo x mantissa exponent)
    (hrounds' : RoundsTo x mantissa' exponent') : mantissa = mantissa' ∧ exponent = exponent' := by
  have hexponents : exponent = exponent' :=
    le_antisymm (not_lt.mp (not_exponent_lt_of_roundsTo hnormal' hnormal hrounds' hrounds))
      (not_lt.mp (not_exponent_lt_of_roundsTo hnormal hnormal' hrounds hrounds'))
  subst hexponents
  have hmantissas : mantissa = mantissa' :=
    le_antisymm (not_lt.mp (not_lt_of_roundsTo hnormal' hrounds' hrounds))
      (not_lt.mp (not_lt_of_roundsTo hnormal hrounds hrounds'))
  exact ⟨hmantissas, rfl⟩

/-! A quotient is rounded with the exponent for 53 bits; a carry beyond these raises it by one. -/

namespace Binary64

private theorem scaled_positive {denominator : Nat} (hpositive : 0 < denominator) (numerator : Nat)
    (exponent : Int) : 0 < (scaled numerator denominator exponent).2 := by
  unfold scaled
  split
  · exact Nat.mul_pos hpositive (Nat.pow_pos (by decide))
  · exact hpositive

private theorem scaled_quotient (numerator denominator : Nat) (exponent : Int) :
    ((scaled numerator denominator exponent).1 : ℚ) / (scaled numerator denominator exponent).2 =
      numerator / denominator / 2 ^ exponent := by
  unfold scaled
  split
  case isTrue hnonnegative =>
    obtain ⟨power, rfl⟩ := Int.eq_ofNat_of_zero_le hnonnegative
    simp [div_div]
  case isFalse hnegative =>
    obtain ⟨power, rfl⟩ : ∃ power : Nat, exponent = -power :=
      ⟨(-exponent).toNat, by omega⟩
    simp [div_mul_eq_mul_div]

/-- A whole number at most a half away, and less than that if it is odd. -/
structure IsNearest (x : ℚ) (whole : Nat) : Prop where
  lower : whole - 1 / 2 ≤ x
  upper : x ≤ whole + 1 / 2
  even : x = whole - 1 / 2 ∨ x = whole + 1 / 2 → whole % 2 = 0

private theorem isNearest_add_part {part : ℚ} (hnonnegative : 0 ≤ part) (whole : Nat)
    (hdown : part < 1 / 2 ∨ (part = 1 / 2 ∧ whole % 2 = 0)) : IsNearest (whole + part) whole := by
  have hhalf : part ≤ 1 / 2 := by
    rcases hdown with hbelow | ⟨hatHalf, -⟩
    · exact hbelow.le
    · exact hatHalf.le
  refine ⟨by linarith, by linarith, ?_⟩
  rintro (hlow | hhigh)
  · linarith
  · rcases hdown with hbelow | ⟨-, heven⟩
    · linarith
    · exact heven

private theorem isNearest_succ_add_part {part : ℚ} (hless : part < 1) (whole : Nat)
    (hup : ¬ (part < 1 / 2 ∨ (part = 1 / 2 ∧ whole % 2 = 0))) :
    IsNearest (whole + part) (whole + 1) := by
  have hhalf : 1 / 2 ≤ part := not_lt.mp fun hbelow => hup (.inl hbelow)
  refine ⟨by push_cast; linarith, by push_cast; linarith, ?_⟩
  rintro (hlow | hhigh)
  · have hatHalf : part = 1 / 2 := by push_cast at hlow; linarith
    have hodd : whole % 2 ≠ 0 := fun heven => hup (.inr ⟨hatHalf, heven⟩)
    omega
  · push_cast at hhigh
    linarith

private theorem isNearest_roundHalfEven {denominator : Nat} (hpositive : 0 < denominator)
    (numerator : Nat) :
    IsNearest (numerator / denominator) (roundHalfEven numerator denominator) := by
  have hpositive' : (0 : ℚ) < denominator := by exact_mod_cast hpositive
  unfold roundHalfEven
  dsimp only
  have hrestLess := Nat.mod_lt numerator hpositive
  have hquotient := Nat.div_add_mod numerator denominator
  generalize numerator / denominator = whole at hquotient ⊢
  generalize numerator % denominator = rest at hquotient hrestLess ⊢
  have hquotient : (numerator : ℚ) / denominator = whole + rest / denominator := by
    have hparts : (numerator : ℚ) = denominator * whole + rest := by exact_mod_cast hquotient.symm
    rw [hparts, add_div, mul_div_cancel_left₀ _ hpositive'.ne']
  have hhalfLt : (rest / denominator : ℚ) < 1 / 2 ↔ 2 * rest < denominator := by
    rw [div_lt_div_iff₀ hpositive' (by norm_num), mul_comm, one_mul]
    norm_cast
  have hhalf : (rest / denominator : ℚ) = 1 / 2 ↔ 2 * rest = denominator := by
    rw [div_eq_div_iff hpositive'.ne' (by norm_num), mul_comm, one_mul]
    norm_cast
  have hnonnegative : (0 : ℚ) ≤ rest / denominator := by positivity
  have hless : (rest / denominator : ℚ) < 1 :=
    (div_lt_one hpositive').mpr (by exact_mod_cast hrestLess)
  rw [hquotient]
  simp only [← hhalfLt, ← hhalf]
  split
  case isTrue hdown => exact isNearest_add_part hnonnegative whole hdown
  case isFalse hup => exact isNearest_succ_add_part hless whole hup

private theorem log2_bounds {numerator denominator : Nat} (hpositive : 0 < numerator)
    (hpositive' : 0 < denominator) :
    (2 : ℚ) ^ ((numerator.log2 : Int) - denominator.log2 - 1) < numerator / denominator ∧
      (numerator / denominator : ℚ) < 2 ^ ((numerator.log2 : Int) - denominator.log2 + 1) := by
  have hbelow : (2 : ℚ) ^ (numerator.log2 : Int) ≤ numerator := by
    rw [zpow_natCast]
    exact_mod_cast Nat.log2_self_le hpositive.ne'
  have habove : (numerator : ℚ) < 2 ^ ((numerator.log2 : Int) + 1) := by
    rw [← Nat.cast_succ, zpow_natCast]
    exact_mod_cast numerator.lt_log2_self
  have hbelow' : (2 : ℚ) ^ (denominator.log2 : Int) ≤ denominator := by
    rw [zpow_natCast]
    exact_mod_cast Nat.log2_self_le hpositive'.ne'
  have habove' : (denominator : ℚ) < 2 ^ ((denominator.log2 : Int) + 1) := by
    rw [← Nat.cast_succ, zpow_natCast]
    exact_mod_cast denominator.lt_log2_self
  have hrational : (0 : ℚ) < denominator := by exact_mod_cast hpositive'
  have hnumeratorPos : (0 : ℚ) < numerator := by exact_mod_cast hpositive
  constructor
  · rw [sub_sub, zpow_sub₀ (by norm_num)]
    exact div_lt_div₀' hbelow habove' hnumeratorPos hrational
  · rw [sub_add_eq_add_sub, zpow_sub₀ (by norm_num)]
    exact div_lt_div₀ habove hbelow' (by positivity) (two_zpow_pos _)

theorem scaled_whole_lt_iff {denominator : Nat} (hpositive : 0 < denominator)
    (numerator bound : Nat) (exponent : Int) :
    (scaled numerator denominator exponent).1 / (scaled numerator denominator exponent).2 < bound ↔
      (numerator / denominator : ℚ) / 2 ^ exponent < bound := by
  have hpartsPositive := scaled_positive hpositive numerator exponent
  rw [← scaled_quotient, div_lt_iff₀ (by exact_mod_cast hpartsPositive),
    Nat.div_lt_iff_lt_mul hpartsPositive]
  norm_cast

/-- The exponent for a quotient: it leaves less than 53 bits before the point, and at least 52
unless it is the least one. -/
theorem exponentFor_spec {numerator denominator : Nat} (hpositive : 0 < numerator)
    (hpositive' : 0 < denominator) :
    let exponent := exponentFor numerator denominator
    leastExponent ≤ exponent ∧ (numerator / denominator : ℚ) / 2 ^ exponent < 2 ^ 53 ∧
      (leastExponent < exponent → (2 ^ 52 : ℚ) ≤ numerator / denominator / 2 ^ exponent) := by
  obtain ⟨hlow, hhigh⟩ := log2_bounds hpositive hpositive'
  obtain ⟨estimate, hestimate⟩ : ∃ estimate : Int, estimate =
    (numerator.log2 : Int) - denominator.log2 - 53 := ⟨_, rfl⟩
  have hlowEq : (numerator.log2 : Int) - denominator.log2 - 1 = 52 + estimate := by omega
  have hhighEq : (numerator.log2 : Int) - denominator.log2 + 1 = 54 + estimate := by omega
  rw [hlowEq, zpow_add₀ (by norm_num)] at hlow
  rw [hhighEq, zpow_add₀ (by norm_num)] at hhigh
  simp only [exponentFor, ← hestimate]
  obtain ⟨first, hfirst⟩ : ∃ first, first = max leastExponent estimate := ⟨_, rfl⟩
  have hunit := two_zpow_pos first
  have hwhole := scaled_whole_lt_iff hpositive' numerator (2 ^ 53) first
  push_cast at hwhole
  rw [← hfirst, if_congr hwhole rfl rfl]
  have hatLeast : leastExponent ≤ first := by omega
  split
  case isTrue hfits =>
    refine ⟨hatLeast, hfits, fun habove => ?_⟩
    obtain rfl : first = estimate := by omega
    rw [le_div_iff₀ hunit]
    exact_mod_cast hlow.le
  case isFalse hlarge =>
    have hoverflow : (2 ^ 53 : ℚ) * 2 ^ first ≤ numerator / denominator := by
      rwa [not_lt, le_div_iff₀ hunit] at hlarge
    obtain rfl : first = estimate := by
      by_contra hother
      have hfurther : estimate + 1 ≤ first := by omega
      have hstep : (2 : ℚ) ^ (estimate + 1) ≤ 2 ^ first :=
        zpow_le_zpow_right₀ (by norm_num) hfurther
      rw [zpow_add_one₀ (by norm_num)] at hstep
      have : (2 : ℚ) ^ (54 : Int) = 2 ^ 53 * 2 := by norm_num
      rw [this] at hhigh
      linarith
    rw [zpow_add_one₀ (by norm_num)]
    refine ⟨by omega, ?_, fun _ => ?_⟩
    · rw [div_lt_iff₀ (by positivity)]
      calc (numerator / denominator : ℚ) < 2 ^ (54 : Int) * 2 ^ first := hhigh
        _ = 2 ^ 53 * (2 ^ first * 2) := by norm_num; ring
    · rw [le_div_iff₀ (by positivity)]
      linarith

/-- What rounding carried beyond 53 bits is half of it with the next exponent. -/
theorem carry_spec {quotient : ℚ} (hleast : leastExponent ≤ exponent) (hbounded : quotient < 2 ^ 53)
    (hclose : IsNearest quotient (2 ^ 53)) :
    IsNormal (2 ^ 52) (exponent + 1) ∧
      RoundsTo (quotient * 2 ^ exponent) (2 ^ 52) (exponent + 1) := by
  have hunit := two_zpow_pos exponent
  have hclose' := hclose.lower
  push_cast at hclose'
  refine ⟨⟨by norm_num, by omega, fun _ => le_rfl⟩, ?_, ?_, fun _ => by norm_num⟩
  · rw [lowerEnd, if_pos ⟨rfl, by omega⟩, zpow_add_one₀ (by norm_num)]
    push_cast
    linarith [mul_le_mul_of_nonneg_right hclose' hunit.le]
  · rw [upperEnd, zpow_add_one₀ (by norm_num)]
    push_cast
    linarith [mul_le_mul_of_nonneg_right hbounded.le hunit.le]

private theorem roundsTo_of_isNearest {quotient : ℚ} {rounded : Nat}
    (hfull : leastExponent < exponent → 2 ^ 52 ≤ quotient) (hclose : IsNearest quotient rounded) :
    RoundsTo (quotient * 2 ^ exponent) rounded exponent := by
  have hunit := two_zpow_pos exponent
  by_cases hpower : rounded = 2 ^ 52 ∧ leastExponent < exponent
  · refine ⟨?_, mul_le_mul_of_nonneg_right hclose.upper hunit.le, fun _ => by omega⟩
    have := hfull hpower.2
    rw [lowerEnd, if_pos hpower, hpower.1]
    exact mul_le_mul_of_nonneg_right (by push_cast; linarith) hunit.le
  · have hlower : lowerEnd rounded exponent = (rounded - 1 / 2) * 2 ^ exponent := if_neg hpower
    refine ⟨?_, mul_le_mul_of_nonneg_right hclose.upper hunit.le, ?_⟩
    · rw [hlower]
      exact mul_le_mul_of_nonneg_right hclose.lower hunit.le
    · rw [hlower, upperEnd, mul_left_inj' hunit.ne', mul_left_inj' hunit.ne']
      exact hclose.even

private theorem carried_spec {quotient : ℚ} {rounded : Nat} (hleast : leastExponent ≤ exponent)
    (hbounded : quotient < 2 ^ 53) (hfull : leastExponent < exponent → 2 ^ 52 ≤ quotient)
    (hclose : IsNearest quotient rounded) :
    let carried := if rounded = 2 ^ 53 then (2 ^ 52, exponent + 1) else (rounded, exponent)
    IsNormal carried.1 carried.2 ∧ RoundsTo (quotient * 2 ^ exponent) carried.1 carried.2 := by
  have hatMost : rounded ≤ 2 ^ 53 := by
    have : (rounded : ℚ) < 2 ^ 53 + 1 := by linarith [hclose.lower]
    have : rounded < 2 ^ 53 + 1 := by exact_mod_cast this
    omega
  dsimp only
  split
  case isTrue hcarry => exact carry_spec hleast hbounded (hcarry ▸ hclose)
  case isFalse hnoCarry =>
    have hfull' : leastExponent < exponent → 2 ^ 52 ≤ rounded := fun habove => by
      have : (2 ^ 52 : ℚ) < rounded + 1 := by linarith [hfull habove, hclose.upper]
      have : 2 ^ 52 < rounded + 1 := by exact_mod_cast this
      omega
    exact ⟨⟨by omega, hleast, hfull'⟩, roundsTo_of_isNearest hfull hclose⟩

private theorem nearest_spec {numerator denominator : Nat} (negative : Bool)
    (hpositive : 0 < numerator) (hpositive' : 0 < denominator) :
    ∃ mantissa exponent, IsNormal mantissa exponent ∧
      RoundsTo (numerator / denominator) mantissa exponent ∧
      nearest negative numerator denominator =
        if greatestExponent < exponent then .infinite negative
        else .finite negative mantissa exponent := by
  obtain ⟨hleast, hbounded, hfull⟩ := exponentFor_spec hpositive hpositive'
  have hclose := isNearest_roundHalfEven
    (scaled_positive hpositive' numerator (exponentFor numerator denominator))
    (scaled numerator denominator (exponentFor numerator denominator)).1
  rw [scaled_quotient] at hclose
  have hcarried := carried_spec hleast hbounded hfull hclose
  rw [div_mul_cancel₀ _ (two_zpow_pos _).ne'] at hcarried
  refine ⟨_, _, hcarried.1, hcarried.2, ?_⟩
  rw [nearest, if_neg hpositive.ne']
  rfl

variable {digits : Nat} {scale : Int}

theorem leading_bounds (hpositive : 0 < digits) (scale : Int) :
    (10 : ℚ) ^ (scale + (Nat.toDigits 10 digits).length - 1) ≤ digits * 10 ^ scale ∧
      (digits * 10 ^ scale : ℚ) < 10 ^ (scale + (Nat.toDigits 10 digits).length) := by
  have hunit := ten_zpow_pos scale
  have hsome : 0 < (Nat.toDigits 10 digits).length := Nat.length_toDigits_pos
  obtain ⟨count, hcount⟩ := Nat.exists_eq_add_one.mpr hsome
  constructor
  · have hsplit : scale + (Nat.toDigits 10 digits).length - 1 = (count : Int) + scale := by omega
    rw [hsplit, zpow_add₀ (by norm_num), zpow_natCast]
    refine mul_le_mul_of_nonneg_right ?_ hunit.le
    exact_mod_cast Text.pow_le_of_lt_length_toDigits hpositive (by omega)
  · rw [add_comm, zpow_add₀ (by norm_num), zpow_natCast]
    refine mul_lt_mul_of_pos_right ?_ hunit
    exact_mod_cast Text.lt_pow_length_toDigits digits

private theorem isNormal_zero : IsNormal 0 leastExponent :=
  ⟨by norm_num, le_rfl, fun habove => absurd habove (lt_irrefl _)⟩

/-- Half of the least number above zero is far above `10 ^ -331`. -/
theorem roundsTo_zero (hnonnegative : 0 ≤ x) (hsmall : x ≤ 10 ^ (-331 : Int)) :
    RoundsTo x 0 leastExponent := by
  have hhalf : (10 : ℚ) ^ (-331 : Int) ≤ upperEnd 0 leastExponent := by
    have hpower : (2 : Nat) * 2 ^ 1074 ≤ 10 ^ 331 := by decide +kernel
    have hpower' : (2 * 2 ^ 1074 : ℚ) ≤ 10 ^ 331 := by exact_mod_cast hpower
    rw [upperEnd, leastExponent, zpow_neg, zpow_neg, Nat.cast_zero, zero_add, one_div, ← mul_inv]
    exact inv_anti₀ (by positivity) hpower'
  have hbelow : lowerEnd 0 leastExponent < 0 := by
    simpa using lowerEnd_lt 0 leastExponent
  refine ⟨(hbelow.trans_le hnonnegative).le, hsmall.trans hhalf, fun _ => rfl⟩

private theorem upperEnd_lt (hnormal : IsNormal mantissa exponent)
    (hfits : exponent ≤ greatestExponent) :
    upperEnd mantissa exponent < 10 ^ (310 : Int) := by
  have hbelow : (mantissa : ℚ) + 1 ≤ 2 ^ 53 := by exact_mod_cast hnormal.bounded
  have hpower : (2 : ℚ) ^ exponent ≤ 2 ^ greatestExponent := zpow_le_zpow_right₀ (by norm_num) hfits
  have hunit := two_zpow_pos exponent
  have hfar : (2 : Nat) ^ 53 * 2 ^ 971 < 10 ^ 310 := by decide +kernel
  have hfar' : (2 : ℚ) ^ 53 * 2 ^ 971 < 10 ^ 310 := by exact_mod_cast hfar
  calc upperEnd mantissa exponent ≤ 2 ^ 53 * 2 ^ exponent :=
        mul_le_mul_of_nonneg_right (by linarith) hunit.le
    _ ≤ 2 ^ 53 * 2 ^ greatestExponent := mul_le_mul_of_nonneg_left hpower (by norm_num)
    _ < 10 ^ (310 : Int) := by rwa [greatestExponent, zpow_ofNat, zpow_ofNat]

private theorem exists_quotient (negative : Bool) (hpositive : 0 < digits) (scale : Int) :
    ∃ numerator denominator : Nat, 0 < numerator ∧ 0 < denominator ∧
      (digits * 10 ^ scale : ℚ) = numerator / denominator ∧
      nearest negative numerator denominator =
        if 0 ≤ scale then nearest negative (digits * Nat.pow 10 scale.toNat) 1
        else nearest negative digits (Nat.pow 10 (-scale).toNat) := by
  split
  case isTrue hnonnegative =>
    obtain ⟨power, rfl⟩ := Int.eq_ofNat_of_zero_le hnonnegative
    exact ⟨digits * 10 ^ power, 1, by positivity, by decide, by simp, rfl⟩
  case isFalse hbelow =>
    obtain ⟨power, rfl⟩ : ∃ power : Nat, scale = -power := ⟨(-scale).toNat, by omega⟩
    refine ⟨digits, 10 ^ power, hpositive, by positivity, ?_, by simp⟩
    simp [div_eq_mul_inv]

/-- The powers of ten that are not formed would change nothing. -/
theorem ofDecimal_spec (negative : Bool) (hpositive : 0 < digits) (scale : Int) :
    ∃ mantissa exponent, IsNormal mantissa exponent ∧
      RoundsTo (digits * 10 ^ scale) mantissa exponent ∧
      ofDecimal negative digits scale =
        if greatestExponent < exponent then .infinite negative
        else .finite negative mantissa exponent := by
  obtain ⟨hlow, hhigh⟩ := leading_bounds hpositive scale
  have hvalue : (0 : ℚ) < digits * 10 ^ scale :=
    mul_pos (by exact_mod_cast hpositive) (ten_zpow_pos _)
  obtain ⟨numerator, denominator, hpositive, hpositive', hquotient, hformed⟩ :=
    exists_quotient negative hpositive scale
  obtain ⟨mantissa, exponent, hnormal, hrounds, hresult⟩ :=
    nearest_spec negative hpositive hpositive'
  rw [← hquotient] at hrounds
  rw [hformed] at hresult
  refine ⟨mantissa, exponent, hnormal, hrounds, ?_⟩
  unfold ofDecimal
  have hdigits : digits ≠ 0 := by
    rintro rfl
    simp at hvalue
  dsimp only
  split
  case isTrue hcutoff =>
    have hsmall : scale + (Nat.toDigits 10 digits).length ≤ -331 := by omega
    have hleast := roundsTo_zero hvalue.le
      (hhigh.le.trans (zpow_le_zpow_right₀ (by norm_num) hsmall))
    obtain ⟨rfl, rfl⟩ := hleast.unique isNormal_zero hnormal hrounds
    rfl
  case isFalse =>
    split
    case isTrue hcutoff =>
      have hlarge : (10 : ℚ) ^ (310 : Int) ≤ digits * 10 ^ scale :=
        (zpow_le_zpow_right₀ (by norm_num) (by omega)).trans hlow
      rw [if_pos (not_le.mp fun hfits => ?_)]
      exact absurd (hrounds.upper.trans_lt (upperEnd_lt hnormal hfits)) hlarge.not_gt
    case isFalse => exact hresult

theorem ofDecimal_eq_finite_iff {negative negative' : Bool} (hpositive : 0 < digits) :
    ofDecimal negative digits scale = .finite negative' mantissa exponent ↔
      negative = negative' ∧ IsNormal mantissa exponent ∧ exponent ≤ greatestExponent ∧
        RoundsTo (digits * 10 ^ scale) mantissa exponent := by
  obtain ⟨mantissa', exponent', hnormal, hrounds, hresult⟩ :=
    ofDecimal_spec negative hpositive scale
  rw [hresult]
  constructor
  · intro heq
    split at heq
    case isTrue => simp at heq
    case isFalse hfits =>
      obtain ⟨rfl, rfl, rfl⟩ := Binary64.finite.inj heq
      exact ⟨rfl, hnormal, not_lt.mp hfits, hrounds⟩
  · rintro ⟨rfl, hnormal', hfits, hrounds'⟩
    obtain ⟨rfl, rfl⟩ := hrounds.unique hnormal hnormal' hrounds'
    rw [if_neg (not_lt.mpr hfits)]

end Binary64

end CitationFile.Decimal
