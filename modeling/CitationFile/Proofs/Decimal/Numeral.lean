import CitationFile.Decimal.Positional
import CitationFile.Proofs.Decimal.Rounding
import Mathlib.Data.Nat.Factorization.Basic

namespace CitationFile.Decimal

structure Numeral where
  significand : Nat
  scale : Int
  positive : 0 < significand
  trimmed : ¬ 10 ∣ significand

namespace Numeral

def value (numeral : Numeral) : ℚ :=
  numeral.significand * 10 ^ numeral.scale

def digits (numeral : Numeral) : List Char :=
  Nat.toDigits 10 numeral.significand

/-- How many digits stand before the point; less than none are zeros behind it. -/
def point (numeral : Numeral) : Int :=
  numeral.scale + numeral.digits.length

theorem value_bounds (numeral : Numeral) :
    (10 : ℚ) ^ (numeral.point - 1) ≤ numeral.value ∧ numeral.value < 10 ^ numeral.point :=
  Binary64.leading_bounds numeral.positive numeral.scale

private theorem not_scale_lt {first second : Numeral} (heq : first.value = second.value) :
    ¬ first.scale < second.scale := by
  intro hless
  obtain ⟨gap, hgap⟩ : ∃ gap : Nat, second.scale = first.scale + (gap + 1 : Nat) :=
    ⟨(second.scale - first.scale - 1).toNat, by omega⟩
  have hunit := ten_zpow_pos first.scale
  have hsignificands : (first.significand : ℚ) = second.significand * 10 ^ (gap + 1) := by
    refine mul_right_cancel₀ hunit.ne' (heq.trans ?_)
    rw [value, hgap, zpow_add₀ (by norm_num), zpow_natCast]
    ring
  have : first.significand = second.significand * 10 ^ (gap + 1) := by
    exact_mod_cast hsignificands
  exact first.trimmed (by rw [this, pow_succ, ← mul_assoc]; exact Dvd.intro_left _ rfl)

theorem eq_of_value_eq {first second : Numeral} (heq : first.value = second.value) :
    first = second := by
  have hscales : first.scale = second.scale :=
    le_antisymm (not_lt.mp (not_scale_lt heq.symm)) (not_lt.mp (not_scale_lt heq))
  have hsignificands : first.significand = second.significand := by
    have : (first.significand : ℚ) = second.significand := by
      refine mul_right_cancel₀ (ten_zpow_pos first.scale).ne' (heq.trans ?_)
      rw [value, hscales]
    exact_mod_cast this
  cases first
  cases second
  simp_all

theorem exists_of_units {units : Nat} (hpositive : 0 < units) (scale : Int) :
    ∃ (numeral : Numeral) (zeros : Nat), units = numeral.significand * 10 ^ zeros ∧
      numeral.scale = scale + zeros := by
  obtain ⟨zeros, significand, htrimmed, hunits⟩ :=
    Nat.exists_eq_pow_mul_and_not_dvd hpositive.ne' 10 (by decide)
  rw [mul_comm] at hunits
  have hsignificandPos : 0 < significand := Nat.pos_of_ne_zero (by rintro rfl; simp at htrimmed)
  exact ⟨⟨significand, scale + zeros, hsignificandPos, htrimmed⟩, zeros, hunits, rfl⟩

section Units

variable {numeral : Numeral} {units zeros : Nat} {scale : Int}
  (hunits : units = numeral.significand * 10 ^ zeros) (hscale : numeral.scale = scale + zeros)
include hunits

include hscale in
theorem value_of_units : numeral.value = units * 10 ^ scale := by
  rw [value, hscale, zpow_add₀ (by norm_num), zpow_natCast, hunits]
  push_cast
  ring

theorem eq_significand_of_not_dvd (hnoZero : ¬ 10 ∣ units) : units = numeral.significand := by
  cases zeros with
  | zero => rw [hunits, pow_zero, mul_one]
  | succ further =>
      refine absurd ?_ hnoZero
      rw [hunits, pow_succ, ← mul_assoc]
      exact Nat.dvd_mul_left 10 _

theorem significantDigits_of_units : significantDigits units = numeral.digits := by
  have htrim : numeral.digits.reverse.dropWhile (· = '0') = numeral.digits.reverse := by
    have hlast : numeral.digits.reverse.head? ≠ some '0' := by
      rw [List.head?_reverse]
      exact Text.getLast?_toDigits_ne_zero numeral.trimmed
    cases hreversed : numeral.digits.reverse with
    | nil => rfl
    | cons c rest =>
        rw [List.dropWhile_cons_of_neg]
        intro hzero
        simp_all
  have hzerosTrim : ∀ (zeros : Nat) (rest : List Char),
      (List.replicate zeros '0' ++ rest).dropWhile (· = '0') = rest.dropWhile (· = '0') := by
    intro zeros rest
    induction zeros with
    | zero => rfl
    | succ zeros ih => simp [List.replicate_succ, ih]
  rw [significantDigits, hunits, Text.toDigits_mul_pow numeral.positive, List.reverse_append,
    List.reverse_replicate, hzerosTrim]
  exact (congrArg List.reverse htrim).trans (List.reverse_reverse _)

include hscale in
theorem point_of_units :
    scale + (Nat.toDigits 10 units).length = numeral.point := by
  rw [hunits, Text.toDigits_mul_pow numeral.positive, List.length_append, List.length_replicate,
    point, hscale, digits]
  push_cast
  ring

end Units

theorem exists_units_of_le (numeral : Numeral) {scale : Int} (hle : scale ≤ numeral.scale) :
    ∃ units zeros : Nat, 0 < units ∧ units = numeral.significand * 10 ^ zeros ∧
      numeral.scale = scale + zeros ∧ numeral.value = units * 10 ^ scale := by
  obtain ⟨zeros, hzeros⟩ : ∃ zeros : Nat, numeral.scale = scale + zeros :=
    ⟨(numeral.scale - scale).toNat, by omega⟩
  exact ⟨_, zeros, Nat.mul_pos numeral.positive (Nat.pow_pos (by decide)), rfl, hzeros,
    value_of_units rfl hzeros⟩

end Numeral

variable {mantissa : Nat} {exponent : Int}

/-- Fewer digits, or as many and nearer to the target, or as near with an even last digit. -/
inductive Numeral.Beats (target : ℚ) (first second : Numeral) : Prop
  | shorter (hfewer : first.digits.length < second.digits.length)
  | nearer (hsame : first.digits.length = second.digits.length)
      (hless : |first.value - target| < |second.value - target|)
  | even (hsame : first.digits.length = second.digits.length)
      (heq : |first.value - target| = |second.value - target|)
      (heven : first.significand % 2 = 0) (hodd : second.significand % 2 = 1)

private theorem Numeral.Beats.asymm {target : ℚ} {first second : Numeral}
    (hforth : first.Beats target second) (hback : second.Beats target first) : False := by
  cases hforth with
  | shorter hfewer =>
      cases hback with
      | shorter hfewer' => omega
      | nearer hsame => omega
      | even hsame => omega
  | nearer hsame hless =>
      cases hback with
      | shorter hfewer => omega
      | nearer _ hless' => exact absurd hless hless'.not_gt
      | even _ heq => exact absurd heq hless.ne'
  | even hsame heq heven hodd =>
      cases hback with
      | shorter hfewer => omega
      | nearer _ hless => exact absurd heq hless.ne'
      | even _ _ heven' => omega

/-- The numeral that reads as the number and beats every other one that does. -/
structure Numeral.IsShortest (numeral : Numeral) (mantissa : Nat) (exponent : Int) : Prop where
  rounds : RoundsTo numeral.value mantissa exponent
  best : ∀ other : Numeral, RoundsTo other.value mantissa exponent →
    other = numeral ∨ numeral.Beats (mantissa * 2 ^ exponent) other

theorem Numeral.IsShortest.unique {first second : Numeral}
    (hshortest : first.IsShortest mantissa exponent)
    (hshortest' : second.IsShortest mantissa exponent) : first = second := by
  rcases hshortest.best second hshortest'.rounds with heq | hbeats
  · exact heq.symm
  · rcases hshortest'.best first hshortest.rounds with heq | hbeats'
    · exact heq
    · exact (hbeats.asymm hbeats').elim

end CitationFile.Decimal
