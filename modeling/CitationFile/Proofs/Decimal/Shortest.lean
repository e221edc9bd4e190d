import CitationFile.Proofs.Decimal.Grid
import CitationFile.Proofs.Decimal.Numeral
import Mathlib.Data.Rat.Floor

namespace CitationFile.Decimal

open Binary64 (leastExponent)

variable {mantissa : Nat} {exponent : Int}

private theorem least_le_value (hnormal : IsNormal mantissa exponent) (hpositive : 0 < mantissa) :
    (10 : ℚ) ^ (-329 : Int) ≤ mantissa * 2 ^ exponent := by
  have hpower : (2 : Nat) ^ 1074 ≤ 10 ^ 329 := by decide +kernel
  have hpower' : (2 ^ 1074 : ℚ) ≤ 10 ^ 329 := by exact_mod_cast hpower
  calc (10 : ℚ) ^ (-329 : Int) ≤ 2 ^ leastExponent := by
        rw [leastExponent, zpow_neg, zpow_neg]
        exact inv_anti₀ (by positivity) hpower'
    _ ≤ 2 ^ exponent := zpow_le_zpow_right₀ (by norm_num) hnormal.least
    _ ≤ mantissa * 2 ^ exponent :=
        le_mul_of_one_le_left (two_zpow_pos _).le (by exact_mod_cast hpositive)

/-- With seventeen digits the grid is finer than the numbers are apart. -/
theorem exists_units {scale : Int} (hnormal : IsNormal mantissa exponent)
    (hleading : 10 ^ (scale + 16) ≤ (mantissa * 2 ^ exponent : ℚ)) :
    ∃ units : Nat, 0 < units ∧ RoundsTo (units * 10 ^ scale) mantissa exponent := by
  have hunit := ten_zpow_pos scale
  have hgap := two_zpow_pos exponent
  have hfine : (10 : ℚ) ^ 16 * 10 ^ scale ≤ mantissa * 2 ^ exponent := by
    rwa [add_comm, zpow_add₀ (by norm_num)] at hleading
  have hbounded : (mantissa : ℚ) * 2 ^ exponent ≤ 2 ^ 53 * 2 ^ exponent :=
    mul_le_mul_of_nonneg_right (by exact_mod_cast hnormal.bounded.le) hgap.le
  have htarget : (mantissa * 2 ^ exponent : ℚ) =
      mantissa * 2 ^ exponent / 10 ^ scale * 10 ^ scale :=
    (div_mul_cancel₀ _ hunit.ne').symm
  obtain ⟨quotient, hquotient⟩ : ∃ quotient : ℚ,
    quotient = mantissa * 2 ^ exponent / 10 ^ scale := ⟨_, rfl⟩
  rw [← hquotient] at htarget
  have hatLeast : (10 : ℚ) ^ 16 ≤ quotient := by rwa [hquotient, le_div_iff₀ hunit]
  obtain ⟨units, hunits⟩ : ∃ units, units = ⌊quotient + 1 / 2⌋₊ := ⟨_, rfl⟩
  have hlow : (units : ℚ) ≤ quotient + 1 / 2 := hunits ▸ Nat.floor_le (by linarith)
  have hhigh : quotient + 1 / 2 < units + 1 := hunits ▸ Nat.lt_floor_add_one _
  have hpositive : (0 : ℚ) < units := by linarith
  have hlow' := mul_le_mul_of_nonneg_right hlow hunit.le
  have hhigh' := mul_lt_mul_of_pos_right hhigh hunit
  have haboveLower : lowerEnd mantissa exponent < units * 10 ^ scale := by
    unfold lowerEnd
    split
    case isTrue hpower =>
      rw [hpower.1] at hfine htarget ⊢
      push_cast at hfine htarget ⊢
      linarith
    case isFalse => linarith
  have hbelowUpper : units * 10 ^ scale < upperEnd mantissa exponent := by
    unfold upperEnd
    linarith
  exact ⟨units, by exact_mod_cast hpositive, .of_lt haboveLower hbelowUpper⟩

theorem findSome?_range_eq_some {α : Type} {f : Nat → Option α} {found : α} :
    ∀ {bound : Nat}, (List.range bound).findSome? f = some found →
      ∃ count < bound, f count = some found ∧ ∀ before < count, f before = none := by
  intro bound heq
  induction bound with
  | zero => simp at heq
  | succ bound ih =>
      rw [List.range_succ, List.findSome?_append, Option.or_eq_some_iff] at heq
      rcases heq with hearlier | ⟨hnone, hlast⟩
      · obtain ⟨count, hless, hrest⟩ := ih hearlier
        exact ⟨count, Nat.lt_succ_of_lt hless, hrest⟩
      · refine ⟨bound, Nat.lt_succ_self _, by simpa using hlast, fun before hless => ?_⟩
        exact List.findSome?_eq_none_iff.mp hnone before (List.mem_range.mpr hless)

private theorem leadingExponent_ofBinary (hnormal : IsNormal mantissa exponent)
    (hpositive : 0 < mantissa) :
    (10 : ℚ) ^ leadingExponent (.ofBinary mantissa exponent) ≤ mantissa * 2 ^ exponent ∧
      (mantissa * 2 ^ exponent : ℚ) < 10 ^ (leadingExponent (.ofBinary mantissa exponent) + 1) := by
  rw [← Fraction.ofBinary_value]
  refine leadingExponent_bounds (Fraction.ofBinary_positive _ _) ?_
  rw [Fraction.ofBinary_value]
  exact least_le_value hnormal hpositive

private theorem gridPoint?_ofBinary (hpositive : 0 < mantissa) (exponent scale : Int) :
    FindsNearest (mantissa * 2 ^ exponent) mantissa exponent scale
      (gridPoint? (.ofBinary mantissa exponent) (Interval.around mantissa exponent) scale) := by
  rw [← Fraction.ofBinary_value]
  refine gridPoint?_findsNearest hpositive (Fraction.ofBinary_positive _ _) ?_ scale
  rw [Fraction.ofBinary_value]
  exact roundsTo_self mantissa exponent

/-- The scan ends on the coarsest grid that has a point in the interval. -/
theorem shortest_spec (hnormal : IsNormal mantissa exponent) (hpositive : 0 < mantissa) :
    ∃ (leading : Int) (count units : Nat),
      (10 : ℚ) ^ leading ≤ mantissa * 2 ^ exponent ∧
      (mantissa * 2 ^ exponent : ℚ) < 10 ^ (leading + 1) ∧
      shortest mantissa exponent = (units, leading - count) ∧
      IsNearestUnits (mantissa * 2 ^ exponent) mantissa exponent (leading - count) units ∧
      ∀ before < count, ∀ other : Nat, 0 < other →
        ¬ RoundsTo (other * 10 ^ (leading - before)) mantissa exponent := by
  obtain ⟨hlow, hhigh⟩ := leadingExponent_ofBinary hnormal hpositive
  have honGrid := gridPoint?_ofBinary hpositive exponent
  unfold shortest
  dsimp only
  generalize leadingExponent (.ofBinary mantissa exponent) = leading at hlow hhigh ⊢
  generalize gridPoint? (.ofBinary mantissa exponent) (Interval.around mantissa exponent) = point?
    at honGrid ⊢
  have hends : ((List.range 17).findSome? fun (count : Nat) =>
      (point? (leading - (count : Int))).map fun digits =>
        (digits, leading - (count : Int))).isSome := by
    rw [List.findSome?_isSome_iff]
    refine ⟨16, by decide, Option.isSome_iff_ne_none.mpr fun hnone => ?_⟩
    have hreaches : (10 : ℚ) ^ (leading - (16 : Nat) + 16) ≤ mantissa * 2 ^ exponent := by
      simpa using hlow
    obtain ⟨units, hunitsPos, hrounds⟩ := exists_units hnormal hreaches
    exact (honGrid _).not_roundsTo (Option.map_eq_none_iff.mp hnone) units hunitsPos hrounds
  obtain ⟨found, hfound⟩ := Option.isSome_iff_exists.mp hends
  obtain ⟨count, -, hcountFound, hbefore⟩ := findSome?_range_eq_some hfound
  obtain ⟨units, hpoint, rfl⟩ := Option.map_eq_some_iff.mp hcountFound
  refine ⟨leading, count, units, hlow, hhigh, by rw [hfound]; rfl,
    (honGrid _).isNearestUnits hpoint, fun earlier hless => ?_⟩
  exact (honGrid _).not_roundsTo (Option.map_eq_none_iff.mp (hbefore earlier hless))

/-! The numeral that the scan finds is the shortest one of the number. -/

namespace Numeral

/-- Nineteen divides the right side of this equation, but not twice a mantissa of at most nine. -/
theorem least_ne_middle {leading : Int} (hpositive : 0 < mantissa) (hsmall : mantissa ≤ 9) :
    (mantissa * 2 ^ leastExponent : ℚ) ≠ 19 / 2 * 10 ^ leading := by
  intro hmiddle
  obtain ⟨bits, hbits⟩ : ∃ bits : Nat, leastExponent = -bits := ⟨1074, rfl⟩
  have hproduct : (2 * mantissa : ℚ) = 19 * 10 ^ leading * 2 ^ bits := by
    have hpower : (2 : ℚ) ^ leastExponent * 2 ^ bits = 1 := by
      rw [hbits, zpow_neg, zpow_natCast]
      exact inv_mul_cancel₀ (by positivity)
    calc (2 * mantissa : ℚ) = 2 * (mantissa * 2 ^ leastExponent) * 2 ^ bits := by
          rw [← mul_assoc, mul_assoc _ _ (2 ^ bits : ℚ), hpower, mul_one]
      _ = 19 * 10 ^ leading * 2 ^ bits := by rw [hmiddle]; ring
  have hdivides : ∃ power : Nat, 19 ∣ 2 * mantissa * 10 ^ power := by
    obtain ⟨power, hnonnegative | hnegative⟩ := Int.eq_nat_or_neg leading
    · refine ⟨0, 10 ^ power * 2 ^ bits, ?_⟩
      rw [hnonnegative, zpow_natCast] at hproduct
      rw [pow_zero, mul_one, ← mul_assoc]
      exact_mod_cast hproduct
    · refine ⟨power, 2 ^ bits, ?_⟩
      rw [hnegative, zpow_neg, zpow_natCast] at hproduct
      have : (2 * mantissa : ℚ) * 10 ^ power = 19 * 2 ^ bits := by
        rw [hproduct]
        field_simp
      exact_mod_cast this
  obtain ⟨power, hdivides⟩ := hdivides
  have hcoprime : Nat.Coprime 19 (10 ^ power) := Nat.Coprime.pow_right _ (by decide)
  have hmultiple := hcoprime.dvd_of_dvd_mul_right hdivides
  omega

/-- Halfway between the nine and the ten of a grid there is no number whose interval has both. -/
theorem not_rounds_ten {leading : Int} (hnormal : IsNormal mantissa exponent)
    (hpositive : 0 < mantissa)
    (hmiddle : (mantissa * 2 ^ exponent : ℚ) = 19 / 2 * 10 ^ leading) :
    ¬ RoundsTo (10 * 10 ^ leading) mantissa exponent := by
  intro hrounds
  have hwide : (mantissa : ℚ) ≤ 19 / 2 := by
    have hupper := hrounds.upper
    rw [upperEnd] at hupper
    refine le_of_mul_le_mul_right ?_ (two_zpow_pos exponent)
    linarith
  have hsmall : mantissa ≤ 9 := by
    have : (mantissa : ℚ) < 10 := by linarith
    have : mantissa < 10 := by exact_mod_cast this
    omega
  have hleast : exponent = leastExponent := by
    have := hnormal.least
    by_contra hother
    have := hnormal.full (by omega)
    omega
  exact least_ne_middle hpositive hsmall (hleast ▸ hmiddle)

private theorem units_ne_ten {leading : Int} {units other : Nat}
    (hnormal : IsNormal mantissa exponent) (hpositive : 0 < mantissa)
    (hnearest : IsNearestUnits (mantissa * 2 ^ exponent) mantissa exponent leading units)
    (hhigh : (mantissa * 2 ^ exponent : ℚ) < 10 * 10 ^ leading) (hotherLe : other ≤ 9)
    (hotherRounds : RoundsTo (other * 10 ^ leading) mantissa exponent)
    (heq : |units * 10 ^ leading - (mantissa * 2 ^ exponent : ℚ)| =
      |other * 10 ^ leading - (mantissa * 2 ^ exponent : ℚ)|) : units ≠ 10 := by
  rintro rfl
  have hmiddle := hnearest.eq_middle_of_ten rfl hhigh hotherLe hotherRounds heq
  exact not_rounds_ten hnormal hpositive hmiddle (by exact_mod_cast hnearest.rounds)

section Found

variable {leading scale : Int} {units zeros : Nat} {numeral : Numeral}
  (hlow : (10 : ℚ) ^ leading ≤ mantissa * 2 ^ exponent)
  (hhigh : (mantissa * 2 ^ exponent : ℚ) < 10 ^ (leading + 1))
include hlow hhigh

private theorem point_eq_of_coarser (hcoarser : scale < leading)
    (hnone : ∀ other : Nat, 0 < other → ¬ RoundsTo (other * 10 ^ (scale + 1)) mantissa exponent)
    (hrounds : RoundsTo numeral.value mantissa exponent) :
    numeral.scale ≤ scale ∧ numeral.point = leading + 1 := by
  have hself := roundsTo_self mantissa exponent
  have hnoPower : ∀ power : Int, scale < power → ¬ RoundsTo (10 ^ power) mantissa exponent := by
    intro power hless hinside
    obtain ⟨zeros, hzeros⟩ : ∃ zeros : Nat, power = zeros + (scale + 1) :=
      ⟨(power - scale - 1).toNat, by omega⟩
    refine hnone (10 ^ zeros) (Nat.pow_pos (by decide)) ?_
    rw [hzeros, zpow_add₀ (by norm_num), zpow_natCast] at hinside
    exact_mod_cast hinside
  obtain ⟨hbelow, habove⟩ := numeral.value_bounds
  refine ⟨not_lt.mp fun hless => ?_, le_antisymm (not_lt.mp fun hless => ?_)
    (not_lt.mp fun hless => ?_)⟩
  · obtain ⟨units, -, hunitsPos, -, -, hvalue⟩ :=
      numeral.exists_units_of_le (Int.add_one_le_of_lt hless)
    exact hnone units hunitsPos (hvalue ▸ hrounds)
  · refine hnoPower (leading + 1) (by omega) (hself.between hrounds hhigh.le ?_)
    exact (zpow_le_zpow_right₀ (by norm_num) (by omega)).trans hbelow
  · refine hnoPower leading hcoarser (hrounds.between hself ?_ hlow)
    exact habove.le.trans (zpow_le_zpow_right₀ (by norm_num) (by omega))

private theorem isShortest_of_coarser (hcoarser : scale < leading)
    (hnone : ∀ other : Nat, 0 < other → ¬ RoundsTo (other * 10 ^ (scale + 1)) mantissa exponent)
    (hnearest : IsNearestUnits (mantissa * 2 ^ exponent) mantissa exponent scale units)
    (hunits : units = numeral.significand * 10 ^ zeros) (hscaleEq : numeral.scale = scale + zeros) :
    numeral.IsShortest mantissa exponent := by
  have hvalue := value_of_units hunits hscaleEq
  have hrounds : RoundsTo numeral.value mantissa exponent := hvalue ▸ hnearest.rounds
  obtain ⟨hatMost, hpoint⟩ := point_eq_of_coarser hlow hhigh hcoarser hnone hrounds
  obtain rfl : zeros = 0 := by omega
  refine ⟨hrounds, fun other hotherRounds => ?_⟩
  obtain ⟨hotherAtMost, hotherPoint⟩ := point_eq_of_coarser hlow hhigh hcoarser hnone hotherRounds
  rcases lt_or_eq_of_le hotherAtMost with hfiner | hsame
  · right
    refine .shorter ?_
    unfold Numeral.point at hpoint hotherPoint
    omega
  · have hlengths : numeral.digits.length = other.digits.length := by
      unfold Numeral.point at hpoint hotherPoint
      omega
    have hotherValue : other.value = other.significand * 10 ^ scale := by rw [value, hsame]
    have hsignificand : numeral.significand = units := by simpa using hunits.symm
    rw [hotherValue] at hotherRounds
    rcases hnearest.best other.significand other.positive hotherRounds with heq | hless | htie
    · left
      exact eq_of_value_eq (by rw [hotherValue, hvalue, heq])
    · right
      exact .nearer hlengths (by rwa [hvalue, hotherValue])
    · right
      exact .even hlengths (by rw [hvalue, hotherValue]; exact htie.1) (hsignificand ▸ htie.2.1)
        htie.2.2

private theorem isShortest_of_leading (hnormal : IsNormal mantissa exponent)
    (hpositive : 0 < mantissa)
    (hnearest : IsNearestUnits (mantissa * 2 ^ exponent) mantissa exponent leading units)
    (hunits : units = numeral.significand * 10 ^ zeros)
    (hscaleEq : numeral.scale = leading + zeros) :
    numeral.IsShortest mantissa exponent := by
  have hself := roundsTo_self mantissa exponent
  have hvalue := value_of_units hunits hscaleEq
  have hrounds : RoundsTo numeral.value mantissa exponent := hvalue ▸ hnearest.rounds
  rw [zpow_add_one₀ (by norm_num), mul_comm (10 ^ leading)] at hhigh
  have honeDigit : numeral.significand < 10 := by
    have : numeral.significand ≤ units :=
      hunits ▸ Nat.le_mul_of_pos_right _ (Nat.pow_pos (by decide))
    refine lt_of_le_of_ne (this.trans (hnearest.le_ten hself hhigh)) fun hten => numeral.trimmed ?_
    exact Dvd.intro 1 hten.symm
  have hlength : numeral.digits.length = 1 := by
    rw [digits, Nat.toDigits_of_lt_base honeDigit, List.length_singleton]
  refine ⟨hrounds, fun other hotherRounds => ?_⟩
  rcases Nat.lt_or_ge other.significand 10 with hotherDigit | hmore
  case inr =>
    refine .inr (.shorter (hlength ▸ not_le.mp fun hshort => hmore.not_gt ?_))
    exact (Nat.length_toDigits_le_iff (by decide) (by decide)).mp hshort
  have hlengths : numeral.digits.length = other.digits.length := by
    rw [hlength, digits, Nat.toDigits_of_lt_base hotherDigit, List.length_singleton]
  rcases lt_or_ge other.scale leading with hfiner | hcoarser
  · -- One digit on a finer grid stays below the one of this grid.
    have hbelow : other.value < 10 ^ leading := by
      have hpointLe : other.point ≤ leading := by
        unfold point
        omega
      exact other.value_bounds.2.trans_le (zpow_le_zpow_right₀ (by norm_num) hpointLe)
    exact .inr (.nearer hlengths
      (hvalue ▸ hnearest.nearer_of_lt_one hself hlow hbelow hotherRounds))
  · obtain ⟨otherUnits, otherZeros, hotherPos, hotherUnits, hotherScale, hotherValue⟩ :=
      other.exists_units_of_le hcoarser
    rw [hotherValue] at hotherRounds
    rcases hnearest.best otherUnits hotherPos hotherRounds with hsame | hless | ⟨heq, heven, hodd⟩
    · exact .inl (eq_of_value_eq (by rw [hotherValue, hvalue, hsame]))
    · exact .inr (.nearer hlengths (by rwa [hvalue, hotherValue]))
    · have hotherIs := eq_significand_of_not_dvd hotherUnits (by omega)
      have hnoTen := units_ne_ten hnormal hpositive hnearest hhigh (by omega) hotherRounds heq
      have hunitsIs : units = numeral.significand := by
        have hmost := hnearest.le_ten hself hhigh
        have hleast := hnearest.positive
        exact eq_significand_of_not_dvd hunits (by omega)
      exact .inr (.even hlengths (by rw [hvalue, hotherValue]; exact heq)
        (hunitsIs ▸ heven) (hotherIs ▸ hodd))

end Found

end Numeral

/-- The digits that are shown are those of the shortest numeral. -/
theorem shortestDigits_spec (hnormal : IsNormal mantissa exponent) (hpositive : 0 < mantissa) :
    ∃ numeral : Numeral, numeral.IsShortest mantissa exponent ∧
      shortestDigits mantissa exponent = (numeral.digits, numeral.point) := by
  obtain ⟨leading, count, units, hlow, hhigh, hfound, hnearest, hnone⟩ :=
    shortest_spec hnormal hpositive
  obtain ⟨numeral, zeros, hunits, hscaleEq⟩ :=
    Numeral.exists_of_units hnearest.positive (leading - count)
  refine ⟨numeral, ?_, ?_⟩
  · cases count with
    | zero =>
        rw [Nat.cast_zero, sub_zero] at hnearest hscaleEq
        exact Numeral.isShortest_of_leading hlow hhigh hnormal hpositive hnearest hunits hscaleEq
    | succ count =>
        have hcoarser := hnone count (Nat.lt_succ_self _)
        have hscale : leading - (count : Int) = leading - (count + 1 : Nat) + 1 := by omega
        rw [hscale] at hcoarser
        exact Numeral.isShortest_of_coarser hlow hhigh (by omega) hcoarser hnearest hunits hscaleEq
  · rw [shortestDigits, hfound]
    exact Prod.ext (Numeral.significantDigits_of_units hunits)
      (Numeral.point_of_units hunits hscaleEq)

theorem Numeral.IsShortest.shortestDigits_eq {numeral : Numeral}
    (hshortest : numeral.IsShortest mantissa exponent) (hnormal : IsNormal mantissa exponent)
    (hpositive : 0 < mantissa) :
    shortestDigits mantissa exponent = (numeral.digits, numeral.point) := by
  obtain ⟨shown, hshortest', hshown⟩ := shortestDigits_spec hnormal hpositive
  rw [hshown, hshortest.unique hshortest']

end CitationFile.Decimal
