import CitationFile.Proofs.Decimal.Rounding

namespace CitationFile.Decimal

open Binary64 (leastExponent)

namespace Fraction

def value (fraction : Fraction) : ℚ :=
  fraction.numerator / fraction.denominator

variable {left right : Fraction}

theorem le_iff (hleftPos : 0 < left.denominator) (hrightPos : 0 < right.denominator) :
    left.le right = true ↔ left.value ≤ right.value := by
  have hleftPos' : (0 : ℚ) < left.denominator := by exact_mod_cast hleftPos
  have hrightPos' : (0 : ℚ) < right.denominator := by exact_mod_cast hrightPos
  rw [le, decide_eq_true_iff, value, value, div_le_div_iff₀ hleftPos' hrightPos']
  norm_cast

theorem lt_iff (hleftPos : 0 < left.denominator) (hrightPos : 0 < right.denominator) :
    left.lt right = true ↔ left.value < right.value := by
  have hleftPos' : (0 : ℚ) < left.denominator := by exact_mod_cast hleftPos
  have hrightPos' : (0 : ℚ) < right.denominator := by exact_mod_cast hrightPos
  rw [lt, decide_eq_true_iff, value, value, div_lt_div_iff₀ hleftPos' hrightPos']
  norm_cast

def ofPower (base numerator : Nat) (exponent : Int) : Fraction :=
  if 0 ≤ exponent then ⟨numerator * Nat.pow base exponent.toNat, 1⟩
  else ⟨numerator, Nat.pow base (-exponent).toNat⟩

private theorem ofPower_positive {base : Nat} (hpositive : 0 < base) (numerator : Nat)
    (exponent : Int) :
    0 < (ofPower base numerator exponent).denominator := by
  unfold ofPower
  split
  · exact Nat.one_pos
  · exact Nat.pow_pos hpositive

private theorem ofPower_value (base numerator : Nat) (exponent : Int) :
    (ofPower base numerator exponent).value = numerator * (base : ℚ) ^ exponent := by
  unfold ofPower
  split
  case isTrue hnonnegative =>
    obtain ⟨power, rfl⟩ := Int.eq_ofNat_of_zero_le hnonnegative
    simp [value]
  case isFalse hnegative =>
    obtain ⟨power, rfl⟩ : ∃ power : Nat, exponent = -power := ⟨(-exponent).toNat, by omega⟩
    simp [value, div_eq_mul_inv]

theorem ofBinary_positive (numerator : Nat) (exponent : Int) :
    0 < (ofBinary numerator exponent).denominator :=
  ofPower_positive Nat.two_pos numerator exponent

private theorem ofDecimal_positive (numerator : Nat) (exponent : Int) :
    0 < (ofDecimal numerator exponent).denominator :=
  ofPower_positive (by decide : 0 < 10) numerator exponent

theorem ofBinary_value (numerator : Nat) (exponent : Int) :
    (ofBinary numerator exponent).value = numerator * 2 ^ exponent :=
  ofPower_value 2 numerator exponent

private theorem ofDecimal_value (numerator : Nat) (exponent : Int) :
    (ofDecimal numerator exponent).value = numerator * 10 ^ exponent :=
  ofPower_value 10 numerator exponent

private theorem whole_bounds {denominator : Nat} (hpositive : 0 < denominator) (numerator : Nat) :
    ((numerator / denominator : Nat) : ℚ) ≤ numerator / denominator ∧
      (numerator / denominator : ℚ) < (numerator / denominator : Nat) + 1 := by
  have hpositive' : (0 : ℚ) < denominator := by exact_mod_cast hpositive
  rw [le_div_iff₀ hpositive', div_lt_iff₀ hpositive', mul_comm (_ + 1 : ℚ)]
  constructor
  · exact_mod_cast Nat.div_mul_le_self numerator denominator
  · exact_mod_cast Nat.lt_mul_div_succ numerator hpositive

private theorem wholeUnits_bounds {fraction : Fraction} (hpositive : 0 < fraction.denominator)
    (exponent : Int) :
    (fraction.wholeUnits exponent : ℚ) * 10 ^ exponent ≤ fraction.value ∧
      fraction.value < (fraction.wholeUnits exponent + 1) * 10 ^ exponent := by
  have hunit := ten_zpow_pos exponent
  rw [← le_div_iff₀ hunit, ← div_lt_iff₀ hunit, value]
  unfold wholeUnits
  split
  case isTrue hnonnegative =>
    obtain ⟨power, rfl⟩ := Int.eq_ofNat_of_zero_le hnonnegative
    have hgrid : 0 < fraction.denominator * 10 ^ power := by positivity
    simpa [div_div] using whole_bounds hgrid fraction.numerator
  case isFalse hnegative =>
    obtain ⟨power, rfl⟩ : ∃ power : Nat, exponent = -power := ⟨(-exponent).toNat, by omega⟩
    simpa [div_mul_eq_mul_div] using
      whole_bounds hpositive (fraction.numerator * 10 ^ power)

end Fraction

variable {mantissa : Nat} {exponent : Int}

namespace Interval

private theorem low_positive (mantissa : Nat) (exponent : Int) :
    0 < (around mantissa exponent).low.denominator := by
  dsimp only [around]
  split <;> exact Fraction.ofBinary_positive _ _

private theorem low_value (hpositive : 0 < mantissa) :
    (around mantissa exponent).low.value = lowerEnd mantissa exponent := by
  rw [around, lowerEnd, apply_ite Fraction.value, Fraction.ofBinary_value, Fraction.ofBinary_value]
  refine if_congr Iff.rfl ?_ ?_
  · rw [Nat.cast_sub (by omega), zpow_sub₀ (by norm_num)]
    push_cast
    norm_num
    ring
  · rw [Nat.cast_sub (by omega), zpow_sub_one₀ (by norm_num)]
    push_cast
    ring

private theorem high_value (mantissa : Nat) (exponent : Int) :
    (around mantissa exponent).high.value = upperEnd mantissa exponent := by
  rw [around, upperEnd, Fraction.ofBinary_value, zpow_sub_one₀ (by norm_num)]
  push_cast
  ring

theorem closed_iff (mantissa : Nat) (exponent : Int) :
    (around mantissa exponent).closed = true ↔ mantissa % 2 = 0 := by
  simp [around]

theorem contains_around_iff {fraction : Fraction} (hpositive : 0 < mantissa)
    (hfractionPos : 0 < fraction.denominator) :
    (around mantissa exponent).contains fraction = true ↔
      RoundsTo fraction.value mantissa exponent := by
  have hlowPos := low_positive mantissa exponent
  have hhighPos : 0 < (around mantissa exponent).high.denominator :=
    Fraction.ofBinary_positive _ _
  unfold contains
  split
  case isTrue hclosed =>
    rw [Bool.and_eq_true, Fraction.le_iff hlowPos hfractionPos,
      Fraction.le_iff hfractionPos hhighPos, low_value hpositive, high_value,
      roundsTo_iff_of_even ((closed_iff _ _).mp hclosed)]
  case isFalse hisOpen =>
    rw [Bool.and_eq_true, Fraction.lt_iff hlowPos hfractionPos,
      Fraction.lt_iff hfractionPos hhighPos, low_value hpositive, high_value,
      roundsTo_iff_of_odd (mt (closed_iff _ _).mpr hisOpen)]

end Interval

/-- A whole part has its leading digit where its own digits begin. -/
theorem leadingExponent_bounds_of_whole {fraction : Fraction} (hpositive : 0 < fraction.denominator)
    (hsome : fraction.numerator / fraction.denominator ≠ 0) :
    (10 : ℚ) ^ leadingExponent fraction ≤ fraction.value ∧
      fraction.value < 10 ^ (leadingExponent fraction + 1) := by
  obtain ⟨hbelow, habove⟩ := Fraction.whole_bounds hpositive fraction.numerator
  rw [leadingExponent, if_pos hsome]
  obtain ⟨whole, hwhole⟩ : ∃ whole, whole = fraction.numerator / fraction.denominator := ⟨_, rfl⟩
  rw [← hwhole] at hsome hbelow habove ⊢
  have hlengthPos : 0 < (Nat.toDigits 10 whole).length := Nat.length_toDigits_pos
  obtain ⟨count, hcount⟩ := Nat.exists_eq_add_one.mpr hlengthPos
  have hlow : 10 ^ count ≤ whole :=
    Text.pow_le_of_lt_length_toDigits (Nat.pos_of_ne_zero hsome) (by omega)
  have hhigh : whole + 1 ≤ 10 ^ (count + 1) := hcount ▸ Text.lt_pow_length_toDigits whole
  rw [hcount, Nat.cast_add_one, add_sub_cancel_right, zpow_natCast, ← Nat.cast_add_one,
    zpow_natCast]
  constructor
  · exact le_trans (by exact_mod_cast hlow) hbelow
  · exact habove.trans_le (by exact_mod_cast hhigh)

namespace Fraction

theorem reaches_iff {fraction : Fraction} (hpositive : 0 < fraction.denominator) (steps : Nat) :
    fraction.denominator ≤ fraction.numerator * Nat.pow 10 steps ↔
      (10 : ℚ) ^ (-steps : Int) ≤ fraction.value := by
  have hpositive' : (0 : ℚ) < fraction.denominator := by exact_mod_cast hpositive
  rw [value, zpow_neg, zpow_natCast, inv_eq_one_div, div_le_div_iff₀ (by positivity) hpositive',
    one_mul]
  norm_cast

end Fraction

theorem leadingExponent_bounds {fraction : Fraction} (hpositive : 0 < fraction.denominator)
    (hlarge : 10 ^ (-329 : Int) ≤ fraction.value) :
    (10 : ℚ) ^ leadingExponent fraction ≤ fraction.value ∧
      fraction.value < 10 ^ (leadingExponent fraction + 1) := by
  by_cases hwhole : fraction.numerator / fraction.denominator = 0
  case neg => exact leadingExponent_bounds_of_whole hpositive hwhole
  have habove : fraction.value < 1 := by
    have hnext := (Fraction.whole_bounds hpositive fraction.numerator).2
    rwa [hwhole, Nat.cast_zero, zero_add] at hnext
  obtain ⟨bound, hbound⟩ : ∃ bound : Nat, bound = 329 := ⟨_, rfl⟩
  have hlast := (Fraction.reaches_iff hpositive bound).mpr (by rw [hbound]; exact hlarge)
  rw [leadingExponent, if_neg (not_not.mpr hwhole)]
  obtain ⟨steps, hsteps⟩ : ∃ steps, (List.range 330).find? (fun steps =>
      fraction.denominator ≤ fraction.numerator * Nat.pow 10 steps) = some steps := by
    rw [← Option.isSome_iff_exists, List.find?_isSome]
    exact ⟨bound, List.mem_range.mpr (by omega), decide_eq_true hlast⟩
  obtain ⟨hreached, -, hbefore⟩ := List.find?_range_eq_some.mp hsteps
  rw [hsteps]
  dsimp only
  rw [Option.getD_some, Int.negOfNat_eq]
  rw [decide_eq_true_iff, Fraction.reaches_iff hpositive] at hreached
  refine ⟨hreached, ?_⟩
  cases steps with
  | zero => exact habove.trans_le (by norm_num)
  | succ steps =>
      have hnotYet := hbefore steps (Nat.lt_succ_self _)
      rw [Bool.not_eq_true', decide_eq_false_iff_not, Fraction.reaches_iff hpositive,
        not_le] at hnotYet
      have : -((steps + 1 : Nat) : Int) + 1 = -steps := by omega
      rwa [Int.ofNat_eq_natCast, this]

/-! If any point of a grid rounds to the number, a neighbour of the number does. -/

/-- Of the grid's points that round to the number, the nearest to the target; of two equally near
ones, the even. -/
structure IsNearestUnits (target : ℚ) (mantissa : Nat) (exponent scale : Int) (units : Nat) :
    Prop where
  positive : 0 < units
  rounds : RoundsTo (units * 10 ^ scale) mantissa exponent
  best : ∀ other : Nat, 0 < other → RoundsTo (other * 10 ^ scale) mantissa exponent →
    other = units ∨ |units * 10 ^ scale - target| < |other * 10 ^ scale - target| ∨
      (|units * 10 ^ scale - target| = |other * 10 ^ scale - target| ∧
        units % 2 = 0 ∧ other % 2 = 1)

/-- What a search on the grid should find: the nearest point, and nothing only if there is none. -/
def FindsNearest (target : ℚ) (mantissa : Nat) (exponent scale : Int) : Option Nat → Prop
  | some units => IsNearestUnits target mantissa exponent scale units
  | none => ∀ other : Nat, 0 < other → ¬ RoundsTo (other * 10 ^ scale) mantissa exponent

section FindsNearest

variable {target : ℚ} {scale : Int} {found : Option Nat}
  (hfinds : FindsNearest target mantissa exponent scale found)
include hfinds

theorem FindsNearest.isNearestUnits {units : Nat} (hfound : found = some units) :
    IsNearestUnits target mantissa exponent scale units := by
  rwa [hfound] at hfinds

theorem FindsNearest.not_roundsTo (hfound : found = none) :
    ∀ other : Nat, 0 < other → ¬ RoundsTo (other * 10 ^ scale) mantissa exponent := by
  rwa [hfound] at hfinds

end FindsNearest

section Grid

variable {target : ℚ} {scale : Int} {below : Nat}
  (hlow : below * 10 ^ scale ≤ target) (hhigh : target < (below + 1) * 10 ^ scale)
include hlow hhigh

private theorem isNearestUnits_below (hpositive : 0 < below)
    (hrounds : RoundsTo (below * 10 ^ scale) mantissa exponent)
    (hnearer : RoundsTo ((below + 1 : Nat) * 10 ^ scale) mantissa exponent →
      target < (below + 1 / 2) * 10 ^ scale ∨
        (target = (below + 1 / 2) * 10 ^ scale ∧ below % 2 = 0))
    (hinside : RoundsTo target mantissa exponent) :
    IsNearestUnits target mantissa exponent scale below := by
  refine ⟨hpositive, hrounds, fun other hotherPos hotherRounds => ?_⟩
  have hunit := ten_zpow_pos scale
  rw [abs_of_nonpos (sub_nonpos.mpr hlow), neg_sub]
  rcases lt_trichotomy other below with hless | rfl | hgreater
  · have hstep : (other : ℚ) * 10 ^ scale < below * 10 ^ scale :=
      mul_lt_mul_of_pos_right (by exact_mod_cast hless) hunit
    rw [abs_of_neg (by linarith)]
    exact .inr (.inl (by linarith))
  · exact .inl rfl
  · have hstep : ((below : ℚ) + 1) * 10 ^ scale ≤ other * 10 ^ scale :=
      mul_le_mul_of_nonneg_right (by exact_mod_cast hgreater) hunit.le
    have hnext : RoundsTo ((below + 1 : Nat) * 10 ^ scale) mantissa exponent :=
      hinside.between hotherRounds (by push_cast; exact hhigh.le) (by push_cast; exact hstep)
    rw [abs_of_pos (by linarith)]
    rcases hnearer hnext with hstrict | ⟨hmiddle, heven⟩
    · exact .inr (.inl (by linarith))
    · rcases eq_or_lt_of_le hstep with heq | hfurther
      · have hother : other = below + 1 := by
          have : (other : ℚ) = below + 1 := (mul_right_cancel₀ hunit.ne' heq).symm
          exact_mod_cast this
        exact .inr (.inr ⟨by linarith, heven, by omega⟩)
      · exact .inr (.inl (by linarith))

private theorem isNearestUnits_above
    (hrounds : RoundsTo ((below + 1 : Nat) * 10 ^ scale) mantissa exponent)
    (hnearer : 0 < below → RoundsTo (below * 10 ^ scale) mantissa exponent →
      (below + 1 / 2) * 10 ^ scale < target ∨
        (target = (below + 1 / 2) * 10 ^ scale ∧ below % 2 = 1))
    (hinside : RoundsTo target mantissa exponent) :
    IsNearestUnits target mantissa exponent scale (below + 1) := by
  refine ⟨Nat.succ_pos _, hrounds, fun other hotherPos hotherRounds => ?_⟩
  have hunit := ten_zpow_pos scale
  rw [abs_of_pos (a := ((below + 1 : Nat) : ℚ) * 10 ^ scale - target) (by push_cast; linarith)]
  push_cast
  rcases lt_trichotomy other (below + 1) with hless | rfl | hgreater
  · have hatMost : other ≤ below := Nat.le_of_lt_succ hless
    have hstep : (other : ℚ) * 10 ^ scale ≤ below * 10 ^ scale :=
      mul_le_mul_of_nonneg_right (by exact_mod_cast hatMost) hunit.le
    have hprevious : RoundsTo (below * 10 ^ scale) mantissa exponent :=
      hotherRounds.between hinside hstep hlow
    rw [abs_of_nonpos (by linarith), neg_sub]
    rcases hnearer (hotherPos.trans_le hatMost) hprevious with hstrict | ⟨hmiddle, hodd⟩
    · exact .inr (.inl (by linarith))
    · rcases eq_or_lt_of_le hstep with heq | hfurther
      · have hother : other = below := by
          have : (other : ℚ) = below := mul_right_cancel₀ hunit.ne' heq
          exact_mod_cast this
        exact .inr (.inr ⟨by linarith, by omega, by omega⟩)
      · exact .inr (.inl (by linarith))
  · exact .inl rfl
  · have hstep : ((below : ℚ) + 1) * 10 ^ scale < other * 10 ^ scale :=
      mul_lt_mul_of_pos_right (by exact_mod_cast hgreater) hunit
    rw [abs_of_pos (by linarith)]
    exact .inr (.inl (by linarith))

/-- If neither neighbour of the target rounds to the number, no point does. -/
theorem not_roundsTo_of_neither (hinside : RoundsTo target mantissa exponent)
    (hnoBelow : ¬ (0 < below ∧ RoundsTo (below * 10 ^ scale) mantissa exponent))
    (hnoAbove : ¬ (0 < below + 1 ∧ RoundsTo ((below + 1 : Nat) * 10 ^ scale) mantissa exponent))
    (other : Nat) (hotherPos : 0 < other) : ¬ RoundsTo (other * 10 ^ scale) mantissa exponent := by
  have hunit := ten_zpow_pos scale
  intro hotherRounds
  rcases Nat.lt_or_ge below other with hgreater | hless
  · have hstep : ((below + 1 : Nat) : ℚ) * 10 ^ scale ≤ other * 10 ^ scale :=
      mul_le_mul_of_nonneg_right (by exact_mod_cast hgreater) hunit.le
    exact hnoAbove ⟨Nat.succ_pos _,
      hinside.between hotherRounds (by push_cast; exact hhigh.le) hstep⟩
  · have hstep : (other : ℚ) * 10 ^ scale ≤ below * 10 ^ scale :=
      mul_le_mul_of_nonneg_right (by exact_mod_cast hless) hunit.le
    exact hnoBelow ⟨hotherPos.trans_le hless, hotherRounds.between hinside hstep hlow⟩

section Search

variable {isPoint : Nat → Bool}
  (hisPoint_iff : ∀ units : Nat, isPoint units = true ↔
    0 < units ∧ RoundsTo (units * 10 ^ scale) mantissa exponent)
  (hinside : RoundsTo target mantissa exponent)
include hisPoint_iff hinside

private theorem findsNearest_below_first
    (hnear : target < (below + 1 / 2) * 10 ^ scale ∨
      (target ≤ (below + 1 / 2) * 10 ^ scale ∧ below % 2 = 0)) :
    FindsNearest target mantissa exponent scale ([below, below + 1].find? isPoint) := by
  by_cases hatBelow : isPoint below
  case pos =>
    obtain ⟨hpositive, hrounds⟩ := (hisPoint_iff below).mp hatBelow
    rw [List.find?_cons_of_pos hatBelow]
    refine isNearestUnits_below hlow hhigh hpositive hrounds (fun _ => ?_) hinside
    rcases hnear with hstrict | ⟨hmost, heven⟩
    · exact .inl hstrict
    · exact (lt_or_eq_of_le hmost).imp_right fun heq => ⟨heq, heven⟩
  rw [List.find?_cons_of_neg hatBelow]
  by_cases hatAbove : isPoint (below + 1)
  case pos =>
    rw [List.find?_cons_of_pos hatAbove]
    exact isNearestUnits_above hlow hhigh ((hisPoint_iff _).mp hatAbove).2
      (fun hpositive hrounds =>
        absurd ((hisPoint_iff below).mpr ⟨hpositive, hrounds⟩) hatBelow) hinside
  rw [List.find?_cons_of_neg hatAbove]
  exact not_roundsTo_of_neither hlow hhigh hinside (mt (hisPoint_iff below).mpr hatBelow)
    (mt (hisPoint_iff _).mpr hatAbove)

private theorem findsNearest_above_first
    (hfar : ¬ (target < (below + 1 / 2) * 10 ^ scale ∨
      (target ≤ (below + 1 / 2) * 10 ^ scale ∧ below % 2 = 0))) :
    FindsNearest target mantissa exponent scale ([below + 1, below].find? isPoint) := by
  rw [not_or, not_and, not_lt] at hfar
  by_cases hatAbove : isPoint (below + 1)
  case pos =>
    rw [List.find?_cons_of_pos hatAbove]
    refine isNearestUnits_above hlow hhigh ((hisPoint_iff _).mp hatAbove).2 (fun _ _ => ?_) hinside
    rcases lt_or_eq_of_le hfar.1 with hstrict | heq
    · exact .inl hstrict
    · have hodd := hfar.2 heq.ge
      exact .inr ⟨heq.symm, by omega⟩
  rw [List.find?_cons_of_neg hatAbove]
  by_cases hatBelow : isPoint below
  case pos =>
    obtain ⟨hpositive, hrounds⟩ := (hisPoint_iff below).mp hatBelow
    rw [List.find?_cons_of_pos hatBelow]
    exact isNearestUnits_below hlow hhigh hpositive hrounds
      (fun hnext => absurd ((hisPoint_iff _).mpr ⟨Nat.succ_pos _, hnext⟩) hatAbove) hinside
  rw [List.find?_cons_of_neg hatBelow]
  exact not_roundsTo_of_neither hlow hhigh hinside (mt (hisPoint_iff below).mpr hatBelow)
    (mt (hisPoint_iff _).mpr hatAbove)

end Search

end Grid

theorem isPoint_iff (hpositive : 0 < mantissa) (scale : Int) (units : Nat) :
    (units ≠ 0 && (Interval.around mantissa exponent).contains (.ofDecimal units scale)) = true ↔
      0 < units ∧ RoundsTo (units * 10 ^ scale) mantissa exponent := by
  rw [Bool.and_eq_true, decide_eq_true_iff, Nat.pos_iff_ne_zero,
    Interval.contains_around_iff hpositive (Fraction.ofDecimal_positive _ _),
    Fraction.ofDecimal_value]

theorem lowerIsNearer_iff {value : Fraction} (hvaluePos : 0 < value.denominator) (below : Nat)
    (scale : Int) :
    (value.lt (.ofDecimal (5 * (2 * below + 1)) (scale - 1)) ||
        (value.le (.ofDecimal (5 * (2 * below + 1)) (scale - 1)) && below % 2 = 0)) = true ↔
      value.value < (below + 1 / 2) * 10 ^ scale ∨
        (value.value ≤ (below + 1 / 2) * 10 ^ scale ∧ below % 2 = 0) := by
  have hmiddlePos := Fraction.ofDecimal_positive (5 * (2 * below + 1)) (scale - 1)
  have hmiddle : (Fraction.ofDecimal (5 * (2 * below + 1)) (scale - 1)).value =
      (below + 1 / 2) * 10 ^ scale := by
    rw [Fraction.ofDecimal_value, zpow_sub_one₀ (by norm_num)]
    push_cast
    ring
  rw [Bool.or_eq_true, Bool.and_eq_true, Fraction.lt_iff hvaluePos hmiddlePos,
    Fraction.le_iff hvaluePos hmiddlePos, hmiddle, decide_eq_true_iff]

theorem gridPoint?_findsNearest {value : Fraction} (hpositive : 0 < mantissa)
    (hvaluePos : 0 < value.denominator) (hinside : RoundsTo value.value mantissa exponent)
    (scale : Int) :
    FindsNearest value.value mantissa exponent scale
      (gridPoint? value (Interval.around mantissa exponent) scale) := by
  obtain ⟨hlow, hhigh⟩ := Fraction.wholeUnits_bounds hvaluePos scale
  have htest := @isPoint_iff mantissa exponent hpositive scale
  unfold gridPoint?
  dsimp only
  split
  case isTrue hnear =>
    exact findsNearest_below_first hlow hhigh htest hinside
      ((lowerIsNearer_iff hvaluePos _ _).mp hnear)
  case isFalse hfar =>
    exact findsNearest_above_first hlow hhigh htest hinside
      (mt (lowerIsNearer_iff hvaluePos _ _).mpr hfar)

namespace IsNearestUnits

variable {target : ℚ} {leading : Int} {units : Nat}
  (hnearest : IsNearestUnits target mantissa exponent leading units)
  (hinside : RoundsTo target mantissa exponent)
include hnearest

include hinside in
/-- A point above the ten is farther than the ten, which is then in the interval, too. -/
theorem le_ten (hhigh : target < 10 * 10 ^ leading) : units ≤ 10 := by
  by_contra hmore
  have hfurther : (10 : ℚ) * 10 ^ leading < units * 10 ^ leading :=
    mul_lt_mul_of_pos_right (by exact_mod_cast not_le.mp hmore) (ten_zpow_pos leading)
  have hten := hnearest.best 10 (by decide) (hinside.between hnearest.rounds hhigh.le hfurther.le)
  push_cast at hten
  rw [abs_of_pos (by linarith : (0 : ℚ) < units * 10 ^ leading - target),
    abs_of_pos (sub_pos.mpr hhigh)] at hten
  rcases hten with heq | hless | ⟨heq, -⟩
  · omega
  · linarith
  · linarith

include hinside in
/-- What lies below the one is farther than the one, which is then in the interval, too. -/
theorem nearer_of_lt_one {x : ℚ} (hlow : 10 ^ leading ≤ target) (hbelow : x < 10 ^ leading)
    (hrounds : RoundsTo x mantissa exponent) :
    |units * 10 ^ leading - target| < |x - target| := by
  have hone := hnearest.best 1 (by decide) (by simpa using hrounds.between hinside hbelow.le hlow)
  push_cast at hone
  rw [one_mul, abs_of_nonpos (sub_nonpos.mpr hlow), neg_sub] at hone
  rw [abs_of_neg (a := x - target) (by linarith)]
  rcases hone with rfl | hless | ⟨heq, -⟩
  · rw [Nat.cast_one, one_mul, abs_of_nonpos (sub_nonpos.mpr hlow)]
    linarith
  · linarith
  · linarith

/-- If the ten is the nearest and a point below it is as near, that point is the nine. -/
theorem eq_middle_of_ten {other : Nat} (hten : units = 10) (hhigh : target < 10 * 10 ^ leading)
    (hotherLe : other ≤ 9) (hrounds : RoundsTo (other * 10 ^ leading) mantissa exponent)
    (heq : |units * 10 ^ leading - target| = |other * 10 ^ leading - target|) :
    target = 19 / 2 * 10 ^ leading := by
  subst hten
  have hunit := ten_zpow_pos leading
  have hstep : (other : ℚ) * 10 ^ leading ≤ 9 * 10 ^ leading :=
    mul_le_mul_of_nonneg_right (by exact_mod_cast hotherLe) hunit.le
  have hnine := hnearest.best 9 (by decide)
    (hrounds.between hnearest.rounds (by exact_mod_cast hstep) (by push_cast; linarith))
  simp only [Nat.cast_ofNat] at hnine heq
  rw [abs_of_pos (sub_pos.mpr hhigh)] at hnine heq
  rcases lt_or_ge target (9 * 10 ^ leading) with hless | hgreater
  · rw [abs_of_pos (sub_pos.mpr hless)] at hnine
    rcases hnine with hsame | hnearer | ⟨hsame, -⟩
    · omega
    · linarith
    · linarith
  · rw [abs_of_nonpos (sub_nonpos.mpr (hstep.trans hgreater))] at heq
    rw [abs_of_nonpos (sub_nonpos.mpr hgreater)] at hnine
    rcases hnine with hsame | hnearer | ⟨hsame, -⟩
    · omega
    · linarith
    · linarith

end IsNearestUnits

end CitationFile.Decimal
