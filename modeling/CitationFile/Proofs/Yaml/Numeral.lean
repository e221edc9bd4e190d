import CitationFile.Proofs.Decimal.Shortest
import CitationFile.Proofs.Yaml.Cursor
import CitationFile.Proofs.Yaml.Notation
import CitationFile.Text.Blank
import CitationFile.Yaml.Composition

namespace CitationFile.Yaml

open Decimal

/-- The decimal digits of an integer of 64 bits. -/
inductive IsKeptInteger : List Char → Prop
  | digits (value : Int) (hlow : -2 ^ 63 ≤ value) (hhigh : value < 2 ^ 64) :
      IsKeptInteger (toString value).toList

inductive IsKeptFloat : List Char → Prop
  | nan : IsKeptFloat ".nan".toList
  | infinite (negative : Bool) : IsKeptFloat (sign negative ++ ".inf".toList)
  | zero (negative : Bool) : IsKeptFloat (sign negative ++ "0.0".toList)
  | decimal (negative : Bool) {numeral : Numeral} {mantissa : Nat} {exponent : Int}
      (hnormal : IsNormal mantissa exponent) (hpositive : 0 < mantissa)
      (hfits : exponent ≤ Binary64.greatestExponent)
      (hshortest : numeral.IsShortest mantissa exponent) :
      IsKeptFloat (sign negative ++ Number.decimalText numeral.digits numeral.point)

/-- With the tag of floating-point numbers an integer gets a point, so that it is not kept. -/
def IsKept (tag : Option (List Char)) (text : List Char) : Prop :=
  (IsKeptInteger text ∧ tag ≠ some (coreTag "float")) ∨ IsKeptFloat text

private theorem integer_isKept {text : List Char} {value : Int}
    (hreads : Scalar.readInteger text = .integer value) :
    IsKeptInteger (toString value).toList := by
  unfold Scalar.readInteger at hreads
  split at hreads
  · split at hreads
    case isTrue hrange =>
      obtain rfl := IntegerReading.integer.inj hreads
      exact .digits _ hrange.1 hrange.2
    case isFalse =>
      split at hreads <;> cases hreads
  · cases hreads

private theorem exists_ofDecimal_of_read? {text : List Char} {value : Binary64}
    (hreads : read? text = some value) :
    ∃ negative digits scale, value = Binary64.ofDecimal negative digits scale := by
  rw [read?, Option.ite_none_left_eq_some] at hreads
  obtain ⟨exponent, -, rfl⟩ := Option.map_eq_some_iff.mp hreads.2
  exact ⟨_, _, _, rfl⟩

private theorem isNormal_of_read? {text : List Char} {negative : Bool} {mantissa : Nat}
    {exponent : Int}
    (hreads : read? text = some (.finite negative mantissa exponent)) (hpositive : 0 < mantissa) :
    IsNormal mantissa exponent ∧ exponent ≤ Binary64.greatestExponent := by
  obtain ⟨negative', digits, scale, heq⟩ := exists_ofDecimal_of_read? hreads
  rcases digits.eq_zero_or_pos with rfl | hdigitsPos
  · rw [Binary64.ofDecimal, if_pos (.inl rfl)] at heq
    obtain ⟨-, rfl, -⟩ := Binary64.finite.inj heq
    exact absurd hpositive (lt_irrefl 0)
  · obtain ⟨-, hnormal, hfits, -⟩ := (Binary64.ofDecimal_eq_finite_iff hdigitsPos).mp heq.symm
    exact ⟨hnormal, hfits⟩

private theorem floatText_isKept {text : List Char} {value : Binary64}
    (hreads : Scalar.float? text = some value) : IsKeptFloat (Number.floatText value).toList := by
  match value with
  | .nan => exact .nan
  | .infinite false => exact .infinite false
  | .infinite true => exact .infinite true
  | .finite negative mantissa exponent =>
      rw [Number.floatText, String.toList_ofList]
      rcases mantissa.eq_zero_or_pos with rfl | hpositive
      · exact .zero negative
      · have hfinite : ∃ unsigned, read? unsigned = some (.finite negative mantissa exponent) := by
          unfold Scalar.float? at hreads
          dsimp only at hreads
          rw [Option.ite_none_left_eq_some] at hreads
          rcases ite_eq_iff.mp hreads.2 with ⟨-, hword⟩ | ⟨-, hreads⟩
          · cases hword
          rcases ite_eq_iff.mp hreads with ⟨-, hword⟩ | ⟨-, hreads⟩
          · cases hword
          rcases ite_eq_iff.mp hreads with ⟨-, hword⟩ | ⟨-, hreads⟩
          · cases hword
          exact ⟨_, (Option.filter_eq_some_iff.mp hreads).1⟩
        obtain ⟨unsigned, hread⟩ := hfinite
        obtain ⟨hnormal, hfits⟩ := isNormal_of_read? hread hpositive
        obtain ⟨numeral, hshortest, hshown⟩ := shortestDigits_spec hnormal hpositive
        rw [Number.magnitudeText_eq hpositive, hshown]
        exact .decimal negative hnormal hpositive hfits hshortest

/-! A text in its kept form is read as the number that is shown by it. -/

private theorem any_eq_false {words : List String} {text : List Char} {p : Char → Bool}
    (hhead : text.head?.any p) (hothers : ∀ word ∈ words, word.toList.head?.any p = false) :
    words.any (·.toList = text) = false := by
  refine List.any_eq_false.mpr fun word hmem heq => ?_
  have := hothers word hmem
  rw [of_decide_eq_true heq, hhead] at this
  cases this

def startsNumber (c : Char) : Bool :=
  c.isDigit || c = '-'

private theorem startsNumber_sign (negative : Bool) {first : Char} (hdigit : first.isDigit)
    (rest : List Char) : (sign negative ++ first :: rest).head?.any startsNumber := by
  cases negative with
  | true => rfl
  | false => simp [sign, startsNumber, hdigit]

section Signed

variable {first : Char} {rest : List Char} (hdigit : first.isDigit) (negative : Bool)
include hdigit

private theorem sign_cases (rest : List Char) :
    sign negative ++ first :: rest = '-' :: first :: rest ∨
      (sign negative ++ first :: rest = first :: rest ∧ first ≠ '-' ∧ first ≠ '+') := by
  cases negative with
  | true => exact .inl rfl
  | false =>
      exact .inr ⟨rfl, Text.ne_of_class hdigit (by decide), Text.ne_of_class hdigit (by decide)⟩

private theorem float?_eq_read? :
    Scalar.float? (sign negative ++ first :: rest) =
      (read? (sign negative ++ first :: rest)).filter (·.isFinite) := by
  have hstarts := startsNumber_sign negative hdigit rest
  have hinfinite := any_eq_false hstarts (by decide : ∀ word ∈ [".inf", ".Inf", ".INF"], _)
  have hundefined := any_eq_false hstarts (by decide : ∀ word ∈ [".nan", ".NaN", ".NAN"], _)
  have hnegativeInfinite :
      ["-.inf", "-.Inf", "-.INF"].any (·.toList = sign negative ++ first :: rest) = false := by
    have hsecond : ∀ word ∈ ["-.inf", "-.Inf", "-.INF"],
        word.toList[0]? = some '-' ∧ word.toList[1]? = some '.' := by decide
    refine List.any_eq_false.mpr fun word hmem heq => ?_
    obtain ⟨hminus, hpoint⟩ := hsecond word hmem
    rcases sign_cases hdigit negative rest with hsigned | ⟨hunsigned, hnoMinus, -⟩
    · rw [of_decide_eq_true heq, hsigned] at hpoint
      obtain rfl : first = '.' := by simpa using hpoint
      cases hdigit
    · rw [of_decide_eq_true heq, hunsigned] at hminus
      exact hnoMinus (by simpa using hminus)
  have hnoPlus : (sign negative ++ first :: rest).head? ≠ some '+' := by
    rcases sign_cases hdigit negative rest with heq | ⟨heq, -, hnoPlus⟩
    · rw [heq]
      simp
    · rw [heq]
      simpa using hnoPlus
  generalize sign negative ++ first :: rest = text at *
  unfold Scalar.float?
  split
  case h_1 => exact absurd rfl hnoPlus
  case h_2 => simp [hnoPlus, hinfinite, hundefined, hnegativeInfinite]

end Signed

section Fraction

variable {first : Char} {rest : List Char} (hpointed : first = '0' → rest.head? = some '.')
  (hbroken : ∃ c ∈ rest, c = '.' ∨ c = 'e')
include hpointed hbroken

theorem unsigned?_eq_none : Scalar.unsigned? (first :: rest) = none := by
  have hdecimal : Text.numberIn? 10 (first :: rest) = none := by
    rw [Text.numberIn?_ten, if_neg]
    rintro ⟨-, hall⟩
    obtain ⟨c, hmem, hmark⟩ := hbroken
    have hdigit := List.all_eq_true.mp hall c (List.mem_cons_of_mem _ hmem)
    rcases hmark with rfl | rfl <;> cases hdigit
  have hunmarked (mark : Char) (behind : List Char) (hother : mark ≠ '.') :
      first :: rest ≠ '0' :: mark :: behind := by
    intro heq
    obtain ⟨hzero, rfl⟩ := List.cons_eq_cons.mp heq
    exact hother (by simpa using hpointed hzero)
  unfold Scalar.unsigned?
  split
  case h_1 heq => exact absurd heq (hunmarked _ _ (by decide))
  case h_2 heq => exact absurd heq (hunmarked _ _ (by decide))
  case h_3 heq => exact absurd heq (hunmarked _ _ (by decide))
  case h_4 => rw [hdecimal, ite_self]

theorem readInteger_eq_none (hdigit : first.isDigit) (negative : Bool) :
    Scalar.readInteger (sign negative ++ first :: rest) = .none := by
  have hnone : Scalar.integer? (sign negative ++ first :: rest) = none := by
    have hunsigned := unsigned?_eq_none hpointed hbroken
    rcases sign_cases hdigit negative rest with heq | ⟨heq, hminus, hplus⟩
    · rw [heq, Scalar.integer?, hunsigned]
      rfl
    · rw [heq]
      unfold Scalar.integer?
      split
      · simp_all
      · simp_all
      · rw [hunsigned]
        rfl
  rw [Scalar.readInteger, hnone]

end Fraction

private theorem unsigned?_toDigits (number : Nat) :
    Scalar.unsigned? (Nat.toDigits 10 number) = some number := by
  rcases number.eq_zero_or_pos with rfl | hpositive
  · rfl
  · have hall : ∀ c ∈ Nat.toDigits 10 number, c.isDigit := fun _ =>
      Nat.isDigit_of_mem_toDigits (by decide) (by decide)
    have hvalue := Text.digitsValue_toDigits number
    obtain ⟨first, rest, hdigits, hdigit, hnonzero⟩ := Text.exists_toDigits_eq_cons hpositive
    rw [hdigits] at hall hvalue ⊢
    have hdecimal : Text.numberIn? 10 (first :: rest) = some number := by
      rw [Text.numberIn?_ten, if_pos ⟨List.cons_ne_nil _ _, List.all_eq_true.mpr hall⟩, hvalue]
    have hunpadded : Scalar.hasLeadingZero (first :: rest) = false := by
      have hminus : first ≠ '-' := Text.ne_of_class hdigit (by decide)
      have hplus : first ≠ '+' := Text.ne_of_class hdigit (by decide)
      unfold Scalar.hasLeadingZero
      simp only [hminus, hplus, or_self, if_false]
      split
      case h_1 heq => exact absurd (List.cons_eq_cons.mp heq).1 hnonzero
      case h_2 => rfl
    unfold Scalar.unsigned?
    split
    case h_1 heq => exact absurd (List.cons_eq_cons.mp heq).1 hnonzero
    case h_2 heq => exact absurd (List.cons_eq_cons.mp heq).1 hnonzero
    case h_3 heq => exact absurd (List.cons_eq_cons.mp heq).1 hnonzero
    case h_4 => rw [hunpadded, if_neg Bool.false_ne_true, hdecimal]

private theorem integer?_toString (value : Int) :
    Scalar.integer? (toString value).toList = some value := by
  rw [toList_toString_int]
  have hunsigned := unsigned?_toDigits value.natAbs
  obtain ⟨first, rest, hdigits⟩ := List.exists_cons_of_ne_nil
    (Nat.toDigits_ne_nil (n := value.natAbs) (b := 10))
  have hdigit : first.isDigit :=
    Nat.isDigit_of_mem_toDigits (b := 10) (n := value.natAbs) (by decide) (by decide)
      (by rw [hdigits]; exact List.mem_cons_self)
  rw [hdigits] at hunsigned ⊢
  rcases lt_or_ge value 0 with hnegative | hnonnegative
  · rw [sign, decide_eq_true hnegative]
    change (Scalar.unsigned? (first :: rest)).map Int.negOfNat = _
    rw [hunsigned, Option.map_some, Int.negOfNat_eq]
    congr 1
    change -(value.natAbs : Int) = value
    omega
  · rw [sign, decide_eq_false hnonnegative.not_gt]
    change Scalar.integer? (first :: rest) = _
    have hminus : first ≠ '-' := Text.ne_of_class hdigit (by decide)
    have hplus : first ≠ '+' := Text.ne_of_class hdigit (by decide)
    unfold Scalar.integer?
    split
    · simp_all
    · simp_all
    · rw [hunsigned, Option.map_some]
      congr 1
      change (value.natAbs : Int) = value
      omega

private theorem readInteger_toString {value : Int} (hlow : -2 ^ 63 ≤ value)
    (hhigh : value < 2 ^ 64) :
    Scalar.readInteger (toString value).toList = .integer value := by
  rw [Scalar.readInteger, integer?_toString]
  exact if_pos ⟨hlow, hhigh⟩

private theorem decimal_isFloat (negative : Bool) {numeral : Numeral} {mantissa : Nat}
    {exponent : Int}
    (hnormal : IsNormal mantissa exponent) (hfits : exponent ≤ Binary64.greatestExponent)
    (hrounds : RoundsTo numeral.value mantissa exponent) :
    let text := sign negative ++ Number.decimalText numeral.digits numeral.point
    Scalar.float? text = some (.finite negative mantissa exponent) ∧
      Scalar.readInteger text = .none := by
  obtain ⟨units, scale, hpositive, hvalue, hreads⟩ := Number.readsAs_decimalText numeral negative
  have hfinite : Binary64.ofDecimal negative units scale = .finite negative mantissa exponent :=
    (Binary64.ofDecimal_eq_finite_iff hpositive).mpr ⟨rfl, hnormal, hfits, hvalue ▸ hrounds⟩
  rw [hfinite] at hreads
  obtain ⟨first, rest, hshape, hdigit, hpointed, hbroken⟩ := Number.decimalText_shape numeral
  rw [hshape] at hreads ⊢
  refine ⟨?_, readInteger_eq_none hpointed hbroken hdigit negative⟩
  rw [float?_eq_read? hdigit, hreads]
  rfl

private theorem IsKeptFloat.reads {text : List Char} (hkept : IsKeptFloat text) :
    ∃ value, Scalar.float? text = some value ∧ (Number.floatText value).toList = text ∧
      Scalar.readInteger text = .none := by
  cases hkept with
  | nan => exact ⟨.nan, rfl, rfl, rfl⟩
  | infinite negative =>
      refine ⟨.infinite negative, ?_⟩
      cases negative <;> exact ⟨rfl, rfl, rfl⟩
  | zero negative =>
      refine ⟨.finite negative 0 Binary64.leastExponent, ?_⟩
      cases negative <;> exact ⟨rfl, rfl, rfl⟩
  | decimal negative hnormal hpositive hfits hshortest =>
      obtain ⟨hfloat, hinteger⟩ := decimal_isFloat negative hnormal hfits hshortest.rounds
      refine ⟨_, hfloat, ?_, hinteger⟩
      rw [Number.floatText, String.toList_ofList, Number.magnitudeText_eq hpositive,
        hshortest.shortestDigits_eq hnormal hpositive]

/-- A number comes from one of the two readings; with the tag of floating-point numbers the other
one is not tried. -/
inductive NumberReading (tag : Option (List Char)) (text : List Char) : Number → Prop
  | integer {value : Int} (hreads : Scalar.readInteger text = .integer value)
      (hnoFloat : tag ≠ some (coreTag "float")) : NumberReading tag text (.integer value)
  | float {value : Binary64} (hreads : Scalar.float? text = some value)
      (hnoInteger : tag ≠ some (coreTag "float") → Scalar.readInteger text = .none) :
      NumberReading tag text (.float value)

private theorem NumberReading.of_plainValue {text : List Char} {number : Number}
    (hreads : plainValue text = .ok (.number number)) : NumberReading none text number := by
  unfold plainValue at hreads
  split at hreads
  · cases hreads
  split at hreads
  · cases hreads
  split at hreads
  case h_1 value hinteger =>
    cases hreads
    exact .integer hinteger (by simp)
  case h_2 => cases hreads
  case h_3 hnone =>
    split at hreads
    case h_1 value hfloat =>
      cases hreads
      exact .float (Option.ite_none_left_eq_some.mp hfloat).2 fun _ => hnone
    case h_2 => cases hreads

private theorem NumberReading.of_tagged {tag text : List Char} {style : ScalarStyle}
    {number : Number} (hreads : scalarValue (some tag) text style = .ok (.number number)) :
    NumberReading (some tag) text number := by
  simp only [scalarValue] at hreads
  split at hreads
  · split at hreads <;> cases hreads
  split at hreads
  case isTrue hisInteger =>
    split at hreads
    case h_1 value hinteger =>
      cases hreads
      refine .integer hinteger ?_
      rw [hisInteger]
      decide
    case h_2 => cases hreads
    case h_3 => cases hreads
  split at hreads
  case isTrue hisFloat =>
    split at hreads
    case h_1 value hfloat =>
      cases hreads
      exact .float hfloat fun hother => absurd (congrArg some hisFloat) hother
    case h_2 => cases hreads
  split at hreads
  · split at hreads <;> cases hreads
  · cases hreads

private theorem numberReading_of_scalarValue {tag : Option (List Char)} {text : List Char}
    {style : ScalarStyle} {number : Number}
    (hreads : scalarValue tag text style = .ok (.number number)) :
    NumberReading tag text number := by
  cases tag with
  | none =>
      rw [scalarValue] at hreads
      rcases ite_eq_iff.mp hreads with ⟨-, hplain⟩ | ⟨-, hquoted⟩
      · exact .of_plainValue hplain
      · cases hquoted
  | some tag => exact .of_tagged hreads

private theorem isGapless_of_numberIn? {base number : Nat} {text : List Char}
    (hreads : Text.numberIn? base text = some number) : IsGapless text := by
  rw [Text.numberIn?, Option.ite_none_right_eq_some] at hreads
  exact isGapless_of_class hreads.1.2 rfl

private theorem isGapless_of_unsigned? {number : Nat} {text : List Char}
    (hreads : Scalar.unsigned? text = some number) : IsGapless text := by
  unfold Scalar.unsigned? at hreads
  split at hreads
  · exact isGapless_cons rfl (isGapless_cons rfl (isGapless_of_numberIn? hreads))
  · exact isGapless_cons rfl (isGapless_cons rfl (isGapless_of_numberIn? hreads))
  · exact isGapless_cons rfl (isGapless_cons rfl (isGapless_of_numberIn? hreads))
  · rw [Option.ite_none_left_eq_some] at hreads
    exact isGapless_of_numberIn? hreads.2

private theorem isGapless_of_readInteger {value : Int} {text : List Char}
    (hreads : Scalar.readInteger text = .integer value) : IsGapless text := by
  unfold Scalar.readInteger at hreads
  split at hreads
  case h_1 number hinteger =>
    unfold Scalar.integer? at hinteger
    split at hinteger
    · obtain ⟨magnitude, hunsigned, -⟩ := Option.map_eq_some_iff.mp hinteger
      exact isGapless_cons rfl (isGapless_of_unsigned? hunsigned)
    · obtain ⟨magnitude, hunsigned, -⟩ := Option.map_eq_some_iff.mp hinteger
      exact isGapless_cons rfl (isGapless_of_unsigned? hunsigned)
    · obtain ⟨magnitude, hunsigned, -⟩ := Option.map_eq_some_iff.mp hinteger
      exact isGapless_of_unsigned? hunsigned
  case h_2 => cases hreads

private theorem isGapless_of_takeSign {text : List Char} (hrest : IsGapless (takeSign text).2) :
    IsGapless text := by
  unfold takeSign at hrest
  split at hrest
  · exact isGapless_cons rfl hrest
  · exact isGapless_cons rfl hrest
  · exact hrest

private theorem isGapless_digits {digits : List Char} (hall : digits.all Char.isDigit) :
    IsGapless digits :=
  isGapless_of_class hall (by decide)

private theorem isGapless_of_exponentPart? {text : List Char} {exponent : Int}
    (hreads : exponentPart? text = some exponent) : IsGapless text := by
  cases text with
  | nil => exact fun c hmem => nomatch hmem
  | cons c rest =>
      simp only [exponentPart?, Option.ite_none_right_eq_some] at hreads
      obtain ⟨hmark, hdigits, -⟩ := hreads
      refine isGapless_cons ?_ (isGapless_of_takeSign (isGapless_digits hdigits.2))
      rcases hmark with rfl | rfl <;> rfl

private theorem isGapless_of_read? {text : List Char} {value : Binary64}
    (hreads : read? text = some value) : IsGapless text := by
  have hdigits (text : List Char) : IsGapless (text.takeWhile Char.isDigit) :=
    isGapless_digits List.all_takeWhile
  refine isGapless_of_takeSign ?_
  rw [read?, Option.ite_none_left_eq_some] at hreads
  obtain ⟨exponent, hexponent, -⟩ := Option.map_eq_some_iff.mp hreads.2
  simp only [List.span_eq_takeWhile_dropWhile] at hexponent
  rw [← List.takeWhile_append_dropWhile (p := Char.isDigit) (l := (takeSign text).2)]
  refine List.forall_mem_append.mpr ⟨hdigits _, ?_⟩
  split at hexponent
  case h_1 behind hshape =>
    rw [hshape, ← List.takeWhile_append_dropWhile (p := Char.isDigit) (l := behind)]
    refine isGapless_cons rfl (List.forall_mem_append.mpr ⟨hdigits _, ?_⟩)
    exact isGapless_of_exponentPart? hexponent
  case h_2 => exact isGapless_of_exponentPart? hexponent

private theorem isGapless_of_unsigned {text : List Char}
    (hgapless : IsGapless (match text with
      | '+' :: rest => rest
      | _ => text)) : IsGapless text := by
  split at hgapless
  · exact isGapless_cons rfl hgapless
  · exact hgapless

private theorem isGapless_of_float? {text : List Char} {value : Binary64}
    (hreads : Scalar.float? text = some value) : IsGapless text := by
  have hwords {words : List String} {text : List Char} (hfound : words.any (·.toList = text))
      (hgapless : words.all fun word => word.toList.all (!isGap ·)) : IsGapless text := by
    obtain ⟨word, hmem, heq⟩ := List.any_eq_true.mp hfound
    have hall := List.all_eq_true.mp hgapless word hmem
    rw [of_decide_eq_true heq] at hall
    exact fun c hmem => Bool.not_eq_true' _ ▸ List.all_eq_true.mp hall c hmem
  unfold Scalar.float? at hreads
  dsimp only at hreads
  rw [Option.ite_none_left_eq_some] at hreads
  rcases ite_eq_iff.mp hreads.2 with ⟨hword, -⟩ | ⟨-, hreads⟩
  · exact isGapless_of_unsigned (hwords hword (by decide))
  rcases ite_eq_iff.mp hreads with ⟨hword, -⟩ | ⟨-, hreads⟩
  · exact hwords hword (by decide)
  rcases ite_eq_iff.mp hreads with ⟨hword, -⟩ | ⟨-, hreads⟩
  · exact hwords hword (by decide)
  exact isGapless_of_unsigned (isGapless_of_read? (Option.filter_eq_some_iff.mp hreads).1)

theorem isGapless_of_number {tag : Option (List Char)} {text : List Char} {style : ScalarStyle}
    {number : Number} (hreads : scalarValue tag text style = .ok (.number number)) :
    IsGapless text := by
  cases numberReading_of_scalarValue hreads with
  | integer hinteger => exact isGapless_of_readInteger hinteger
  | float hfloat => exact isGapless_of_float? hfloat

/-! Numbers that are shown as they are written. -/

/-- A number of a document is shown as it is written if and only if it is written in its kept
form. -/
theorem text_eq_iff_isKept {tag : Option (List Char)} {text : List Char} {style : ScalarStyle}
    {number : Number} (hreads : scalarValue tag text style = .ok (.number number)) :
    number.text.toList = text ↔ IsKept tag text := by
  cases numberReading_of_scalarValue hreads with
  | integer hinteger hnoFloat =>
      constructor
      · intro heq
        exact .inl ⟨heq ▸ integer_isKept hinteger, hnoFloat⟩
      · rintro (⟨⟨value', hlow, hhigh⟩, -⟩ | hkept)
        · rw [readInteger_toString hlow hhigh] at hinteger
          cases hinteger
          rfl
        · obtain ⟨-, -, -, hnone⟩ := hkept.reads
          rw [hnone] at hinteger
          cases hinteger
  | float hfloat hnoInteger =>
      constructor
      · intro heq
        exact .inr (heq ▸ floatText_isKept hfloat)
      · rintro (⟨⟨value', hlow, hhigh⟩, hnoFloat⟩ | hkept)
        · rw [readInteger_toString hlow hhigh] at hnoInteger
          cases hnoInteger hnoFloat
        · obtain ⟨value', hfloat', hshown, -⟩ := hkept.reads
          rw [hfloat] at hfloat'
          cases hfloat'
          exact hshown

end CitationFile.Yaml
