import CitationFile.Proofs.Decimal.Numeral
import CitationFile.Yaml.Number

namespace CitationFile.Decimal

private theorem span_isDigit {digits : List Char} (hall : ∀ c ∈ digits, c.isDigit)
    {rest : List Char} (hstop : ∀ c ∈ rest.head?, c.isDigit = false) :
    (digits ++ rest).span Char.isDigit = (digits, rest) := by
  rw [List.span_eq_takeWhile_dropWhile, List.takeWhile_append_of_pos hall,
    List.dropWhile_append_of_pos hall]
  cases rest with
  | nil => simp
  | cons c rest =>
      have hstops : ¬ c.isDigit := by simp [hstop c rfl]
      rw [List.takeWhile_cons_of_neg hstops, List.dropWhile_cons_of_neg hstops, List.append_nil]

private theorem takeSign_sign (negative : Bool) {text : List Char}
    (hdigit : ∃ c ∈ text.head?, c.isDigit) :
    takeSign (sign negative ++ text) = (negative, text) := by
  cases negative with
  | true => rfl
  | false =>
      obtain ⟨c, hhead, hisDigit⟩ := hdigit
      cases text with
      | nil => simp at hhead
      | cons first rest =>
          obtain rfl : first = c := by simpa using hhead
          change takeSign (first :: rest) = (false, first :: rest)
          unfold takeSign
          split
          · simp_all
          · simp_all
          · rfl

section Parts

variable {whole fraction tail : List Char} {exponent : Int} (negative : Bool)
  (hwholeDigits : ∀ c ∈ whole, c.isDigit) (hnonempty : whole ≠ [])
include hwholeDigits hnonempty

private theorem takeSign_whole (behind : List Char) :
    takeSign (sign negative ++ (whole ++ behind)) = (negative, whole ++ behind) := by
  obtain ⟨first, rest, rfl⟩ := List.exists_cons_of_ne_nil hnonempty
  exact takeSign_sign negative ⟨first, rfl, hwholeDigits first List.mem_cons_self⟩

variable (hexponent : exponentPart? tail = some exponent)
include hexponent

private theorem read?_fraction (hfractionDigits : ∀ c ∈ fraction, c.isDigit)
    (hstop : ∀ c ∈ tail.head?, c.isDigit = false) :
    read? (sign negative ++ (whole ++ '.' :: (fraction ++ tail))) =
      some (Binary64.ofDecimal negative (Text.digitsValue (whole ++ fraction))
        (exponent - fraction.length)) := by
  have hpoint : ∀ c ∈ ('.' :: (fraction ++ tail)).head?, c.isDigit = false := by simp
  rw [read?, takeSign_whole negative hwholeDigits hnonempty]
  simp only [span_isDigit hwholeDigits hpoint, span_isDigit hfractionDigits hstop]
  rw [if_neg (fun hempty => hnonempty hempty.1), hexponent, Option.map_some]

private theorem read?_whole (hstop : ∀ c ∈ tail.head?, c.isDigit = false)
    (hnoPoint : tail.head? ≠ some '.') :
    read? (sign negative ++ (whole ++ tail)) =
      some (Binary64.ofDecimal negative (Text.digitsValue whole) exponent) := by
  rw [read?, takeSign_whole negative hwholeDigits hnonempty]
  simp only [span_isDigit hwholeDigits hstop]
  split
  case h_1 => simp_all
  case h_2 =>
    rw [if_neg (fun hempty => hnonempty hempty.1), hexponent]
    simp

end Parts

theorem toList_toString_int (value : Int) :
    (toString value).toList = sign (value < 0) ++ Nat.toDigits 10 value.natAbs := by
  rw [Int.toString_eq_repr, Int.repr_eq_if]
  split
  case isTrue hnonnegative =>
    rw [Nat.toList_repr, sign, decide_eq_false (by omega)]
    congr 1
    omega
  case isFalse hnegative =>
    rw [String.toList_append, Nat.toList_repr, sign, decide_eq_true (by omega)]
    have : (-value).toNat = value.natAbs := by omega
    rw [this]
    rfl

private theorem exponentPart?_toString (exponent : Int) :
    exponentPart? ('e' :: (toString exponent).toList) = some exponent := by
  have hdigits : ∀ c ∈ Nat.toDigits 10 exponent.natAbs, c.isDigit := fun _ =>
    Nat.isDigit_of_mem_toDigits (by decide) (by decide)
  obtain ⟨first, rest, hshape⟩ := List.exists_cons_of_ne_nil
    (Nat.toDigits_ne_nil (n := exponent.natAbs) (b := 10))
  have hhead : ∃ c ∈ (Nat.toDigits 10 exponent.natAbs).head?, c.isDigit :=
    ⟨first, by rw [hshape]; rfl, hdigits first (by rw [hshape]; exact List.mem_cons_self)⟩
  rw [exponentPart?, if_pos (.inl rfl), toList_toString_int, takeSign_sign _ hhead]
  dsimp only
  rw [if_pos ⟨Nat.toDigits_ne_nil, List.all_eq_true.mpr hdigits⟩, Text.digitsValue_toDigits]
  split
  case isTrue hnegative =>
    have := of_decide_eq_true hnegative
    congr 1
    omega
  case isFalse hnonnegative =>
    have := of_decide_eq_false (Bool.eq_false_of_not_eq_true hnonnegative)
    congr 1
    omega

end CitationFile.Decimal

namespace CitationFile.Yaml.Number

open Decimal

def decimalText (digits : List Char) (point : Int) : List Char :=
  if isPositional point then positional digits point else scientific digits point

theorem magnitudeText_eq {mantissa : Nat} (hpositive : 0 < mantissa) (exponent : Int) :
    magnitudeText mantissa exponent =
      decimalText (shortestDigits mantissa exponent).1 (shortestDigits mantissa exponent).2 := by
  rw [magnitudeText, if_neg hpositive.ne', decimalText]

/-- The forms of a decimal in its notation: digits, of which the first is no zero unless the point
follows it, and a point or an exponent among them. -/
theorem decimalText_shape (numeral : Numeral) :
    ∃ first rest, decimalText numeral.digits numeral.point = first :: rest ∧ first.isDigit ∧
      (first = '0' → rest.head? = some '.') ∧ ∃ c ∈ rest, c = '.' ∨ c = 'e' := by
  obtain ⟨first, rest, hdigits, hisDigit, hnonzero⟩ := Text.exists_toDigits_eq_cons numeral.positive
  have hdigits : numeral.digits = first :: rest := hdigits
  unfold decimalText
  split
  · unfold positional
    split
    · exact ⟨'0', _, rfl, rfl, fun _ => rfl, '.', List.mem_cons_self, .inl rfl⟩
    · split
      · refine ⟨first, _, by rw [hdigits]; rfl, hisDigit, fun hzero => absurd hzero hnonzero,
          '.', ?_, .inl rfl⟩
        simp
      case isFalse hinside =>
        obtain ⟨count, hcount⟩ := Nat.exists_eq_add_one.mpr (by omega : 0 < numeral.point.toNat)
        refine ⟨first, rest.take count ++ '.' :: rest.drop count, ?_, hisDigit,
          fun hzero => absurd hzero hnonzero, '.', by simp, .inl rfl⟩
        rw [hdigits, hcount]
        rfl
  · refine ⟨first, ?_⟩
    rw [hdigits]
    cases rest with
    | nil =>
        exact ⟨_, rfl, hisDigit, fun hzero => absurd hzero hnonzero, 'e', List.mem_cons_self,
          .inr rfl⟩
    | cons second rest =>
        exact ⟨_, rfl, hisDigit, fun hzero => absurd hzero hnonzero, '.', List.mem_cons_self,
          .inl rfl⟩

/-- With either sign the text is read as a decimal of the same value. -/
def ReadsAs (text : List Char) (numeral : Numeral) : Prop :=
  ∀ negative, ∃ (units : Nat) (scale : Int), 0 < units ∧
    (units * 10 ^ scale : ℚ) = numeral.value ∧
    read? (sign negative ++ text) = some (Binary64.ofDecimal negative units scale)

section Reading

variable {numeral : Numeral}

private theorem isDigit_digits (numeral : Numeral) : ∀ c ∈ numeral.digits, c.isDigit := fun _ =>
  Nat.isDigit_of_mem_toDigits (by decide) (by decide)

private theorem digitsValue_digits (numeral : Numeral) :
    Text.digitsValue numeral.digits = numeral.significand :=
  Text.digitsValue_toDigits numeral.significand

private theorem isDigit_zeros {count : Nat} : ∀ c ∈ List.replicate count '0', c.isDigit := by
  intro c hmem
  rw [List.eq_of_mem_replicate hmem]
  rfl

private theorem ReadsAs.of_parts {text : List Char} (whole fraction tail : List Char) (zeros : Nat)
    {exponent : Int} (htext : text = whole ++ '.' :: (fraction ++ tail)) (hnonempty : whole ≠ [])
    (hwholeDigits : ∀ c ∈ whole, c.isDigit) (hfractionDigits : ∀ c ∈ fraction, c.isDigit)
    (hexponent : exponentPart? tail = some exponent)
    (hstop : ∀ c ∈ tail.head?, c.isDigit = false)
    (hvalue : Text.digitsValue (whole ++ fraction) = numeral.significand * 10 ^ zeros)
    (hscale : numeral.scale = exponent - fraction.length + zeros) : ReadsAs text numeral := by
  intro negative
  refine ⟨_, _, ?_, (Numeral.value_of_units hvalue hscale).symm,
    htext ▸ read?_fraction negative hwholeDigits hnonempty hexponent hfractionDigits hstop⟩
  rw [hvalue]
  exact Nat.mul_pos numeral.positive (Nat.pow_pos (by decide))

/-- Zeros stand between the point and the digits. -/
theorem readsAs_fraction (hbehind : numeral.point ≤ 0) :
    ReadsAs ("0.".toList ++ List.replicate (-numeral.point).toNat '0' ++ numeral.digits)
      numeral := by
  have hpoint : numeral.point = numeral.scale + numeral.digits.length := rfl
  have hfractionDigits : ∀ c ∈ List.replicate (-numeral.point).toNat '0' ++ numeral.digits,
      c.isDigit :=
    List.forall_mem_append.mpr ⟨isDigit_zeros, isDigit_digits numeral⟩
  have hvalue : Text.digitsValue
      (['0'] ++ (List.replicate (-numeral.point).toNat '0' ++ numeral.digits)) =
        numeral.significand := by
    have hzero : Text.digitsValue ['0'] = 0 := rfl
    rw [Text.digitsValue_append, Text.digitsValue_append, hzero, Text.digitsValue_replicate_zero,
      digitsValue_digits]
    simp
  refine ReadsAs.of_parts ['0'] _ [] 0 (by simp) (by simp) (by simp) hfractionDigits rfl (by simp)
    (by simpa using hvalue) ?_
  simp
  omega

/-- Zeros stand between the digits and the point. -/
theorem readsAs_whole (hbeyond : numeral.digits.length ≤ numeral.point.toNat)
    (hfront : 0 < numeral.point) :
    ReadsAs (numeral.digits ++ List.replicate (numeral.point.toNat - numeral.digits.length) '0' ++
      ".0".toList) numeral := by
  have hpoint : numeral.point = numeral.scale + numeral.digits.length := rfl
  obtain ⟨zeros, hzeros⟩ : ∃ zeros, zeros = numeral.point.toNat - numeral.digits.length :=
    ⟨_, rfl⟩
  rw [← hzeros]
  have hwholeDigits : ∀ c ∈ numeral.digits ++ List.replicate zeros '0', c.isDigit :=
    List.forall_mem_append.mpr ⟨isDigit_digits numeral, isDigit_zeros⟩
  have hvalue : Text.digitsValue (numeral.digits ++ List.replicate zeros '0' ++ ['0']) =
      numeral.significand * 10 ^ (zeros + 1) := by
    have hzero : Text.digitsValue ['0'] = 0 := rfl
    rw [Text.digitsValue_append, Text.digitsValue_append, hzero,
      Text.digitsValue_replicate_zero, digitsValue_digits, List.length_replicate, pow_succ]
    simp [mul_assoc]
  refine ReadsAs.of_parts _ ['0'] [] (zeros + 1) rfl ?_ hwholeDigits (by simp) rfl (by simp)
    hvalue ?_
  · exact List.append_ne_nil_of_left_ne_nil Nat.toDigits_ne_nil _
  · simp
    omega

/-- The point stands among the digits. -/
theorem readsAs_mixed (hfront : 0 < numeral.point)
    (hinside : numeral.point.toNat < numeral.digits.length) :
    ReadsAs (numeral.digits.take numeral.point.toNat ++
      '.' :: numeral.digits.drop numeral.point.toNat) numeral := by
  have hisDigit := isDigit_digits numeral
  have hpoint : numeral.point = numeral.scale + numeral.digits.length := rfl
  have hnonempty : numeral.digits.take numeral.point.toNat ≠ [] := by
    intro hempty
    have hnone := congrArg List.length hempty
    rw [List.length_take, List.length_nil] at hnone
    omega
  refine ReadsAs.of_parts (numeral.digits.take numeral.point.toNat)
    (numeral.digits.drop numeral.point.toNat) [] 0 (by simp) hnonempty
    (fun c hmem => hisDigit c (List.mem_of_mem_take hmem))
    (fun c hmem => hisDigit c (List.mem_of_mem_drop hmem)) rfl (by simp) ?_ ?_
  · rw [List.take_append_drop, digitsValue_digits]
    simp
  · simp
    omega

private theorem readsAs_positional : ReadsAs (positional numeral.digits numeral.point) numeral := by
  unfold positional
  split
  case isTrue hbehind => exact readsAs_fraction hbehind
  case isFalse hfront =>
    split
    case isTrue hbeyond => exact readsAs_whole hbeyond (not_le.mp hfront)
    case isFalse hinside => exact readsAs_mixed (not_le.mp hfront) (not_le.mp hinside)

private theorem readsAs_scientific : ReadsAs (scientific numeral.digits numeral.point) numeral := by
  have hisDigit := isDigit_digits numeral
  have hvalue := digitsValue_digits numeral
  have hpoint : numeral.point = numeral.scale + numeral.digits.length := rfl
  have hexponent := exponentPart?_toString (numeral.point - 1)
  have hstop : ∀ c ∈ ('e' :: (toString (numeral.point - 1)).toList).head?, c.isDigit = false := by
    simp
  unfold scientific
  match hshape : numeral.digits with
  | [] => exact absurd hshape Nat.toDigits_ne_nil
  | [leading] =>
      rw [hshape] at hisDigit hvalue hpoint
      intro negative
      refine ⟨numeral.significand, numeral.scale, numeral.positive, rfl, ?_⟩
      have hreads := read?_whole negative hisDigit (List.cons_ne_nil _ _) hexponent hstop (by simp)
      have hscale : numeral.point - 1 = numeral.scale := by
        rw [hpoint]
        simp
      rw [hvalue] at hreads
      rw [hscale] at hreads ⊢
      exact hreads
  | leading :: second :: rest =>
      rw [hshape] at hisDigit hvalue hpoint
      obtain ⟨hleadingDigit, hfractionDigits⟩ := List.forall_mem_cons.mp hisDigit
      have hwholeDigits : ∀ c ∈ [leading], c.isDigit := by simpa using hleadingDigit
      refine ReadsAs.of_parts [leading] (second :: rest) _ 0 rfl (List.cons_ne_nil _ _)
        hwholeDigits hfractionDigits hexponent hstop ?_ ?_
      · simpa using hvalue
      · rw [List.length_cons] at hpoint
        push_cast at hpoint
        omega

theorem readsAs_decimalText (numeral : Numeral) :
    ReadsAs (decimalText numeral.digits numeral.point) numeral := by
  unfold decimalText
  split
  · exact readsAs_positional
  · exact readsAs_scientific

end Reading

end CitationFile.Yaml.Number
