import CitationFile.Text.Ascii
import CitationFile.Text.Digit
import CitationFile.Text.Radix
import Mathlib.Data.List.TakeDrop
import Mathlib.Tactic.Positivity
import Mathlib.Tactic.Ring

namespace CitationFile.Text

theorem isDigit_of_isDecimalDigit {c : Char} (hdigit : isDecimalDigit c) (hascii : isAscii c) :
    c.isDigit := by
  have hzeros : ∀ first ∈ zeroDigits, first = 0x30 ∨ 0x80 ≤ first := by decide
  obtain ⟨first, hfirst, hwithin⟩ := List.any_eq_true.mp hdigit
  simp only [isAscii, decide_eq_true_eq] at hascii
  simp only [Bool.and_eq_true, decide_eq_true_eq] at hwithin
  rw [isDigit_iff]
  rcases hzeros first hfirst with rfl | hbeyond
  · omega
  · omega

theorem not_mem_toDigits {c : Char} (hc : c.isDigit = false) (number : Nat) :
    c ∉ Nat.toDigits 10 number := by
  intro hmem
  have hdigit := Nat.isDigit_of_mem_toDigits (by decide) (by decide) hmem
  rw [hc] at hdigit
  cases hdigit

theorem lt_pow_length_toDigits (number : Nat) : number < 10 ^ (Nat.toDigits 10 number).length :=
  (Nat.length_toDigits_le_iff (by decide) Nat.length_toDigits_pos).mp le_rfl

theorem pow_le_of_lt_length_toDigits {number count : Nat} (hpositive : 0 < number)
    (hless : count < (Nat.toDigits 10 number).length) : 10 ^ count ≤ number := by
  rcases count.eq_zero_or_pos with rfl | hsome
  · exact hpositive
  · exact not_lt.mp fun hbelow =>
      hless.not_ge ((Nat.length_toDigits_le_iff (by decide) hsome).mpr hbelow)

theorem digitChar_eq_zero_iff {digit : Nat} (hless : digit < 10) :
    digit.digitChar = '0' ↔ digit = 0 := by
  have hall : ∀ digit < 10, digit.digitChar = '0' ↔ digit = 0 := by decide
  exact hall digit hless

theorem toDigits_mul_pow {number : Nat} (hpositive : 0 < number) (zeros : Nat) :
    Nat.toDigits 10 (number * 10 ^ zeros) =
      Nat.toDigits 10 number ++ List.replicate zeros '0' := by
  induction zeros with
  | zero => simp
  | succ zeros ih =>
      have habove : 0 < number * 10 ^ zeros := by positivity
      have hstep := Nat.toDigits_append_toDigits (b := 10) (d := 0) (by decide) habove (by decide)
      rw [pow_succ, ← mul_assoc, mul_comm _ 10, ← Nat.add_zero (10 * _), ← hstep, ih,
        List.append_assoc, List.replicate_succ']
      rfl

theorem exists_toDigits_eq_cons {number : Nat} (hpositive : 0 < number) :
    ∃ first rest, Nat.toDigits 10 number = first :: rest ∧ first.isDigit ∧ first ≠ '0' := by
  induction number using Nat.strongRecOn with
  | ind number ih =>
      rcases Nat.lt_or_ge number 10 with hless | hatLeast
      · refine ⟨number.digitChar, [], Nat.toDigits_of_lt_base hless,
          Nat.isDigit_of_mem_toDigits (b := 10) (n := number) (by decide) (by decide) ?_, ?_⟩
        · simp [Nat.toDigits_of_lt_base hless]
        · rw [Ne, digitChar_eq_zero_iff hless]
          exact hpositive.ne'
      · obtain ⟨first, rest, hdigits, hdigit, hnonzero⟩ := ih (number / 10) (by omega) (by omega)
        refine ⟨first, rest ++ [(number % 10).digitChar], ?_, hdigit, hnonzero⟩
        rw [Nat.toDigits_of_base_le (by decide) hatLeast, hdigits, List.cons_append]

theorem getLast?_toDigits_ne_zero {number : Nat} (htrimmed : ¬ 10 ∣ number) :
    (Nat.toDigits 10 number).getLast? ≠ some '0' := by
  have hlastDigit : (number % 10).digitChar ≠ '0' := by
    rw [Ne, digitChar_eq_zero_iff (Nat.mod_lt _ (by decide)), ← Nat.dvd_iff_mod_eq_zero]
    exact htrimmed
  rcases Nat.lt_or_ge number 10 with hless | hatLeast
  · rw [Nat.mod_eq_of_lt hless] at hlastDigit
    simpa [Nat.toDigits_of_lt_base hless] using hlastDigit
  · simpa [Nat.toDigits_of_base_le (b := 10) (by decide) hatLeast] using hlastDigit

theorem digitsValue_append (front back : List Char) :
    digitsValue (front ++ back) = digitsValue front * 10 ^ back.length + digitsValue back := by
  have hshift : ∀ (digits : List Char) (start : Nat),
      digits.foldl (fun value c => value * 10 + (c.toNat - '0'.toNat)) start =
        start * 10 ^ digits.length + digitsValue digits := by
    intro digits
    induction digits with
    | nil => simp [digitsValue]
    | cons c digits ih =>
        intro start
        have hfirst : digitsValue (c :: digits) =
            (0 * 10 + (c.toNat - '0'.toNat)) * 10 ^ digits.length + digitsValue digits := ih _
        rw [List.foldl_cons, ih, hfirst, List.length_cons, pow_succ]
        ring
  rw [digitsValue, List.foldl_append, hshift]
  rfl

theorem digitsValue_replicate_zero (zeros : Nat) :
    digitsValue (List.replicate zeros '0') = 0 := by
  induction zeros with
  | zero => rfl
  | succ zeros ih => exact ih

theorem digitsValue_toDigits (number : Nat) : digitsValue (Nat.toDigits 10 number) = number := by
  have hvalue := Nat.ofDigitChars_ten_toDigits (n := number)
  rw [Nat.ofDigitChars_eq_foldl] at hvalue
  simpa [digitsValue, Nat.mul_comm] using hvalue

private theorem digitValue?_ten (c : Char) :
    digitValue? 10 c = if c.isDigit then some (c.toNat - '0'.toNat) else none := by
  unfold digitValue?
  split
  case isTrue hdigit =>
    simp only [Char.isDigit, Bool.and_eq_true, decide_eq_true_eq] at hdigit
    have hhigh : c.toNat ≤ 0x39 := hdigit.2
    have hzero : '0'.toNat = 0x30 := rfl
    rw [Option.filter_some, if_pos (decide_eq_true (by omega))]
  case isFalse hother =>
    split
    · simp
    · split <;> simp

private theorem isDigitIn_ten (c : Char) : isDigitIn 10 c = c.isDigit := by
  rw [isDigitIn, digitValue?_ten]
  cases c.isDigit <;> rfl

private theorem valueIn_ten {digits : List Char} (hall : ∀ c ∈ digits, c.isDigit) :
    valueIn 10 digits = digitsValue digits := by
  unfold valueIn digitsValue
  refine List.foldl_ext _ _ 0 fun value c hmem => ?_
  rw [digitValue?_ten, if_pos (hall c hmem), Option.getD_some]

theorem numberIn?_ten {text : List Char} :
    numberIn? 10 text =
      if text ≠ [] ∧ text.all Char.isDigit then some (digitsValue text) else none := by
  have hsame : isDigitIn 10 = Char.isDigit := funext isDigitIn_ten
  rw [numberIn?, hsame]
  refine ite_congr rfl (fun hdigits => ?_) fun _ => rfl
  rw [valueIn_ten (List.all_eq_true.mp hdigits.2)]

end CitationFile.Text
