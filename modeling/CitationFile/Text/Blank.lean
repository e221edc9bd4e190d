import CitationFile.Text.Ascii

/-! Blank characters are those with the White_Space property, and words are the longest stretches
without one. `trim` takes blanks off both ends. -/

namespace CitationFile.Text

def isBlank (c : Char) : Bool :=
  let code := c.toNat
  (9 ≤ code && code ≤ 13) || code = 0x20 || code = 0x85 || code = 0xA0 || code = 0x1680 ||
    (0x2000 ≤ code && code ≤ 0x200A) || code = 0x2028 || code = 0x2029 || code = 0x202F ||
    code = 0x205F || code = 0x3000

theorem isBlank_eq_false {c : Char} (hlower : 32 < c.toNat) (hupper : c.toNat < 127) :
    isBlank c = false := by
  simp only [isBlank, Bool.or_eq_false_iff, Bool.and_eq_false_iff, decide_eq_false_iff_not]
  omega

theorem toNat_of_isAlphanum {c : Char} (h : c.isAlphanum) : 0x30 ≤ c.toNat ∧ c.toNat ≤ 0x7A := by
  simp only [isAlphanum_iff, isAlpha_iff, isUpper_iff, isLower_iff, isDigit_iff] at h
  omega

theorem isBlank_of_isAlphanum {c : Char} (h : c.isAlphanum) : isBlank c = false := by
  have hrange := toNat_of_isAlphanum h
  exact isBlank_eq_false (by omega) (by omega)

theorem ne_of_class {p : Char → Bool} {c d : Char} (hc : p c) (hd : p d = false) : c ≠ d := by
  rintro rfl
  rw [hc] at hd
  cases hd

theorem takeWhile_append_cons {p : Char → Bool} {word : List Char} {c : Char}
    (hword : ∀ d ∈ word, p d) (hc : p c = false) (rest : List Char) :
    (word ++ c :: rest).takeWhile p = word := by
  rw [List.takeWhile_append_of_pos hword, List.takeWhile_cons_of_neg (by simp [hc]),
    List.append_nil]

theorem dropWhile_append_cons {p : Char → Bool} {word : List Char} {c : Char}
    (hword : ∀ d ∈ word, p d) (hc : p c = false) (rest : List Char) :
    (word ++ c :: rest).dropWhile p = c :: rest := by
  rw [List.dropWhile_append_of_pos hword, List.dropWhile_cons_of_neg (by simp [hc])]

def trimStart (text : List Char) : List Char :=
  text.dropWhile isBlank

theorem trimStart_cons_of_isBlank {c : Char} (h : isBlank c) (rest : List Char) :
    trimStart (c :: rest) = trimStart rest :=
  List.dropWhile_cons_of_pos h

theorem trimStart_cons {c : Char} (h : isBlank c = false) (rest : List Char) :
    trimStart (c :: rest) = c :: rest := by
  rw [trimStart, List.dropWhile_cons_of_neg (by simp [h])]

theorem length_trimStart_le (text : List Char) : (trimStart text).length ≤ text.length :=
  (List.dropWhile_suffix isBlank).length_le

theorem trimStart_eq_self_iff {text : List Char} :
    trimStart text = text ↔ ∀ c ∈ text.head?, isBlank c = false := by
  cases text with
  | nil => simp [trimStart]
  | cons c rest =>
      cases hc : isBlank c with
      | false => simp [trimStart_cons hc, hc]
      | true =>
          have hshorter : trimStart rest ≠ c :: rest := by
            intro heq
            have hlength := length_trimStart_le rest
            rw [heq, List.length_cons] at hlength
            omega
          simp [trimStart_cons_of_isBlank hc, hshorter, hc]

def dropEndWhile (drops : Char → Bool) (text : List Char) : List Char :=
  (text.reverse.dropWhile drops).reverse

def trimEnd (text : List Char) : List Char :=
  dropEndWhile isBlank text

def trim (text : List Char) : List Char :=
  trimEnd (trimStart text)

def IsBlank (text : List Char) : Prop :=
  ∀ c ∈ text, isBlank c

instance (text : List Char) : Decidable (IsBlank text) :=
  List.decidableBAll (fun c => isBlank c) text

def words (text : List Char) : List (List Char) :=
  (text.splitOnP isBlank).filter (· ≠ [])

end CitationFile.Text
