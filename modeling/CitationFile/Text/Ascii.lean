namespace CitationFile.Text

def isAscii (c : Char) : Bool :=
  c.toNat < 0x80

def asciiLower (text : List Char) : List Char :=
  text.map Char.toLower

theorem isUpper_iff {c : Char} : c.isUpper ↔ 0x41 ≤ c.toNat ∧ c.toNat ≤ 0x5A :=
  decide_eq_true_iff.trans (and_congr UInt32.le_iff_toNat_le UInt32.le_iff_toNat_le)

theorem isLower_iff {c : Char} : c.isLower ↔ 0x61 ≤ c.toNat ∧ c.toNat ≤ 0x7A :=
  Bool.and_eq_true_iff.trans (and_congr
    (decide_eq_true_iff.trans UInt32.le_iff_toNat_le)
    (decide_eq_true_iff.trans UInt32.le_iff_toNat_le))

theorem isAlpha_iff {c : Char} : c.isAlpha ↔ c.isUpper ∨ c.isLower :=
  Bool.or_eq_true_iff

theorem isDigit_iff {c : Char} : c.isDigit ↔ 0x30 ≤ c.toNat ∧ c.toNat ≤ 0x39 :=
  Char.isDigit_iff_toNat

theorem isAlphanum_iff {c : Char} : c.isAlphanum ↔ c.isAlpha ∨ c.isDigit :=
  Bool.or_eq_true_iff

theorem toNat_toLower (c : Char) :
    c.toLower.toNat = if c.isUpper then c.toNat + 0x20 else c.toNat := by
  have hrange : c.isUpper ↔ c.val ≥ 'A'.val ∧ c.val ≤ 'Z'.val := decide_eq_true_iff
  unfold Char.toLower
  split
  case isTrue hinside =>
    have hcode := isUpper_iff.mp (hrange.mpr hinside)
    have hshift : (c.val + ('a'.val - 'A'.val)).toNat = c.toNat + 0x20 := by
      rw [UInt32.toNat_add]
      simp
      omega
    rw [if_pos (hrange.mpr hinside)]
    exact hshift
  case isFalse houtside => rw [if_neg (mt hrange.mp houtside)]

theorem toNat_toUpper (c : Char) :
    c.toUpper.toNat = if c.isLower then c.toNat - 0x20 else c.toNat := by
  have hrange : c.isLower ↔ 'a'.val ≤ c.val ∧ c.val ≤ 'z'.val :=
    Bool.and_eq_true_iff.trans (and_congr decide_eq_true_iff decide_eq_true_iff)
  unfold Char.toUpper
  split
  case isTrue hinside =>
    have hcode := isLower_iff.mp (hrange.mpr hinside)
    have hshift : (c.val + ('A'.val - 'a'.val)).toNat = c.toNat - 0x20 := by
      rw [UInt32.toNat_add]
      simp
      omega
    rw [if_pos (hrange.mpr hinside)]
    exact hshift
  case isFalse houtside => rw [if_neg (mt hrange.mp houtside)]

theorem toLower_of_not_isUpper {c : Char} (h : ¬ c.isUpper) : c.toLower = c := by
  rw [← Char.toNat_inj, toNat_toLower, if_neg h]

theorem isAlpha_toLower (c : Char) : c.toLower.isAlpha = c.isAlpha := by
  rw [Bool.eq_iff_iff]
  simp only [isAlpha_iff, isUpper_iff, isLower_iff, toNat_toLower]
  split <;> omega

theorem isAlphanum_toLower (c : Char) : c.toLower.isAlphanum = c.isAlphanum := by
  rw [Bool.eq_iff_iff]
  simp only [isAlphanum_iff, isAlpha_iff, isUpper_iff, isLower_iff, isDigit_iff, toNat_toLower]
  split <;> omega

theorem isAlphanum_toUpper (c : Char) : c.toUpper.isAlphanum = c.isAlphanum := by
  rw [Bool.eq_iff_iff]
  simp only [isAlphanum_iff, isAlpha_iff, isUpper_iff, isLower_iff, isDigit_iff, toNat_toUpper]
  split <;> omega

def equalIgnoringCase (left right : List Char) : Bool :=
  asciiLower left = asciiLower right

def capitalise : List Char → List Char
  | [] => []
  | c :: rest => c.toUpper :: rest

def dropOpening? (opening text : List Char) : Option (List Char) :=
  if opening.isPrefixOf text then some (text.drop opening.length) else none

theorem dropOpening?_eq_some_iff {opening text rest : List Char} :
    dropOpening? opening text = some rest ↔ text = opening ++ rest := by
  unfold dropOpening?
  constructor
  · intro h
    split at h
    · rename_i hopens
      obtain ⟨tail, rfl⟩ := List.isPrefixOf_iff_prefix.mp hopens
      simpa using h
    · simp at h
  · rintro rfl
    simp

theorem dropOpening?_cons (c : Char) (rest : List Char) :
    dropOpening? [c] (c :: rest) = some rest :=
  dropOpening?_eq_some_iff.mpr rfl

theorem dropOpening?_cons_of_ne {c d : Char} (h : c ≠ d) (rest : List Char) :
    dropOpening? [c] (d :: rest) = none := by
  simp [dropOpening?, h]

/-- The rest of a text behind a fixed opening in any mix of cases; `opening` is in lowercase. -/
def dropOpeningIgnoringCase? (opening text : List Char) : Option (List Char) :=
  if opening.isPrefixOf (asciiLower text) then some (text.drop opening.length) else none

theorem dropOpeningIgnoringCase?_eq_some_iff {opening text rest : List Char} :
    dropOpeningIgnoringCase? opening text = some rest ↔
      ∃ mark, asciiLower mark = opening ∧ text = mark ++ rest := by
  unfold dropOpeningIgnoringCase?
  constructor
  · intro h
    split at h
    · rename_i hopens
      cases h
      refine ⟨text.take opening.length, ?_, (List.take_append_drop _ _).symm⟩
      rw [asciiLower, List.map_take]
      exact (List.prefix_iff_eq_take.mp (List.isPrefixOf_iff_prefix.mp hopens)).symm
    · simp at h
  · rintro ⟨mark, rfl, rfl⟩
    simp [asciiLower, List.isPrefixOf_iff_prefix]

end CitationFile.Text
