import CitationFile.Author
import CitationFile.Proofs.Pieces
import CitationFile.Proofs.Unicode.Uppercase
import Mathlib.Data.List.Forall2

/-! Initials keep the structure of the names they stand for. Each word that has a letter becomes a
group, and each of its hyphenated pieces that has a letter becomes an initial of this group; words
and pieces without a letter leave no trace, so that no mark stands at an end or beside another one.
-/

namespace CitationFile

open Text Unicode

namespace Initials

def HasLetter (text : List Char) : Prop :=
  ∃ c ∈ text, isAlphabetic c

instance : DecidablePred HasLetter := fun text =>
  decidable_of_iff (text.any isAlphabetic) (by simp [HasLetter])

section Letters

variable {text : List Char} {pieces : List (List Char)}

theorem hasLetter_flatten_iff : HasLetter pieces.flatten ↔ ∃ piece ∈ pieces, HasLetter piece := by
  constructor
  · rintro ⟨c, hc, hletter⟩
    obtain ⟨piece, hpiece, hmem⟩ := List.mem_flatten.mp hc
    exact ⟨piece, hpiece, c, hmem, hletter⟩
  · rintro ⟨piece, hpiece, c, hc, hletter⟩
    exact ⟨c, List.mem_flatten.mpr ⟨piece, hpiece, hc⟩, hletter⟩

theorem hasLetter_filter_iff {keeps : Char → Bool} (h : ∀ c, isAlphabetic c → keeps c) :
    HasLetter (text.filter keeps) ↔ HasLetter text := by
  constructor
  · rintro ⟨c, hc, hletter⟩
    exact ⟨c, (List.mem_filter.mp hc).1, hletter⟩
  · rintro ⟨c, hc, hletter⟩
    exact ⟨c, List.mem_filter.mpr ⟨hc, h c hletter⟩, hletter⟩

theorem hasLetter_words_iff : (∃ word ∈ words text, HasLetter word) ↔ HasLetter text := by
  rw [← hasLetter_flatten_iff, flatten_words]
  apply hasLetter_filter_iff
  intro c hc
  simp [isBlank_of_isAlphabetic hc]

theorem hasLetter_splitOn_iff : (∃ piece ∈ text.splitOn '-', HasLetter piece) ↔ HasLetter text := by
  rw [← hasLetter_flatten_iff, List.splitOn_eq_splitOnP, flatten_splitOnP]
  apply hasLetter_filter_iff
  intro c hc
  have hhyphen : c ≠ '-' := by
    rintro rfl
    rw [isAlphabetic_hyphen] at hc
    cases hc
  simpa using hhyphen

end Letters

/-- The first letter of a piece in uppercase, and a full stop behind it. -/
def IsInitialOf (initial piece : List Char) : Prop :=
  ∃ before c after, piece = before ++ c :: after ∧ ¬ HasLetter before ∧ isAlphabetic c ∧
    initial = uppercase c ++ ['.']

/-- The initials of a word stand for its pieces that have a letter, one by one. -/
def IsGroupOf (group word : List Char) : Prop :=
  List.Forall₂ IsInitialOf (group.splitOn '-') ((word.splitOn '-').filter (HasLetter ·))

section Pieces

variable {piece initial word : List Char}

theorem ofPiece?_eq_none_iff : ofPiece? piece = none ↔ ¬ HasLetter piece := by
  simp [ofPiece?, HasLetter]

private theorem isInitialOf_of_ofPiece? (h : ofPiece? piece = some initial) :
    IsInitialOf initial piece := by
  obtain ⟨c, hfind, rfl⟩ := Option.map_eq_some_iff.mp h
  obtain ⟨hletter, before, after, rfl, hbefore⟩ := List.find?_eq_some_iff_append.mp hfind
  refine ⟨before, c, after, rfl, ?_, hletter, rfl⟩
  rintro ⟨d, hd, hfirst⟩
  have := hbefore d hd
  simp [hfirst] at this

theorem IsInitialOf.ne_nil (h : IsInitialOf initial piece) : initial ≠ [] := by
  obtain ⟨before, c, after, -, -, -, rfl⟩ := h
  simp

private theorem IsInitialOf.not_gap (h : IsInitialOf initial piece) {d : Char} (hd : d ∈ initial) :
    isBlank d = false ∧ d ≠ '-' := by
  obtain ⟨before, c, after, -, -, hletter, rfl⟩ := h
  cases List.mem_append.mp hd with
  | inl hmem => exact not_gap_of_mem_uppercase hletter hmem
  | inr hstop =>
      rw [List.mem_singleton.mp hstop]
      decide

def initialsOf (word : List Char) : List (List Char) :=
  (word.splitOn '-').filterMap ofPiece?

private theorem exists_piece_of_mem_initialsOf (h : initial ∈ initialsOf word) :
    ∃ piece, IsInitialOf initial piece := by
  obtain ⟨piece, -, hpiece⟩ := List.mem_filterMap.mp h
  exact ⟨piece, isInitialOf_of_ofPiece? hpiece⟩

theorem initialsOf_ne_nil_iff : initialsOf word ≠ [] ↔ HasLetter word := by
  rw [← hasLetter_splitOn_iff, ne_eq, initialsOf, List.filterMap_eq_nil_iff]
  simp only [ofPiece?_eq_none_iff, not_forall, not_not, exists_prop]

private theorem splitOn_ofWord (h : HasLetter word) :
    (ofWord word).splitOn '-' = initialsOf word := by
  apply List.splitOn_intercalate '-'
  · intro initial hinitial hmem
    obtain ⟨piece, hpiece⟩ := exists_piece_of_mem_initialsOf hinitial
    exact (hpiece.not_gap hmem).2 rfl
  · exact initialsOf_ne_nil_iff.mpr h

private theorem forall₂_filterMap (pieces : List (List Char)) :
    List.Forall₂ IsInitialOf (pieces.filterMap ofPiece?) (pieces.filter (HasLetter ·)) := by
  induction pieces with
  | nil => exact .nil
  | cons piece rest ih =>
      cases hinitial : ofPiece? piece with
      | none =>
          have hmute := ofPiece?_eq_none_iff.mp hinitial
          simpa [List.filterMap_cons, hinitial, hmute] using ih
      | some initial =>
          have hletter : HasLetter piece := by
            by_contra hmute
            rw [ofPiece?_eq_none_iff.mpr hmute] at hinitial
            cases hinitial
          simpa [List.filterMap_cons, hinitial, hletter] using
            List.Forall₂.cons (isInitialOf_of_ofPiece? hinitial) ih

private theorem ofWord_isGroupOf (h : HasLetter word) : IsGroupOf (ofWord word) word := by
  rw [IsGroupOf, splitOn_ofWord h]
  exact forall₂_filterMap (word.splitOn '-')

theorem ofWord_eq_nil_iff : ofWord word = [] ↔ ¬ HasLetter word := by
  constructor
  · intro hnone hletter
    have hsplit := splitOn_ofWord hletter
    rw [hnone, List.splitOn_nil] at hsplit
    have hmem : [] ∈ initialsOf word := by simp [← hsplit]
    obtain ⟨piece, hpiece⟩ := exists_piece_of_mem_initialsOf hmem
    exact hpiece.ne_nil rfl
  · intro hmute
    have hnone : initialsOf word = [] := by
      by_contra hsome
      exact hmute (initialsOf_ne_nil_iff.mp hsome)
    rw [ofWord, ← initialsOf, hnone]
    rfl

private theorem isBlank_of_mem_ofWord {d : Char} (hd : d ∈ ofWord word) : isBlank d = false := by
  rcases mem_intercalate hd with rfl | ⟨initial, hinitial, hmem⟩
  · decide
  · obtain ⟨piece, hpiece⟩ := exists_piece_of_mem_initialsOf hinitial
    exact (hpiece.not_gap hmem).1

end Pieces

def groupsOf (names : List Char) : List (List Char) :=
  ((words names).filter (HasLetter ·)).map ofWord

section Names

variable {names initials : List Char}

private theorem filter_map_ofWord (texts : List (List Char)) :
    (texts.map ofWord).filter (· ≠ []) = (texts.filter (HasLetter ·)).map ofWord := by
  rw [List.filter_map]
  congr 1
  apply List.filter_congr
  intro word _
  simp [ofWord_eq_nil_iff]

theorem groupsOf_eq_nil_iff : groupsOf names = [] ↔ ¬ HasLetter names := by
  rw [groupsOf, List.map_eq_nil_iff, List.filter_eq_nil_iff, ← hasLetter_words_iff]
  simp

theorem ofNames?_eq_none_iff : ofNames? names = none ↔ ¬ HasLetter names := by
  rw [← groupsOf_eq_nil_iff, ofNames?, filter_map_ofWord, ← groupsOf]
  cases groupsOf names <;> simp

private theorem eq_intercalate_of_ofNames? (h : ofNames? names = some initials) :
    groupsOf names ≠ [] ∧ initials = [' '].intercalate (groupsOf names) := by
  rw [ofNames?, filter_map_ofWord, ← groupsOf] at h
  cases hgroups : groupsOf names with
  | nil =>
      rw [hgroups] at h
      cases h
  | cons first rest =>
      rw [hgroups] at h
      cases h
      exact ⟨List.cons_ne_nil first rest, rfl⟩

private theorem exists_word_of_mem_groupsOf {group : List Char} (h : group ∈ groupsOf names) :
    ∃ word, HasLetter word ∧ group = ofWord word := by
  obtain ⟨word, hword, rfl⟩ := List.mem_map.mp h
  exact ⟨word, of_decide_eq_true (List.mem_filter.mp hword).2, rfl⟩

private theorem nil_not_mem_groupsOf (names : List Char) : [] ∉ groupsOf names := by
  intro hmem
  obtain ⟨word, hletter, hnone⟩ := exists_word_of_mem_groupsOf hmem
  exact ofWord_eq_nil_iff.mp hnone.symm hletter

private theorem isBlank_of_mem_groupsOf {group : List Char} (h : group ∈ groupsOf names) :
    ∀ c ∈ group, isBlank c = false := by
  obtain ⟨word, -, rfl⟩ := exists_word_of_mem_groupsOf h
  exact fun c => isBlank_of_mem_ofWord

private theorem splitOn_intercalate_groupsOf (h : groupsOf names ≠ []) :
    ([' '].intercalate (groupsOf names)).splitOn ' ' = groupsOf names := by
  refine List.splitOn_intercalate ' ' ?_ h
  intro group hgroup hspace
  have := isBlank_of_mem_groupsOf hgroup ' ' hspace
  exact absurd this (by decide)

private theorem groupsOf_correspond (names : List Char) :
    List.Forall₂ IsGroupOf (groupsOf names) ((words names).filter (HasLetter ·)) := by
  rw [groupsOf, List.forall₂_map_left_iff, List.forall₂_same]
  intro word hword
  exact ofWord_isGroupOf (of_decide_eq_true (List.mem_filter.mp hword).2)

/-- Initials of names: there are none just if the names have no letter. Otherwise their groups, with
one space between two of them, stand for the words that have a letter, one by one. -/
structure AbbreviatesTo (names : List Char) (initials? : Option (List Char)) : Prop where
  none_iff : initials? = none ↔ ¬ HasLetter names
  groups : ∀ initials, initials? = some initials →
    List.Forall₂ IsGroupOf (initials.splitOn ' ') ((words names).filter (HasLetter ·))
  words_eq : ∀ initials, initials? = some initials → words initials = initials.splitOn ' '
  tidy : ∀ initials, initials? = some initials →
    ∀ group ∈ initials.splitOn ' ', group ≠ [] ∧ [] ∉ group.splitOn '-'

theorem ofNames?_abbreviates (names : List Char) : AbbreviatesTo names (ofNames? names) := by
  refine ⟨ofNames?_eq_none_iff, ?_, ?_, ?_⟩
  · intro initials h
    obtain ⟨hsome, rfl⟩ := eq_intercalate_of_ofNames? h
    rw [splitOn_intercalate_groupsOf hsome]
    exact groupsOf_correspond names
  · intro initials h
    obtain ⟨hsome, rfl⟩ := eq_intercalate_of_ofNames? h
    rw [splitOn_intercalate_groupsOf hsome]
    exact words_intercalate hsome (nil_not_mem_groupsOf names) fun _ => isBlank_of_mem_groupsOf
  · intro initials h group hgroup
    obtain ⟨hsome, rfl⟩ := eq_intercalate_of_ofNames? h
    rw [splitOn_intercalate_groupsOf hsome] at hgroup
    obtain ⟨word, hletter, rfl⟩ := exists_word_of_mem_groupsOf hgroup
    refine ⟨fun hnone => ofWord_eq_nil_iff.mp hnone hletter, ?_⟩
    intro hmem
    rw [splitOn_ofWord hletter] at hmem
    obtain ⟨piece, hpiece⟩ := exists_piece_of_mem_initialsOf hmem
    exact hpiece.ne_nil rfl

end Names

end Initials

/-- The given names of a person are shortened word by word and piece by piece. -/
theorem Person.initials?_abbreviates {person : Person} {names : String}
    (h : person.givenNames = some names) :
    Initials.AbbreviatesTo names.toList (person.initials?.map String.toList) := by
  have hchars : String.toList ∘ String.ofList = id := funext fun _ => String.toList_ofList
  have hinitials : person.initials?.map String.toList = Initials.ofNames? names.toList := by
    rw [Person.initials?, h, Option.bind_some, Option.map_map, hchars, Option.map_id, id]
  rw [hinitials]
  exact Initials.ofNames?_abbreviates names.toList

def hyphenatedPerson : Person :=
  { familyNames := "Picard", givenNames := some "-jean--luc (de) 3 x" }

theorem hyphenatedPerson_abbreviates :
    hyphenatedPerson.givenNames = some "-jean--luc (de) 3 x" ∧
      hyphenatedPerson.initials? = some "J.-L. D. X." ∧
      Initials.AbbreviatesTo "-jean--luc (de) 3 x".toList (some "J.-L. D. X.".toList) := by
  have hinitials : hyphenatedPerson.initials? = some "J.-L. D. X." := by decide +kernel
  have habbreviates := @Person.initials?_abbreviates hyphenatedPerson _ rfl
  rw [hinitials] at habbreviates
  exact ⟨rfl, hinitials, habbreviates⟩

end CitationFile
