import CitationFile.Bibtex.CiteKey
import CitationFile.Proofs.Pieces
import CitationFile.Proofs.Unicode.Letter

/-! The word of a title that goes into a cite key. It is the first significant word or, in a title
without one, the first word that has a letter or digit, except where such a title opens with a word
that has none: an empty word is given then. -/

namespace CitationFile.Bibtex

open Text Unicode

private theorem flatMap_cleanForm_words (title : List Char) :
    (words title).flatMap cleanForm = cleanForm title := by
  have hwords : (words title).flatMap cleanForm = cleanForm (words title).flatten :=
    List.filter_flatten.symm
  rw [hwords, flatten_words, cleanForm, List.filter_filter]
  apply List.filter_congr
  intro c _
  cases hblank : isBlank c with
  | false => simp
  | true => simp [isAlphanumeric_of_isBlank hblank]

theorem cleanForm_eq_nil_iff {word : List Char} :
    cleanForm word = [] ↔ ∀ c ∈ word, isAlphanumeric c = false := by
  simp [cleanForm, List.filter_eq_nil_iff]

theorem cleanForms_eq_nil_iff {title : List Char} :
    (∀ word ∈ words title, cleanForm word = []) ↔ ∀ c ∈ title, isAlphanumeric c = false := by
  rw [← cleanForm_eq_nil_iff, ← flatMap_cleanForm_words, List.flatMap_eq_nil_iff]

def IsSignificant (word : List Char) : Prop :=
  cleanForm word ≠ [] ∧ ¬ isStopword (cleanForm word)

instance (word : List Char) : Decidable (IsSignificant word) :=
  inferInstanceAs (Decidable (_ ∧ _))

/-- The first significant word or, where there is none, the first one that has a letter or digit. -/
inductive IsTitleWord (title : List Char) : List Char → Prop
  | significant {before after : List (List Char)} {word : List Char}
      (hwritten : words title = before ++ word :: after)
      (hpassed : ∀ other ∈ before, ¬ IsSignificant other) (hfound : IsSignificant word) :
      IsTitleWord title (cleanForm word)
  | fallback {before after : List (List Char)} {word : List Char}
      (hwritten : words title = before ++ word :: after)
      (hinsignificant : ∀ other ∈ words title, ¬ IsSignificant other)
      (hpassed : ∀ other ∈ before, cleanForm other = []) (hfilled : cleanForm word ≠ []) :
      IsTitleWord title (cleanForm word)

theorem IsTitleWord.ne_nil {title form : List Char} (h : IsTitleWord title form) : form ≠ [] := by
  cases h with
  | significant _ _ hfound => exact hfound.1
  | fallback _ _ _ hfilled => exact hfilled

private theorem significantWord?_eq (title : List Char) :
    significantWord? title =
      (((words title).find? (decide <| IsSignificant ·)).map cleanForm <|>
        (words title).head?.map cleanForm) := by
  have hcondition : (fun form : List Char => decide (form ≠ [] ∧ !isStopword form)) ∘ cleanForm =
      fun word => decide (IsSignificant word) := by
    funext word
    simp [IsSignificant]
  rw [significantWord?, List.find?_map, hcondition, List.head?_map]

private theorem significantWord?_of_found {title word : List Char}
    (h : (words title).find? (decide <| IsSignificant ·) = some word) :
    significantWord? title = some (cleanForm word) := by
  rw [significantWord?_eq, h]
  rfl

private theorem significantWord?_of_not_found {title : List Char}
    (h : ∀ word ∈ words title, ¬ IsSignificant word) :
    significantWord? title = (words title).head?.map cleanForm := by
  have hfind : (words title).find? (decide <| IsSignificant ·) = none := by simpa using h
  rw [significantWord?_eq, hfind]
  rfl

theorem find?_isSignificant_eq_some_iff {title word : List Char} :
    (words title).find? (decide <| IsSignificant ·) = some word ↔
      IsSignificant word ∧ ∃ before after, words title = before ++ word :: after ∧
        ∀ other ∈ before, ¬ IsSignificant other := by
  simp [List.find?_eq_some_iff_append]

private theorem exists_find?_of_isSignificant {title : List Char}
    (h : ∃ word ∈ words title, IsSignificant word) :
    ∃ word, (words title).find? (decide <| IsSignificant ·) = some word := by
  rw [← Option.isSome_iff_exists, List.find?_isSome]
  simpa using h

/-- Whether a title has a significant word, or else a letter or digit in its first word. -/
def IsTelling (title : List Char) : Prop :=
  (∃ word ∈ words title, IsSignificant word) ∨ ∀ word ∈ (words title).head?, cleanForm word ≠ []

theorem IsTelling.significantWord?_eq_some_iff {title form : List Char} (h : IsTelling title) :
    significantWord? title = some form ↔ IsTitleWord title form := by
  constructor
  · intro hform
    by_cases hany : ∃ word ∈ words title, IsSignificant word
    · obtain ⟨word, hfind⟩ := exists_find?_of_isSignificant hany
      obtain ⟨hfound, before, after, hwritten, hpassed⟩ := find?_isSignificant_eq_some_iff.mp hfind
      rw [significantWord?_of_found hfind] at hform
      cases hform
      exact .significant hwritten hpassed hfound
    · have hnone : ∀ word ∈ words title, ¬ IsSignificant word := by simpa using hany
      rw [significantWord?_of_not_found hnone, Option.map_eq_some_iff] at hform
      obtain ⟨first, hfirst, rfl⟩ := hform
      obtain ⟨after, hwritten⟩ := List.head?_eq_some_iff.mp hfirst
      rw [← List.nil_append (first :: after)] at hwritten
      exact .fallback hwritten hnone (by simp) (h.resolve_left hany first hfirst)
  · rintro (⟨hwritten, hpassed, hfound⟩ | ⟨hwritten, hnone, hpassed, hfilled⟩)
    · exact significantWord?_of_found
        (find?_isSignificant_eq_some_iff.mpr ⟨hfound, _, _, hwritten, hpassed⟩)
    · rename_i before after word
      have hany : ¬ ∃ word ∈ words title, IsSignificant word := by simpa using hnone
      -- No word can stand before this one: the first word has a letter or digit already.
      have hfront : before = [] := by
        cases before with
        | nil => rfl
        | cons first rest =>
            exact absurd (hpassed first (by simp)) (h.resolve_left hany first (by simp [hwritten]))
      rw [significantWord?_of_not_found hnone, hwritten, hfront]
      rfl

theorem significantWord?_eq_none_iff {title : List Char} :
    significantWord? title = none ↔ words title = [] := by
  cases hwords : words title with
  | nil => simp [significantWord?, hwords]
  | cons first rest =>
      simp only [reduceCtorEq, iff_false]
      intro hnone
      by_cases hany : ∃ word ∈ words title, IsSignificant word
      · obtain ⟨word, hfind⟩ := exists_find?_of_isSignificant hany
        simp [significantWord?_of_found hfind] at hnone
      · have hinsignificant : ∀ word ∈ words title, ¬ IsSignificant word := by simpa using hany
        simp [significantWord?_of_not_found hinsignificant, hwords] at hnone

theorem IsTelling.words_eq_nil_iff {title : List Char} (h : IsTelling title) :
    words title = [] ↔ ∀ word ∈ words title, cleanForm word = [] := by
  constructor
  · intro hnone
    simp [hnone]
  · intro hmute
    have hany : ¬ ∃ word ∈ words title, IsSignificant word := by
      rintro ⟨word, hword, hfilled, -⟩
      exact hfilled (hmute word hword)
    cases hwords : words title with
    | nil => rfl
    | cons first rest =>
        have hfirst : first ∈ words title := by simp [hwords]
        exact absurd (hmute first hfirst) (h.resolve_left hany first (by simp [hwords]))

theorem significantWord?_eq_some_nil_iff {title : List Char} :
    significantWord? title = some [] ↔ ¬ IsTelling title := by
  constructor
  · intro hempty htelling
    exact (htelling.significantWord?_eq_some_iff.mp hempty).ne_nil rfl
  · intro hmute
    rw [IsTelling, not_or] at hmute
    obtain ⟨hany, hstart⟩ := hmute
    have hnone : ∀ word ∈ words title, ¬ IsSignificant word := by simpa using hany
    obtain ⟨first, hfirst, hempty⟩ : ∃ word ∈ (words title).head?, cleanForm word = [] := by
      simpa using hstart
    rw [significantWord?_of_not_found hnone, hfirst, Option.map_some, hempty]

/-- The word of a title is the one that counts, and there is none just if the title has neither a
letter nor a digit. -/
structure FindsTitleWord (title : List Char) : Prop where
  some_iff : ∀ form, significantWord? title = some form ↔ IsTitleWord title form
  none_iff : significantWord? title = none ↔ ∀ c ∈ title, isAlphanumeric c = false

/-- The right word is found exactly in the telling titles; in all others an empty word is given. -/
theorem significantWord?_found_iff (title : List Char) :
    (FindsTitleWord title ↔ IsTelling title) ∧
      (significantWord? title = some [] ↔ ¬ IsTelling title) := by
  refine ⟨⟨?_, ?_⟩, significantWord?_eq_some_nil_iff⟩
  · intro hfinds
    apply Classical.byContradiction
    intro hmute
    have hempty := significantWord?_eq_some_nil_iff.mpr hmute
    exact ((hfinds.some_iff []).mp hempty).ne_nil rfl
  · intro htelling
    refine ⟨fun form => htelling.significantWord?_eq_some_iff, ?_⟩
    rw [significantWord?_eq_none_iff, htelling.words_eq_nil_iff, cleanForms_eq_nil_iff]

/-- No word of this title is significant, and its first one is a dash. -/
def dashedTitle : String := "- The"

theorem dashedTitle_not_found :
    significantWord? dashedTitle.toList = some [] ∧ IsTitleWord dashedTitle.toList "The".toList ∧
      ¬ FindsTitleWord dashedTitle.toList ∧
      citeKeyFor none none (some dashedTitle) = "Unknown" := by
  have hempty : significantWord? dashedTitle.toList = some [] := by decide +kernel
  have hwritten : words dashedTitle.toList = ["-".toList] ++ "The".toList :: [] := by
    decide +kernel
  have hword : IsTitleWord dashedTitle.toList (cleanForm "The".toList) :=
    .fallback hwritten (by decide +kernel) (by decide) (by decide)
  refine ⟨hempty, hword, ?_, by decide +kernel⟩
  intro hfinds
  exact ((hfinds.some_iff []).mp hempty).ne_nil rfl

end CitationFile.Bibtex
