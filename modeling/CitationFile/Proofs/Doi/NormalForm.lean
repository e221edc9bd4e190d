import CitationFile.Proofs.Doi.Openings
import CitationFile.Text.Width

/-! The normal form of a DOI: what stands between the blanks and openings in front of it and the
blanks and punctuation behind it. Openings never matter to it. Taking it a second time changes it
exactly if the punctuation stands behind a blank, which is then left at the end. -/

namespace CitationFile

namespace Text

variable {drops : Char → Bool}

private theorem dropEndWhile_append_of_forall {behind : List Char} (h : ∀ c ∈ behind, drops c)
    (text : List Char) : dropEndWhile drops (text ++ behind) = dropEndWhile drops text := by
  rw [dropEndWhile, List.reverse_append, List.dropWhile_append_of_pos (by simpa using h),
    dropEndWhile]

private theorem dropEndWhile_append_of_exists {behind : List Char}
    (h : ∃ c ∈ behind, drops c = false) (text : List Char) :
    dropEndWhile drops (text ++ behind) = text ++ dropEndWhile drops behind := by
  have hkept : (behind.reverse.dropWhile drops).isEmpty = false := by
    simpa [List.isEmpty_eq_false_iff, List.dropWhile_eq_nil_iff] using h
  rw [dropEndWhile, List.reverse_append, List.dropWhile_append, hkept, if_neg Bool.false_ne_true,
    List.reverse_append, List.reverse_reverse, dropEndWhile]

private theorem isPrefix_dropEndWhile (drops : Char → Bool) (text : List Char) :
    dropEndWhile drops text <+: text :=
  List.rdropWhile_prefix drops text

theorem exists_eq_dropEndWhile_append (drops : Char → Bool) (text : List Char) :
    ∃ behind, (∀ c ∈ behind, drops c) ∧ text = dropEndWhile drops text ++ behind :=
  ⟨text.rtakeWhile drops, fun _ hc => List.mem_rtakeWhile_imp hc,
    List.rdropWhile_append_rtakeWhile.symm⟩

theorem dropEndWhile_eq_self_iff {text : List Char} :
    dropEndWhile drops text = text ↔ ∀ c ∈ text.getLast?, drops c = false := by
  rw [show dropEndWhile drops text = text.rdropWhile drops from rfl, List.rdropWhile_eq_self_iff]
  cases text using List.reverseRecOn with
  | nil => simp
  | append_singleton front last => simp

private theorem getLast?_dropEndWhile (drops : Char → Bool) (text : List Char) :
    ∀ c ∈ (dropEndWhile drops text).getLast?, drops c = false :=
  dropEndWhile_eq_self_iff.mp (List.rdropWhile_idempotent drops text)

private theorem trimStart_of_isPrefix {text front : List Char} (h : trimStart text = text)
    (hfront : front <+: text) : trimStart front = front := by
  obtain ⟨rest, rfl⟩ := hfront
  rw [trimStart_eq_self_iff] at h ⊢
  exact fun c hc => h c (List.mem_head?_append_of_mem_head? hc)

end Text

namespace Doi

open Text

private theorem trimEnd_of_isBlank {text : List Char} (h : IsBlank text) : trimEnd text = [] := by
  have hall := dropEndWhile_append_of_forall h []
  rwa [List.nil_append] at hall

theorem trimEnd_opening_append {mark : List Char} (h : IsOpening mark) (rest : List Char) :
    trimEnd (mark ++ rest) = mark ++ trimEnd rest := by
  by_cases hblank : IsBlank rest
  · have hmark : trimEnd mark = mark :=
      dropEndWhile_eq_self_iff.mpr fun c hc => h.isBlank_of_mem (List.mem_of_mem_getLast? hc)
    rw [trimEnd_of_isBlank hblank, List.append_nil, trimEnd, dropEndWhile_append_of_forall hblank,
      ← trimEnd, hmark]
  · exact dropEndWhile_append_of_exists (by simpa [IsBlank] using hblank) mark

private theorem strip_trimEnd (text : List Char) : strip (trimEnd text) = trimEnd (strip text) := by
  obtain ⟨lead, hlead, htext⟩ := exists_lead_strip text
  have hcore := isBare_strip text
  generalize strip text = core at htext hcore ⊢
  subst htext
  induction hlead with
  | nil => exact (hcore.of_isPrefix (isPrefix_dropEndWhile isBlank core)).strip
  | @blank c rest hc _ ih =>
      by_cases hblank : IsBlank (rest ++ core)
      · have hwhole : IsBlank (c :: rest ++ core) := List.forall_mem_cons.mpr ⟨hc, hblank⟩
        rw [trimEnd_of_isBlank hwhole, ← ih, trimEnd_of_isBlank hblank]
      · have hkept : trimEnd ([c] ++ (rest ++ core)) = [c] ++ trimEnd (rest ++ core) :=
          dropEndWhile_append_of_exists (by simpa [IsBlank] using hblank) [c]
        rw [List.cons_append, ← List.singleton_append, hkept, List.singleton_append,
          strip_blank hc, ih]
  | opening hmark _ ih =>
      rw [List.append_assoc, trimEnd_opening_append hmark, strip_opening hmark, ih]

private theorem dropOpenings_trim (text : List Char) :
    dropOpenings (trim text) = trimEnd (strip text) := by
  have htwice : trimStart (trimStart text) = trimStart text := List.dropWhile_idempotent _ _
  have htrimmed : trimStart (trim text) = trim text :=
    trimStart_of_isPrefix htwice (isPrefix_dropEndWhile isBlank _)
  have hstrip : strip (trimStart text) = strip text := by rw [strip, htwice, ← strip]
  calc
    dropOpenings (trim text) = strip (trim text) := by rw [strip, htrimmed]
    _ = trimEnd (strip (trimStart text)) := strip_trimEnd (trimStart text)
    _ = trimEnd (strip text) := by rw [hstrip]

private theorem normalChars_eq (text : List Char) :
    normalChars text = dropEndWhile isTrailing (trimEnd (strip text)) := by
  rw [normalChars, dropOpenings_trim]

private theorem IsBare.normalChars_eq {text : List Char} (h : IsBare text) :
    normalChars text = dropEndWhile isTrailing (trimEnd text) := by
  rw [Doi.normalChars_eq, h.strip]

private theorem isBare_normalChars (text : List Char) : IsBare (normalChars text) := by
  rw [normalChars_eq]
  exact (isBare_strip text).of_isPrefix
    ((isPrefix_dropEndWhile isTrailing _).trans (isPrefix_dropEndWhile isBlank _))

theorem IsLead.normalChars_append {lead : List Char} (h : IsLead lead) (rest : List Char) :
    normalChars (lead ++ rest) = normalChars rest := by
  rw [normalChars_eq, h.strip_append, ← normalChars_eq]

/-- What a text is made of: blanks and openings, its normal form, punctuation and blanks. -/
theorem exists_eq_normalChars (text : List Char) :
    ∃ lead marks after, IsLead lead ∧ (∀ c ∈ marks, isTrailing c) ∧ IsBlank after ∧
      text = lead ++ normalChars text ++ marks ++ after ∧
      trimEnd (strip text) = normalChars text ++ marks := by
  obtain ⟨lead, hlead, htext⟩ := exists_lead_strip text
  obtain ⟨after, hafter, hcore⟩ := exists_eq_dropEndWhile_append isBlank (strip text)
  obtain ⟨marks, hmarks, hbody⟩ := exists_eq_dropEndWhile_append isTrailing (trimEnd (strip text))
  rw [← normalChars_eq] at hbody
  refine ⟨lead, marks, after, hlead, hmarks, hafter, ?_, hbody⟩
  rw [List.append_assoc lead, ← hbody, List.append_assoc, trimEnd, ← hcore, ← htext]

/-- A piece of a text with neither blanks nor openings in front, in any mix of cases, and without
punctuation at its end. -/
structure IsFormOf (text form : List Char) : Prop where
  piece : form <:+: text
  unspaced : ∀ c ∈ form.head?, isBlank c = false
  unopened : ∀ mark, IsOpening mark → ¬ mark <+: form
  unmarked : ∀ c ∈ form.getLast?, c ≠ '.' ∧ c ≠ ',' ∧ c ≠ ';'

theorem isFormOf_normalChars (text : List Char) : IsFormOf text (normalChars text) where
  piece := by
    obtain ⟨lead, marks, after, -, -, -, htext, -⟩ := exists_eq_normalChars text
    exact ⟨lead, marks ++ after, by rw [← List.append_assoc, ← htext]⟩
  unspaced := (isBare_normalChars text).unspaced
  unopened := (isBare_normalChars text).unopened
  unmarked c hc := by
    rw [normalChars_eq] at hc
    simpa [isTrailing, and_assoc] using getLast?_dropEndWhile isTrailing _ c hc

/-- Blanks and openings in front never matter. The form comes of a loop that ends on every text and
cuts it between characters only, and has none of what is taken away. -/
theorem normal_behind_opening (doi : String) :
    (∀ before mark behind : String, IsBlank before.toList → IsOpening mark.toList →
      IsBlank behind.toList → normal (before ++ mark ++ behind ++ doi) = normal doi) ∧
    StripsTo (trim doi.toList) (dropOpenings (trim doi.toList)) ∧
    IsFormOf doi.toList (normal doi).toList := by
  refine ⟨?_, stripsTo_dropOpenings _, ?_⟩
  · intro before mark behind hbefore hmark hbehind
    have hlead : IsLead (before.toList ++ (mark.toList ++ behind.toList)) :=
      (isLead_of_isBlank hbefore).append (.opening hmark (isLead_of_isBlank hbehind))
    rw [normal, normal, String.toList_append, String.toList_append, String.toList_append,
      List.append_assoc before.toList, hlead.normalChars_append]
  · rw [normal, String.toList_ofList]
    exact isFormOf_normalChars doi.toList

/-- A no-break space, an opening in mixed cases and a tab, in front of two more openings. -/
theorem stackedText_normal :
    IsBlank "\u00A0".toList ∧ IsOpening "Https://DX.doi.org/".toList ∧ IsBlank "\t".toList ∧
      normal ("\u00A0" ++ "Https://DX.doi.org/" ++ "\t" ++ "doi: DOI/10.1000/A.,") =
        normal "doi: DOI/10.1000/A.," ∧
      normal "doi: DOI/10.1000/A.," = "10.1000/A" := by
  have hbefore : IsBlank "\u00A0".toList := by decide
  have hmark : IsOpening "Https://DX.doi.org/".toList := by decide
  have hbehind : IsBlank "\t".toList := by decide
  exact ⟨hbefore, hmark, hbehind,
    (normal_behind_opening "doi: DOI/10.1000/A.,").1 _ _ _ hbefore hmark hbehind,
    by decide +kernel⟩

/-! Taking the form a second time. -/

theorem normalChars_normalChars (text : List Char) :
    normalChars (normalChars text) = normalChars text ↔
      ∀ c ∈ (normalChars text).getLast?, isBlank c = false := by
  have hform : dropEndWhile isTrailing (normalChars text) = normalChars text := by
    rw [normalChars_eq]
    exact List.rdropWhile_idempotent isTrailing _
  rw [(isBare_normalChars text).normalChars_eq, ← dropEndWhile_eq_self_iff, ← trimEnd]
  constructor
  · intro h
    -- Both cuts are at the end, so that neither takes anything away.
    have hshort := (isPrefix_dropEndWhile isTrailing (trimEnd (normalChars text))).length_le
    rw [h] at hshort
    exact (isPrefix_dropEndWhile isBlank _).eq_of_length_le hshort
  · intro h
    rw [h, hform]

/-- Whether the punctuation at the end stands behind a blank, and both behind more than blanks and
openings. -/
def HasLooseEnding (text : List Char) : Prop :=
  ∃ before blank marks after, text = before ++ blank :: (marks ++ after) ∧ ¬ IsLead before ∧
    isBlank blank ∧ marks ≠ [] ∧ (∀ c ∈ marks, isTrailing c) ∧ IsBlank after

private theorem isBlank_of_isTrailing {c : Char} (h : isTrailing c) : isBlank c = false := by
  simp only [isTrailing, Bool.or_eq_true, decide_eq_true_eq] at h
  rcases h with (rfl | rfl) | rfl <;> decide

private theorem isBare_of_isTrailing {c : Char} (h : isTrailing c) (rest : List Char) :
    IsBare (c :: rest) where
  unspaced d hd := by
    cases hd
    exact isBlank_of_isTrailing h
  unopened mark hmark hfront := by
    have hfirst : ∀ opening ∈ openings, opening.head?.all fun d => !isTrailing d := by decide
    have hlower : c.toLower = c := by
      simp only [isTrailing, Bool.or_eq_true, decide_eq_true_eq] at h
      rcases h with (rfl | rfl) | rfl <;> decide
    obtain ⟨d, more, rfl⟩ := List.exists_cons_of_ne_nil hmark.ne_nil
    rw [List.cons_prefix_cons] at hfront
    have hplain := (Option.all_eq_true _ _).mp (hfirst _ (isOpening_iff.mp hmark)) d.toLower rfl
    rw [hfront.1, hlower, h] at hplain
    cases hplain

private theorem normalChars_marks {marks after : List Char} (hmarks : ∀ c ∈ marks, isTrailing c)
    (hne : marks ≠ []) (hafter : IsBlank after) : normalChars (marks ++ after) = [] := by
  obtain ⟨c, more, rfl⟩ := List.exists_cons_of_ne_nil hne
  have hbare := isBare_of_isTrailing (hmarks c (by simp)) (more ++ after)
  rw [List.cons_append, hbare.normalChars_eq, ← List.cons_append, trimEnd,
    dropEndWhile_append_of_forall hafter]
  have hall : ∀ d ∈ dropEndWhile isBlank (c :: more), isTrailing d := fun d hd =>
    hmarks d ((isPrefix_dropEndWhile isBlank _).mem hd)
  have hnone := dropEndWhile_append_of_forall hall []
  rwa [List.nil_append] at hnone

private theorem normalChars_looseEnding {core marks after : List Char} {blank : Char}
    (hcore : IsBare core)
    (hfilled : core ≠ []) (hblank : isBlank blank) (hmarks : ∀ c ∈ marks, isTrailing c)
    (hne : marks ≠ []) (hafter : IsBlank after) :
    normalChars (core ++ blank :: (marks ++ after)) = core ++ [blank] := by
  have hbody : ∀ c ∈ (core ++ [blank] ++ marks).getLast?, isBlank c = false := by
    rw [List.getLast?_append_of_ne_nil _ hne]
    exact fun c hc => isBlank_of_isTrailing (hmarks c (List.mem_of_mem_getLast? hc))
  have hform : ∀ c ∈ (core ++ [blank]).getLast?, isTrailing c = false := by
    rw [List.getLast?_concat]
    rintro c ⟨⟩
    by_contra hmark
    rw [isBlank_of_isTrailing (by simpa using hmark)] at hblank
    cases hblank
  rw [(hcore.append_blank hfilled hblank _).normalChars_eq, trimEnd, List.append_cons,
    ← List.append_assoc, dropEndWhile_append_of_forall hafter, dropEndWhile_eq_self_iff.mpr hbody,
    dropEndWhile_append_of_forall hmarks, dropEndWhile_eq_self_iff.mpr hform]

theorem hasLooseEnding_iff {text : List Char} :
    HasLooseEnding text ↔ ∃ c ∈ (normalChars text).getLast?, isBlank c := by
  constructor
  · rintro ⟨before, blank, marks, after, rfl, hbefore, hblank, hne, hmarks, hafter⟩
    obtain ⟨lead, hlead, hsplit⟩ := exists_lead_strip before
    have hcore := isBare_strip before
    generalize strip before = core at hsplit hcore
    subst hsplit
    have hfilled : core ≠ [] := by
      rintro rfl
      exact hbefore (by rwa [List.append_nil])
    rw [List.append_assoc, hlead.normalChars_append,
      normalChars_looseEnding hcore hfilled hblank hmarks hne hafter, List.getLast?_concat]
    exact ⟨blank, rfl, hblank⟩
  · rintro ⟨blank, hlast, hblank⟩
    obtain ⟨front, hform⟩ := List.getLast?_eq_some_iff.mp hlast
    obtain ⟨lead, marks, after, hlead, hmarks, hafter, htext, hbody⟩ := exists_eq_normalChars text
    have hne : marks ≠ [] := by
      rintro rfl
      have hkept := getLast?_dropEndWhile isBlank (strip text) blank
      rw [← trimEnd, hbody, List.append_nil, hlast, hblank] at hkept
      cases hkept rfl
    have hsplit : text = (lead ++ front) ++ blank :: (marks ++ after) := by
      rw [htext, hform]
      simp
    refine ⟨lead ++ front, blank, marks, after, hsplit, ?_, hblank, hne, hmarks, hafter⟩
    intro hfront
    have hnone : normalChars text = [] := by
      rw [hsplit, hfront.normalChars_append, ← List.singleton_append,
        (isLead_of_isBlank (by simpa [IsBlank] using hblank)).normalChars_append,
        normalChars_marks hmarks hne hafter]
    rw [hform] at hnone
    simp at hnone

/-- The normal form is final exactly if no punctuation at the end of the text stands behind a blank
that follows more than blanks and openings. -/
theorem normal_normal_iff (doi : String) :
    normal (normal doi) = normal doi ↔ ¬ HasLooseEnding doi.toList := by
  rw [normal, normal, String.toList_ofList, String.ofList_inj, normalChars_normalChars,
    hasLooseEnding_iff]
  simp

/-- The blank before the full stop is kept, so that the form is not that of the DOI itself. -/
def looseText : String := "10.1000/a ."

theorem looseText_normal_normal :
    normal looseText = "10.1000/a " ∧ normal (normal looseText) = "10.1000/a" ∧
      normal (normal looseText) ≠ normal looseText := by
  decide +kernel

end Doi

end CitationFile
