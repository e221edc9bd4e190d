import CitationFile.Doi
import Mathlib.Data.List.DropRight

/-! What stands in front of a DOI. A text is stripped in passes, each of which cuts it behind one
opening; what is left has neither a blank nor an opening in front, and what was taken away is made
of these alone. -/

namespace CitationFile.Doi

open Text

/-- One of the openings in any mix of cases. -/
def IsOpening (mark : List Char) : Prop :=
  ∃ opening ∈ openings, equalIgnoringCase mark opening

instance (mark : List Char) : Decidable (IsOpening mark) :=
  inferInstanceAs (Decidable (∃ opening ∈ openings, equalIgnoringCase mark opening))

theorem isOpening_iff {mark : List Char} : IsOpening mark ↔ asciiLower mark ∈ openings := by
  have hlower : ∀ opening ∈ openings, asciiLower opening = opening := by decide
  constructor
  · rintro ⟨opening, hmem, hequal⟩
    rw [equalIgnoringCase, hlower opening hmem, decide_eq_true_iff] at hequal
    exact hequal ▸ hmem
  · intro hmem
    refine ⟨asciiLower mark, hmem, ?_⟩
    rw [equalIgnoringCase, hlower _ hmem, decide_eq_true_iff]

theorem IsOpening.isBlank_of_mem {mark : List Char} (h : IsOpening mark) {c : Char}
    (hc : c ∈ mark) : isBlank c = false := by
  have hplain : ∀ opening ∈ openings, opening.all fun d => !isBlank d := by decide
  have hlower := List.all_eq_true.mp (hplain _ (isOpening_iff.mp h)) c.toLower
    (List.mem_map_of_mem hc)
  rw [Bool.not_eq_true'] at hlower
  by_cases hupper : c.isUpper
  · exact isBlank_of_isAlphanum (isAlphanum_iff.mpr (.inl (isAlpha_iff.mpr (.inl hupper))))
  · rwa [toLower_of_not_isUpper hupper] at hlower

private theorem IsOpening.length_ge {mark : List Char} (h : IsOpening mark) : 4 ≤ mark.length := by
  have hlong : ∀ opening ∈ openings, 4 ≤ opening.length := by decide
  simpa [asciiLower] using hlong _ (isOpening_iff.mp h)

theorem IsOpening.ne_nil {mark : List Char} (h : IsOpening mark) : mark ≠ [] := by
  rintro rfl
  exact absurd h.length_ge (by decide)

private theorem IsOpening.append_inj {mark other rest tail : List Char} (h : IsOpening mark)
    (hother : IsOpening other) (heq : mark ++ rest = other ++ tail) :
    mark = other ∧ rest = tail := by
  have hunique : ∀ opening ∈ openings, ∀ second ∈ openings,
      opening <+: second → opening.length = second.length := by decide
  have hlength : mark.length = other.length := by
    rcases List.prefix_or_prefix_of_prefix ⟨rest, heq⟩ (List.prefix_append other tail) with
      hshort | hshort
    · simpa [asciiLower] using
        hunique _ (isOpening_iff.mp h) _ (isOpening_iff.mp hother) (hshort.map Char.toLower)
    · simpa [asciiLower] using
        (hunique _ (isOpening_iff.mp hother) _ (isOpening_iff.mp h) (hshort.map Char.toLower)).symm
  exact List.append_inj heq hlength

theorem dropOneOpening?_eq_some_iff {text rest : List Char} :
    dropOneOpening? text = some rest ↔ ∃ mark, IsOpening mark ∧ text = mark ++ rest := by
  have hsound {found : List Char} (h : dropOneOpening? text = some found) :
      ∃ mark, IsOpening mark ∧ text = mark ++ found := by
    obtain ⟨opening, hmem, htaken⟩ := List.exists_of_findSome?_eq_some h
    obtain ⟨mark, hmark, htext⟩ := dropOpeningIgnoringCase?_eq_some_iff.mp htaken
    exact ⟨mark, isOpening_iff.mpr (hmark ▸ hmem), htext⟩
  refine ⟨hsound, ?_⟩
  rintro ⟨mark, hmark, htext⟩
  cases hfound : dropOneOpening? text with
  | none =>
      have htaken := List.findSome?_eq_none_iff.mp hfound _ (isOpening_iff.mp hmark)
      rw [dropOpeningIgnoringCase?_eq_some_iff.mpr ⟨mark, rfl, htext⟩] at htaken
      cases htaken
  | some found =>
      obtain ⟨other, hother, hagain⟩ := hsound hfound
      rw [(hother.append_inj hmark (hagain.symm.trans htext)).2]

theorem dropOneOpening?_eq_none_iff {text : List Char} :
    dropOneOpening? text = none ↔ ∀ mark, IsOpening mark → ¬ mark <+: text := by
  rw [Option.eq_none_iff_forall_ne_some]
  constructor
  · rintro h mark hmark ⟨rest, htext⟩
    exact h rest (dropOneOpening?_eq_some_iff.mpr ⟨mark, hmark, htext.symm⟩)
  · intro h rest hrest
    obtain ⟨mark, hmark, htext⟩ := dropOneOpening?_eq_some_iff.mp hrest
    exact h mark hmark ⟨rest, htext.symm⟩

/-- Neither a blank nor an opening in front. -/
structure IsBare (text : List Char) : Prop where
  unspaced : ∀ c ∈ text.head?, isBlank c = false
  unopened : ∀ mark, IsOpening mark → ¬ mark <+: text

theorem IsBare.of_isPrefix {text shorter : List Char} (h : IsBare text)
    (hfront : shorter <+: text) : IsBare shorter where
  unspaced c hc := by
    obtain ⟨rest, rfl⟩ := hfront
    exact h.unspaced c (List.mem_head?_append_of_mem_head? hc)
  unopened mark hmark hmarked := h.unopened mark hmark (hmarked.trans hfront)

theorem IsBare.append_blank {text : List Char} (h : IsBare text) (hne : text ≠ []) {blank : Char}
    (hblank : isBlank blank) (rest : List Char) : IsBare (text ++ blank :: rest) where
  unspaced c hc := by
    rw [List.head?_append_of_ne_nil text hne] at hc
    exact h.unspaced c hc
  unopened mark hmark hfront := by
    rcases List.prefix_or_prefix_of_prefix hfront (List.prefix_append text _) with
      hinside | ⟨tail, rfl⟩
    · exact h.unopened mark hmark hinside
    · cases tail with
      | nil => exact h.unopened text (by simpa using hmark) List.prefix_rfl
      | cons first tail =>
          rw [List.prefix_append_right_inj, List.cons_prefix_cons] at hfront
          have hplain := hmark.isBlank_of_mem (c := first) (by simp)
          rw [hfront.1, hblank] at hplain
          cases hplain

private theorem IsBare.dropOpenings {text : List Char} (h : IsBare text) :
    dropOpenings text = text := by
  rw [Doi.dropOpenings]
  split
  · rfl
  · rename_i htaken
    rw [dropOneOpening?_eq_none_iff.mpr h.unopened] at htaken
    cases htaken

private theorem IsBare.trimStart {text : List Char} (h : IsBare text) : trimStart text = text :=
  trimStart_eq_self_iff.mpr h.unspaced

/-! What a single pass cuts. -/

theorem dropOpenings_append {mark : List Char} (h : IsOpening mark) (rest : List Char) :
    dropOpenings (mark ++ rest) = dropOpenings (trimStart rest) := by
  rw [dropOpenings]
  split
  · rename_i htaken
    exact absurd (List.prefix_append mark rest) (dropOneOpening?_eq_none_iff.mp htaken mark h)
  · rename_i found htaken
    rw [dropOneOpening?_eq_some_iff.mpr ⟨mark, h, rfl⟩] at htaken
    rw [Option.some.inj htaken]

/-- What one pass leaves of a text that has an opening in front. -/
def pass? (text : List Char) : Option (List Char) :=
  (dropOneOpening? text).map trimStart

/-- A run of so many passes from one text to another. -/
inductive Passes : Nat → List Char → List Char → Prop
  | none (text) : Passes 0 text text
  | pass {count text next rest} (h : pass? text = some next) (hmore : Passes count next rest) :
      Passes (count + 1) text rest

theorem pass?_eq_some_iff {text next : List Char} :
    pass? text = some next ↔
      ∃ mark rest, IsOpening mark ∧ text = mark ++ rest ∧ trimStart rest = next := by
  rw [pass?, Option.map_eq_some_iff]
  constructor
  · rintro ⟨rest, hrest, hnext⟩
    obtain ⟨mark, hmark, htext⟩ := dropOneOpening?_eq_some_iff.mp hrest
    exact ⟨mark, rest, hmark, htext, hnext⟩
  · rintro ⟨mark, rest, hmark, htext, hnext⟩
    exact ⟨rest, dropOneOpening?_eq_some_iff.mpr ⟨mark, hmark, htext⟩, hnext⟩

private theorem Passes.length_le {count : Nat} {text rest : List Char}
    (h : Passes count text rest) :
    4 * count + rest.length ≤ text.length := by
  induction h with
  | none text => simp
  | pass h _ ih =>
      obtain ⟨mark, behind, hmark, rfl, rfl⟩ := pass?_eq_some_iff.mp h
      have hmarked := hmark.length_ge
      have htrimmed := length_trimStart_le behind
      rw [List.length_append]
      omega

private theorem exists_passes (text : List Char) :
    ∃ count, Passes count text (dropOpenings text) ∧ pass? (dropOpenings text) = none := by
  induction text using dropOpenings.induct with
  | case1 text htaken =>
      have hkept : dropOpenings text = text := by
        rw [dropOpenings]
        split <;> simp_all
      rw [hkept]
      exact ⟨0, .none text, by rw [pass?, htaken, Option.map_none]⟩
  | case2 text rest htaken ih =>
      obtain ⟨mark, hmark, rfl⟩ := dropOneOpening?_eq_some_iff.mp htaken
      obtain ⟨count, hpasses, hlast⟩ := ih
      rw [dropOpenings_append hmark]
      exact ⟨count + 1, .pass (by rw [pass?, htaken, Option.map_some]) hpasses, hlast⟩

private theorem utf8Size_toLower (c : Char) : c.toLower.utf8Size = c.utf8Size := by
  by_cases hupper : c.isUpper
  · have hcode := isUpper_iff.mp hupper
    have hshifted := toNat_toLower c
    rw [if_pos hupper] at hshifted
    have hsingle : ∀ d : Char, d.toNat ≤ 127 → d.utf8Size = 1 := fun _ hd =>
      Char.utf8Size_eq_one_iff.mpr (UInt32.le_iff_toNat_le.mpr hd)
    rw [hsingle c (by omega), hsingle c.toLower (by omega)]
  · rw [toLower_of_not_isUpper hupper]

private theorem utf8ByteSize_asciiLower (text : List Char) :
    (String.ofList (asciiLower text)).utf8ByteSize = (String.ofList text).utf8ByteSize := by
  induction text with
  | nil => rfl
  | cons c rest ih =>
      rw [asciiLower, List.map_cons, ← asciiLower, String.ofList_cons, String.ofList_cons,
        String.utf8ByteSize_append, String.utf8ByteSize_append, String.utf8ByteSize_singleton,
        String.utf8ByteSize_singleton, utf8Size_toLower, ih]

/-- The bytes of an opening end between two characters of the text, and what stands behind them is
what the pass leaves. -/
structure CutsBetween (opening text : List Char) : Prop where
  boundary : (String.ofList opening).rawEndPos.IsValid (String.ofList text)
  behind : ∃ front rest, text = front ++ rest ∧ dropOneOpening? text = some rest ∧
    (String.ofList front).rawEndPos = (String.ofList opening).rawEndPos

private theorem cutsBetween {opening text : List Char} (h : opening ∈ openings)
    (hfront : opening <+: asciiLower text) : CutsBetween opening text := by
  obtain ⟨tail, hlower⟩ := hfront
  obtain ⟨mark, rest, rfl, hmark, -⟩ := List.map_eq_append_iff.mp hlower.symm
  have hsize : (String.ofList mark).rawEndPos = (String.ofList opening).rawEndPos := by
    rw [String.Pos.Raw.ext_iff, String.byteIdx_rawEndPos, String.byteIdx_rawEndPos, ← hmark]
    exact (utf8ByteSize_asciiLower mark).symm
  have hopening : IsOpening mark := isOpening_iff.mpr (by rwa [asciiLower, hmark])
  exact
    { boundary := String.Pos.Raw.isValid_iff_exists_append.mpr
        ⟨String.ofList mark, String.ofList rest, String.ofList_append, hsize.symm⟩
      behind := ⟨mark, rest, rfl, dropOneOpening?_eq_some_iff.mpr ⟨mark, hopening, rfl⟩, hsize⟩ }

/-- The passes over a text end at a text without an opening in front; none of their runs is longer
than the text allows, and each cut falls between two characters. -/
structure StripsTo (text result : List Char) : Prop where
  ends : ∃ count, Passes count text result ∧ pass? result = none
  bounded : ∀ count rest, Passes count text rest → 4 * count ≤ text.length
  cuts : ∀ count rest, Passes count text rest → ∀ opening ∈ openings,
    opening <+: asciiLower rest → CutsBetween opening rest

theorem stripsTo_dropOpenings (text : List Char) : StripsTo text (dropOpenings text) where
  ends := exists_passes text
  bounded _ _ hpasses := Nat.le_of_add_right_le hpasses.length_le
  cuts _ _ _ _ hmem hfront := cutsBetween hmem hfront

/-- Blanks and openings in any order. -/
inductive IsLead : List Char → Prop
  | nil : IsLead []
  | blank {c rest} : isBlank c → IsLead rest → IsLead (c :: rest)
  | opening {mark rest} : IsOpening mark → IsLead rest → IsLead (mark ++ rest)

theorem IsLead.append {lead more : List Char} (h : IsLead lead) (hmore : IsLead more) :
    IsLead (lead ++ more) := by
  induction h with
  | nil => exact hmore
  | blank hblank _ ih => exact .blank hblank ih
  | opening hmark _ ih =>
      rw [List.append_assoc]
      exact .opening hmark ih

theorem isLead_of_isBlank {text : List Char} (h : IsBlank text) : IsLead text := by
  induction text with
  | nil => exact .nil
  | cons c rest ih =>
      rw [IsBlank, List.forall_mem_cons] at h
      exact .blank h.1 (ih h.2)

private theorem isLead_takeWhile (text : List Char) : IsLead (text.takeWhile isBlank) :=
  isLead_of_isBlank fun _ hc => List.mem_takeWhile_imp hc

private theorem Passes.exists_lead {count : Nat} {text rest : List Char}
    (h : Passes count text rest) :
    ∃ lead, IsLead lead ∧ text = lead ++ rest := by
  induction h with
  | none text => exact ⟨[], .nil, rfl⟩
  | pass h _ ih =>
      obtain ⟨mark, behind, hmark, rfl, rfl⟩ := pass?_eq_some_iff.mp h
      obtain ⟨lead, hlead, hnext⟩ := ih
      refine ⟨mark ++ (behind.takeWhile isBlank ++ lead),
        .opening hmark ((isLead_takeWhile behind).append hlead), ?_⟩
      rw [List.append_assoc, List.append_assoc, ← hnext, trimStart, List.takeWhile_append_dropWhile]

private theorem Passes.trimStart {count : Nat} {text rest : List Char} (h : Passes count text rest)
    (htrimmed : trimStart text = text) : Text.trimStart rest = rest := by
  induction h with
  | none text => exact htrimmed
  | pass h _ ih =>
      obtain ⟨mark, behind, -, -, rfl⟩ := pass?_eq_some_iff.mp h
      exact ih (List.dropWhile_idempotent _ _)

def strip (text : List Char) : List Char :=
  dropOpenings (trimStart text)

theorem strip_blank {c : Char} (h : isBlank c) (rest : List Char) :
    strip (c :: rest) = strip rest := by
  rw [strip, trimStart_cons_of_isBlank h, strip]

theorem strip_opening {mark : List Char} (h : IsOpening mark) (rest : List Char) :
    strip (mark ++ rest) = strip rest := by
  obtain ⟨c, more, rfl⟩ := List.exists_cons_of_ne_nil h.ne_nil
  rw [strip, List.cons_append, trimStart_cons (h.isBlank_of_mem (by simp)), ← List.cons_append,
    dropOpenings_append h, strip]

theorem IsLead.strip_append {lead : List Char} (h : IsLead lead) (rest : List Char) :
    strip (lead ++ rest) = strip rest := by
  induction h with
  | nil => rw [List.nil_append]
  | blank hblank _ ih => rw [List.cons_append, strip_blank hblank, ih]
  | opening hmark _ ih => rw [List.append_assoc, strip_opening hmark, ih]

theorem IsBare.strip {text : List Char} (h : IsBare text) : strip text = text := by
  rw [Doi.strip, h.trimStart, h.dropOpenings]

theorem exists_lead_strip (text : List Char) : ∃ lead, IsLead lead ∧ text = lead ++ strip text := by
  obtain ⟨count, hpasses, -⟩ := exists_passes (trimStart text)
  obtain ⟨lead, hlead, htext⟩ := hpasses.exists_lead
  refine ⟨text.takeWhile isBlank ++ lead, (isLead_takeWhile text).append hlead, ?_⟩
  rw [strip, List.append_assoc, ← htext, trimStart, List.takeWhile_append_dropWhile]

theorem isBare_strip (text : List Char) : IsBare (strip text) := by
  obtain ⟨count, hpasses, hlast⟩ := exists_passes (trimStart text)
  have htrimmed : trimStart (strip text) = strip text :=
    hpasses.trimStart (List.dropWhile_idempotent _ _)
  exact
    { unspaced := trimStart_eq_self_iff.mp htrimmed
      unopened := dropOneOpening?_eq_none_iff.mp (Option.map_eq_none_iff.mp hlast) }

end CitationFile.Doi
