import CitationFile.Proofs.Bibtex.SingleEntry
import CitationFile.Proofs.Bibtex.Unescape
import CitationFile.Proofs.Marks

/-! The names of an `author` field, as a reader takes them apart at every separator outside of
braces. Entities come back whatever their names say. Persons are written without braces, and come
back exactly if their names bring no separator of their own. -/

namespace CitationFile

namespace Bibtex

open Text

def conjunction : List Char := " and".toList

def nameSeparator : List Char := conjunction ++ [' ']

/-- Entered at some depth, a text has a separator outside of all braces right behind `before`. -/
structure SeparatesAt (level : Int) (text before : List Char) : Prop where
  opens : before ++ nameSeparator <+: text
  outside : level + depth before = 0

def HasSeparator (text : List Char) : Prop :=
  ∃ before, SeparatesAt 0 text before

def cutAtSeparator? : Int → List Char → Option (List Char × List Char)
  | _, [] => none
  | level, c :: rest =>
      match if level = 0 then dropOpening? nameSeparator (c :: rest) else none with
      | some behind => some ([], behind)
      | none => (cutAtSeparator? (level + braceWeight c) rest).map fun cut => (c :: cut.1, cut.2)

private theorem SeparatesAt.mono {level : Int} {text longer before : List Char}
    (h : SeparatesAt level text before) (hlonger : text <+: longer) :
    SeparatesAt level longer before :=
  ⟨h.opens.trans hlonger, h.outside⟩

private theorem SeparatesAt.length {level : Int} {text before : List Char}
    (h : SeparatesAt level text before) : before.length + nameSeparator.length ≤ text.length := by
  rw [← List.length_append]
  exact h.opens.length_le

private theorem SeparatesAt.isPrefix {level : Int} {text before : List Char}
    (h : SeparatesAt level text before) : before <+: text :=
  (List.prefix_append before nameSeparator).trans h.opens

theorem separatesAt_nil_iff {level : Int} {text : List Char} :
    SeparatesAt level text [] ↔ nameSeparator <+: text ∧ level = 0 := by
  constructor
  · rintro ⟨hopens, houtside⟩
    exact ⟨hopens, by simpa using houtside⟩
  · rintro ⟨hopens, rfl⟩
    exact ⟨hopens, rfl⟩

theorem separatesAt_cons_iff {level : Int} {c d : Char} {rest before : List Char} :
    SeparatesAt level (c :: rest) (d :: before) ↔
      d = c ∧ SeparatesAt (level + braceWeight c) rest before := by
  constructor
  · rintro ⟨hopens, houtside⟩
    obtain ⟨rfl, hrest⟩ := List.cons_prefix_cons.mp hopens
    rw [depth_cons, ← Int.add_assoc] at houtside
    exact ⟨rfl, hrest, houtside⟩
  · rintro ⟨rfl, hopens, houtside⟩
    refine ⟨List.cons_prefix_cons.mpr ⟨rfl, hopens⟩, ?_⟩
    rw [depth_cons, ← Int.add_assoc]
    exact houtside

private theorem separatesAt_of_eq {name rest : List Char} (h : depth name = 0) :
    SeparatesAt 0 (name ++ nameSeparator ++ rest) name :=
  ⟨List.prefix_append _ rest, by rw [h, Int.add_zero]⟩

/-! Where the first separator of a text stands. -/

theorem cutAtSeparator?_eq_none {level : Int} {text : List Char}
    (h : cutAtSeparator? level text = none) (before : List Char) :
    ¬ SeparatesAt level text before := by
  induction text generalizing level before with
  | nil =>
      intro hseparates
      have hlength := hseparates.length
      simp [nameSeparator] at hlength
  | cons c rest ih =>
      rw [cutAtSeparator?] at h
      split at h
      · cases h
      · rename_i hhere
        cases before with
        | nil =>
            rw [separatesAt_nil_iff]
            rintro ⟨⟨behind, hbehind⟩, rfl⟩
            rw [if_pos rfl, dropOpening?_eq_some_iff.mpr hbehind.symm] at hhere
            cases hhere
        | cons d before =>
            rw [separatesAt_cons_iff]
            exact fun hlater => ih (Option.map_eq_none_iff.mp h) before hlater.2

private theorem cutAtSeparator?_sound {level : Int} {text before behind : List Char}
    (h : cutAtSeparator? level text = some (before, behind)) :
    text = before ++ nameSeparator ++ behind ∧ SeparatesAt level text before ∧
      ∀ other, SeparatesAt level text other → before.length ≤ other.length := by
  induction text generalizing level before with
  | nil => cases h
  | cons c rest ih =>
      rw [cutAtSeparator?] at h
      split at h
      · rename_i hhere
        obtain ⟨rfl, rfl⟩ := Prod.mk.inj (Option.some.inj h)
        split at hhere
        · rename_i hlevel
          have htext := dropOpening?_eq_some_iff.mp hhere
          refine ⟨htext, ?_, fun other _ => Nat.zero_le _⟩
          exact separatesAt_nil_iff.mpr ⟨⟨_, htext.symm⟩, hlevel⟩
        · cases hhere
      · rename_i hhere
        obtain ⟨⟨inner, tail⟩, hcut, heq⟩ := Option.map_eq_some_iff.mp h
        obtain ⟨rfl, rfl⟩ := Prod.mk.inj heq
        obtain ⟨hrest, hseparates, hfirst⟩ := ih hcut
        refine ⟨by rw [hrest]; rfl, separatesAt_cons_iff.mpr ⟨rfl, hseparates⟩, ?_⟩
        intro other hother
        cases other with
        | nil =>
            obtain ⟨⟨behind, hbehind⟩, rfl⟩ := separatesAt_nil_iff.mp hother
            rw [if_pos rfl, dropOpening?_eq_some_iff.mpr hbehind.symm] at hhere
            cases hhere
        | cons d other =>
            exact Nat.succ_le_succ (hfirst other (separatesAt_cons_iff.mp hother).2)

theorem cutAtSeparator?_append_iff {name rest : List Char} (h : depth name = 0) :
    cutAtSeparator? 0 (name ++ nameSeparator ++ rest) = some (name, rest) ↔
      ¬ HasSeparator (name ++ conjunction) := by
  have hown : SeparatesAt 0 (name ++ nameSeparator ++ rest) name := separatesAt_of_eq h
  have hnear : name ++ conjunction <+: name ++ nameSeparator ++ rest :=
    ⟨' ' :: rest, by simp [nameSeparator]⟩
  constructor
  · rintro hcut ⟨other, hother⟩
    have hfirst := (cutAtSeparator?_sound hcut).2.2 other (hother.mono hnear)
    have hfits := hother.length
    simp only [nameSeparator, List.length_append, List.length_singleton] at hfits
    omega
  · intro hclear
    cases hcut : cutAtSeparator? 0 (name ++ nameSeparator ++ rest) with
    | none => exact absurd hown (cutAtSeparator?_eq_none hcut name)
    | some cut =>
        obtain ⟨before, behind⟩ := cut
        obtain ⟨htext, hseparates, hfirst⟩ := cutAtSeparator?_sound hcut
        have hle := hfirst name hown
        have hlength : before.length = name.length := by
          by_contra hne
          -- A separator that begins earlier ends before the last blank of the one behind the name.
          refine hclear ⟨before, ?_, hseparates.outside⟩
          apply List.prefix_of_prefix_length_le hseparates.opens hnear
          simp only [nameSeparator, List.length_append, List.length_singleton]
          omega
        rw [List.append_assoc, List.append_assoc] at htext
        obtain ⟨rfl, hrest⟩ := List.append_inj htext hlength.symm
        rw [List.append_cancel_left hrest]

private theorem length_of_cutAtSeparator? {level : Int} {text before behind : List Char}
    (h : cutAtSeparator? level text = some (before, behind)) : behind.length < text.length := by
  rw [(cutAtSeparator?_sound h).1, List.length_append, List.length_append]
  have hpos : 0 < nameSeparator.length := by decide
  omega

/-- The names between the separators outside of all braces. -/
def splitNames (text : List Char) : List (List Char) :=
  match _cut : cutAtSeparator? 0 text with
  | none => [text]
  | some (name, rest) => name :: splitNames rest
termination_by text.length
decreasing_by exact length_of_cutAtSeparator? _cut

theorem splitNames_of_none {text : List Char} (h : cutAtSeparator? 0 text = none) :
    splitNames text = [text] := by
  rw [splitNames]
  split
  · rfl
  · rename_i hcut
    rw [h] at hcut
    cases hcut

theorem splitNames_of_some {text name rest : List Char}
    (h : cutAtSeparator? 0 text = some (name, rest)) :
    splitNames text = name :: splitNames rest := by
  rw [splitNames]
  split
  · rename_i hcut
    rw [h] at hcut
    cases hcut
  · rename_i hcut
    rw [h] at hcut
    obtain ⟨rfl, rfl⟩ := Prod.mk.inj (Option.some.inj hcut)
    rfl

theorem splitNames_eq_singleton_iff {name : List Char} :
    splitNames name = [name] ↔ ¬ HasSeparator name := by
  cases hcut : cutAtSeparator? 0 name with
  | none =>
      rw [splitNames_of_none hcut]
      exact iff_of_true rfl fun ⟨before, hbefore⟩ => cutAtSeparator?_eq_none hcut before hbefore
  | some cut =>
      obtain ⟨before, behind⟩ := cut
      obtain ⟨htext, hseparates, -⟩ := cutAtSeparator?_sound hcut
      rw [splitNames_of_some hcut]
      refine iff_of_false ?_ fun hclear => hclear ⟨before, hseparates⟩
      intro heq
      have hlength := hseparates.length
      rw [(List.cons.inj heq).1] at hlength
      exact absurd hlength (by simp [nameSeparator])

theorem splitNames_append_eq_cons_iff {name rest : List Char} {names : List (List Char)}
    (h : depth name = 0) :
    splitNames (name ++ nameSeparator ++ rest) = name :: names ↔
      ¬ HasSeparator (name ++ conjunction) ∧ splitNames rest = names := by
  constructor
  · intro heq
    cases hcut : cutAtSeparator? 0 (name ++ nameSeparator ++ rest) with
    | none => exact absurd (separatesAt_of_eq h) (cutAtSeparator?_eq_none hcut name)
    | some cut =>
        obtain ⟨before, behind⟩ := cut
        rw [splitNames_of_some hcut] at heq
        obtain ⟨rfl, rfl⟩ := List.cons.inj heq
        obtain rfl := List.append_cancel_left (cutAtSeparator?_sound hcut).1
        exact ⟨(cutAtSeparator?_append_iff h).mp hcut, rfl⟩
  · rintro ⟨hclear, rfl⟩
    exact splitNames_of_some ((cutAtSeparator?_append_iff h).mpr hclear)

/-- Balanced names come back from their list if none of them has a separator, and none but the last
makes one up with the conjunction behind it. -/
theorem splitNames_intercalate_iff {names : List (List Char)} (hfilled : names ≠ [])
    (h : ∀ name ∈ names, depth name = 0) :
    splitNames (nameSeparator.intercalate names) = names ↔
      (∀ name ∈ names, ¬ HasSeparator name) ∧
        ∀ name ∈ names.dropLast, ¬ HasSeparator (name ++ conjunction) := by
  induction names with
  | nil => exact absurd rfl hfilled
  | cons name rest ih =>
      cases rest with
      | nil => simp [splitNames_eq_singleton_iff]
      | cons next rest =>
          rw [List.forall_mem_cons] at h
          have hshorter : ¬ HasSeparator (name ++ conjunction) → ¬ HasSeparator name :=
            fun hclear ⟨before, hbefore⟩ =>
              hclear ⟨before, hbefore.mono (List.prefix_append name conjunction)⟩
          rw [List.intercalate_cons_cons, splitNames_append_eq_cons_iff h.1,
            ih (List.cons_ne_nil next rest) h.2, List.dropLast_cons_cons]
          simp only [List.forall_mem_cons]
          tauto

private theorem escapeChar_isEscaping : IsEscaping escapeChar := by
  intro c
  by_cases hmem : c ∈ escapedChars
  · have hall : escapedChars.all fun d =>
        (escapeChar d).head? = some '\\' ∧ ' ' ∉ (escapeChar d).tail := by decide
    obtain ⟨hslash, hblank⟩ := of_decide_eq_true (List.all_eq_true.mp hall c hmem)
    exact .inr ⟨_, List.eq_cons_of_mem_head? hslash, hblank⟩
  · exact .inl (escapeChar_of_not_mem hmem)

private theorem nameSeparator_plain : ∀ c ∈ nameSeparator, c ∉ escapedChars := by
  have hall : nameSeparator.all (fun c => c ∉ escapedChars) := by decide
  exact fun c hc => of_decide_eq_true (List.all_eq_true.mp hall c hc)

private theorem escapeChars_of_plain {text : List Char} (h : ∀ c ∈ text, c ∉ escapedChars) :
    escapeChars text = text :=
  flatMap_eq_self fun c hc => escapeChar_of_not_mem (h c hc)

theorem hasSeparator_escapeChars_iff {text : List Char} :
    HasSeparator (escapeChars text) ↔ nameSeparator <:+: text := by
  constructor
  · rintro ⟨before, ⟨behind, hopens⟩, -⟩
    have hplain : ∀ c ∈ nameSeparator, escapeChar c = [c] :=
      fun c hc => escapeChar_of_not_mem (nameSeparator_plain c hc)
    exact (escapeChar_isEscaping.infix_flatMap_iff (by decide) hplain).mp ⟨before, behind, hopens⟩
  · rintro ⟨before, behind, rfl⟩
    refine ⟨escapeChars before, ⟨escapeChars behind, ?_⟩, ?_⟩
    · rw [escapeChars_append, escapeChars_append,
        escapeChars_of_plain nameSeparator_plain]
    · rw [(balanced_escapeChars before).closed, Int.add_zero]

theorem nameSeparator_infix_append_conjunction_iff {text : List Char} :
    nameSeparator <:+: text ++ conjunction ↔
      nameSeparator <:+: text ∨ conjunction <:+ text := by
  constructor
  · rintro ⟨before, behind, heq⟩
    rw [List.append_eq_append_iff] at heq
    rcases heq with ⟨more, rfl, -⟩ | ⟨more, heq, hmore⟩
    · exact Or.inl ⟨before, more, rfl⟩
    · -- The part of the separator behind the text opens the conjunction, and ends in a blank.
      have hopens : more ∈ conjunction.inits := (List.mem_inits _ _).mpr ⟨behind, hmore.symm⟩
      rcases List.eq_nil_or_concat more with rfl | ⟨start, last, rfl⟩
      · exact Or.inl ⟨before, [], by simpa using heq⟩
      · rw [nameSeparator, ← List.append_assoc, List.concat_eq_append, ← List.append_assoc] at heq
        obtain ⟨hleft, hlast⟩ := List.append_inj' heq rfl
        obtain rfl := List.singleton_inj.mp hlast
        have hstart : start = [] := by
          have hall : conjunction.inits.all (fun opening =>
              opening.getLast? = some ' ' → opening = [' ']) := by decide
          have hone := of_decide_eq_true (List.all_eq_true.mp hall _ hopens) (by simp)
          simpa using hone
        rw [hstart, List.append_nil] at hleft
        exact Or.inr ⟨before, hleft⟩
  · rintro (⟨before, behind, rfl⟩ | ⟨before, rfl⟩)
    · exact ⟨before, behind ++ conjunction, by simp⟩
    · exact ⟨before, "and".toList, by simp [nameSeparator, conjunction]⟩

private theorem not_hasSeparator_braced {text tail : List Char} (h : Balanced text)
    (hshort : tail.length < nameSeparator.length) :
    ¬ HasSeparator ('{' :: text ++ ['}'] ++ tail) := by
  rintro ⟨before, hbefore⟩
  have hfits := hbefore.length
  cases before with
  | nil =>
      obtain ⟨hopens, -⟩ := separatesAt_nil_iff.mp hbefore
      simp [nameSeparator, conjunction] at hopens
  | cons d inner =>
      obtain ⟨rfl, hinner⟩ := separatesAt_cons_iff.mp hbefore
      have hinside : inner <+: text := by
        apply List.prefix_of_prefix_length_le hinner.isPrefix ⟨['}'] ++ tail, by simp⟩
        simp only [List.length_append, List.length_cons, List.length_nil] at hfits
        omega
      have hdepth := h.nonneg inner hinside
      have houtside := hinner.outside
      rw [braceWeight_open] at houtside
      omega

end Bibtex

/-! Of the names of authors only those of entities stand in braces. -/

namespace Author

open Bibtex

/-- What of a name stands outside of all braces: nothing of an entity's. -/
def exposedName : Author → List Char
  | .entity _ => []
  | .person p =>
      match p.givenNames with
      | some given => p.familyNames.toList ++ ", ".toList ++ given.toList
      | none => p.familyNames.toList

private theorem bibtexName_person (person : Person) :
    (Author.person person).bibtexName.toList =
      escapeChars (Author.person person).exposedName := by
  cases hgiven : person.givenNames with
  | none => simp [bibtexName, exposedName, hgiven, escape]
  | some given =>
      have hcomma : escapeChars ", ".toList = ", ".toList := by decide
      simp only [bibtexName, exposedName, hgiven, escape, escapeChars_append, hcomma,
        String.toList_append, String.toList_ofList]

theorem hasSeparator_bibtexName_append_iff (author : Author) {tail : List Char}
    (h : tail <+: conjunction) :
    HasSeparator (author.bibtexName.toList ++ tail) ↔
      nameSeparator <:+: author.exposedName ++ tail := by
  have hshort : tail.length < nameSeparator.length :=
    Nat.lt_of_le_of_lt h.length_le (by decide)
  cases author with
  | entity entity =>
      have hname : (Author.entity entity).bibtexName.toList =
          '{' :: escapeChars entity.name.toList ++ ['}'] := by
        simp [bibtexName, escape]
      rw [hname]
      refine iff_of_false (not_hasSeparator_braced (balanced_escapeChars _) hshort) ?_
      intro hinfix
      exact Nat.lt_irrefl _ (Nat.lt_of_le_of_lt hinfix.length_le hshort)
  | person person =>
      have hplain : escapeChars tail = tail := by
        apply escapeChars_of_plain
        intro c hc
        exact nameSeparator_plain c (List.mem_append_left _ (h.subset hc))
      rw [bibtexName_person, ← hplain, ← escapeChars_append, hasSeparator_escapeChars_iff, hplain]

end Author

namespace Bibtex

/-- The names of a field come back one by one, as they were written, exactly if no name has a
separator outside of braces and none but the last ends in the conjunction. -/
theorem splitNames_bibtexAuthors_iff (first : Author) (others : List Author) :
    splitNames (bibtexAuthors (first :: others)).toList =
        (first :: others).map (fun author => author.bibtexName.toList) ↔
      (∀ author ∈ first :: others, ¬ nameSeparator <:+: author.exposedName) ∧
        ∀ author ∈ (first :: others).dropLast, ¬ conjunction <:+ author.exposedName := by
  have hbalanced : ∀ text ∈ (first :: others).map (fun author => author.bibtexName.toList),
      depth text = 0 := by
    intro text htext
    obtain ⟨author, -, rfl⟩ := List.mem_map.mp htext
    exact (balanced_bibtexName author).closed
  have hwritten : (bibtexAuthors (first :: others)).toList =
      nameSeparator.intercalate ((first :: others).map fun author => author.bibtexName.toList) := by
    rw [bibtexAuthors, String.toList_intercalate, List.map_map]
    rfl
  have hname (author : Author) : HasSeparator author.bibtexName.toList ↔
      nameSeparator <:+: author.exposedName := by
    simpa using author.hasSeparator_bibtexName_append_iff (List.nil_prefix (l := conjunction))
  have hjoined (author : Author) : HasSeparator (author.bibtexName.toList ++ conjunction) ↔
      nameSeparator <:+: author.exposedName ∨ conjunction <:+ author.exposedName := by
    rw [author.hasSeparator_bibtexName_append_iff (List.prefix_refl conjunction),
      nameSeparator_infix_append_conjunction_iff]
  rw [hwritten, splitNames_intercalate_iff (by simp) hbalanced, ← List.map_dropLast]
  simp only [List.forall_mem_map, hname, hjoined, not_or]
  constructor
  · rintro ⟨hclear, hends⟩
    exact ⟨hclear, fun author hauthor => (hends author hauthor).2⟩
  · rintro ⟨hclear, hends⟩
    exact ⟨hclear, fun author hauthor =>
      ⟨hclear author (List.mem_of_mem_dropLast hauthor), hends author hauthor⟩⟩

def conjoinedText : String :=
  "cff-version: 1.2.0\nmessage: m\ntitle: t\nauthors:\n" ++
    "  - family-names: Smith and Jones\n  - family-names: Lee\n"

def conjoinedRecord : Record where
  cffVersion := "1.2.0"
  message := "m"
  authors := [.person { familyNames := "Smith and Jones" }, .person { familyNames := "Lee" }]
  title := "t"
  version := none
  dateReleased := none
  abstract := none
  url := none
  repositoryCode := none
  license := none
  licenseUrl := none
  keywords := []
  identifiers := []
  preferredCitation := none

theorem conjoinedText_splitNames :
    ∃ validated, Loader.loadText {} conjoinedText = .ok validated ∧
      validated.record.authors.map Author.bibtexName = ["Smith and Jones", "Lee"] ∧
      splitNames (bibtexAuthors validated.record.authors).toList =
        ["Smith".toList, "Jones".toList, "Lee".toList] ∧
      splitNames (bibtexAuthors validated.record.authors).toList ≠
        validated.record.authors.map fun author => author.bibtexName.toList := by
  have hauthors : (bibtexAuthors conjoinedRecord.authors).toList =
      "Smith and Jones and Lee".toList := by
    decide
  have hfirst : cutAtSeparator? 0 "Smith and Jones and Lee".toList =
      some ("Smith".toList, "Jones and Lee".toList) := by
    decide
  have hsecond : cutAtSeparator? 0 "Jones and Lee".toList =
      some ("Jones".toList, "Lee".toList) := by
    decide
  have hthird : cutAtSeparator? 0 "Lee".toList = none := by decide
  have hnames : splitNames (bibtexAuthors conjoinedRecord.authors).toList =
      ["Smith".toList, "Jones".toList, "Lee".toList] := by
    rw [hauthors, splitNames_of_some hfirst, splitNames_of_some hsecond, splitNames_of_none hthird]
  refine ⟨⟨conjoinedRecord, []⟩, by decide +kernel, by decide, hnames, ?_⟩
  intro hkept
  have hlength := congrArg List.length (hnames.symm.trans hkept)
  simp [conjoinedRecord] at hlength

end Bibtex

end CitationFile
