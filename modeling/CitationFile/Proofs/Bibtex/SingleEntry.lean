import CitationFile.Proofs.Bibtex.Brace
import CitationFile.Proofs.Bibtex.Keys
import CitationFile.Loading
import CitationFile.Render

/-! When the written form of an entry is a single entry for a reader that counts braces. All that a
document says goes out escaped, but for its links: they stand as they are, and decide it. -/

namespace CitationFile.Bibtex

/-- An entry type and one group. No brace in the group closes it but the last character. -/
def IsSingleEntry (output : List Char) : Prop :=
  ∃ type body, output = '@' :: (type ++ '{' :: (body ++ ['}'])) ∧ (∀ c ∈ type, c.isAlpha) ∧
    (∀ before, before <+: output → 0 ≤ depth before) ∧
    (∀ inner, inner <+: body → 1 ≤ depth ('@' :: (type ++ '{' :: inner))) ∧
    depth output = 0

private theorem append_brace_inj {type type' body body' : List Char} (htype : ∀ c ∈ type, c.isAlpha)
    (htype' : ∀ c ∈ type', c.isAlpha) (h : type ++ '{' :: body = type' ++ '{' :: body') :
    type = type' ∧ body = body' := by
  induction type generalizing type' with
  | nil =>
      cases type' with
      | nil => exact ⟨rfl, by simpa using h⟩
      | cons c rest =>
          simp only [List.nil_append, List.cons_append, List.cons.injEq] at h
          exact absurd (htype' c (by simp)) (by rw [← h.1]; decide)
  | cons c rest ih =>
      cases type' with
      | nil =>
          simp only [List.nil_append, List.cons_append, List.cons.injEq] at h
          exact absurd (htype c (by simp)) (by rw [h.1]; decide)
      | cons c' rest' =>
          rw [List.forall_mem_cons] at htype htype'
          simp only [List.cons_append, List.cons.injEq] at h
          obtain ⟨rfl, rfl⟩ := ih htype.2 htype'.2 h.2
          exact ⟨by rw [h.1], rfl⟩

theorem isSingleEntry_iff_balanced {type body : List Char} (htype : ∀ c ∈ type, c.isAlpha) :
    IsSingleEntry ('@' :: (type ++ '{' :: (body ++ ['}']))) ↔ Balanced body := by
  -- What stands before the group has no braces, so depths are those of the group and one more.
  have hat : Balanced ('@' :: type) := by
    apply balanced_of_isBraceFree
    exact List.forall_mem_cons.mpr ⟨by decide, isBraceFree_of_isAlpha htype⟩
  have hdepth (inner : List Char) : depth ('@' :: (type ++ '{' :: inner)) = 1 + depth inner := by
    rw [← List.cons_append, depth_append, hat.closed]
    simp
  constructor
  · rintro ⟨type', body', heq, htype', -, hinner, hclosed⟩
    obtain ⟨rfl, hbody⟩ := append_brace_inj htype htype' (List.cons.inj heq).2
    obtain rfl := List.append_cancel_right hbody
    rw [hdepth, depth_append] at hclosed
    constructor
    · intro before hbefore
      have hbound := hinner before hbefore
      rw [hdepth] at hbound
      omega
    · simp only [depth_cons, depth_nil, braceWeight_close] at hclosed
      omega
  · intro hbody
    have hall : Balanced ('@' :: type ++ ('{' :: body ++ ['}'])) := hat.append hbody.braced
    rw [List.cons_append, List.cons_append] at hall
    refine ⟨type, body, rfl, htype, hall.nonneg, ?_, hall.closed⟩
    intro inner hinner
    have hbound := hbody.nonneg inner hinner
    rw [hdepth]
    omega

def braced (value : List Char) : List Char :=
  '{' :: value ++ ['}']

/-- The values that stand as they are, each in its braces. -/
def verbatimText (fields : List Field) : List Char :=
  fields.flatMap fun field =>
    if isVerbatim field.key.toList then braced field.value.toList else []

private theorem delimited_nestsAs (value : List Char) :
    NestsAs (delimited value) (braced value) := by
  unfold delimited
  split
  · rename_i hnumber
    have hvalue := balanced_of_isBraceFree (isBraceFree_of_isDigit hnumber.2)
    exact hvalue.nestsAs hvalue.braced
  · exact NestsAs.refl _

private theorem writeField_nestsAs {key : List Char} (hkey : ∀ c ∈ key, c.isAlpha)
    (value : List Char) :
    NestsAs (writeField key value) (if isVerbatim key then braced value else []) := by
  have hblanks : Balanced "    ".toList := balanced_of_isBraceFree (by decide)
  have hequals : Balanced " = ".toList := balanced_of_isBraceFree (by decide)
  have hbefore : Balanced ("    ".toList ++ key ++ " = ".toList) :=
    (hblanks.append (balanced_of_isBraceFree (isBraceFree_of_isAlpha hkey))).append hequals
  have hafter : Balanced [',', '\n'] := balanced_of_isBraceFree (by decide)
  have hvalue : NestsAs (delimited (if isVerbatim key then value else escapeChars value))
      (if isVerbatim key then braced value else []) := by
    refine (delimited_nestsAs _).trans ?_
    split
    · exact NestsAs.refl _
    · exact (balanced_escapeChars value).braced.nestsAs balanced_nil
  have hfield := ((hbefore.nestsAs balanced_nil).append hvalue).append
    (hafter.nestsAs balanced_nil)
  rw [writeField_eq]
  simpa only [List.nil_append, List.append_nil] using hfield

theorem Entry.isSingleEntry_write_iff {entry : Entry} (h : entry.HasPlainKeys) :
    IsSingleEntry entry.write.toList ↔ Balanced (verbatimText entry.fields) := by
  have hciteKey : Balanced entry.citeKey.toList := by
    apply balanced_of_isBraceFree
    intro c hc
    obtain ⟨-, hopen, hclose, -⟩ := h.citeKey c hc
    exact ⟨hopen, hclose⟩
  have hafter : Balanced [',', '\n'] := balanced_of_isBraceFree (by decide)
  have hfields : NestsAs (writeFields entry.fields) (verbatimText entry.fields) :=
    nestsAs_flatMap fun field hfield =>
      writeField_nestsAs (List.all_eq_true.mp (h.fields field hfield).2) _
  rw [toList_write, isSingleEntry_iff_balanced entry.type.isAlpha_of_mem_name, body,
    (hciteKey.append hafter).append_iff, hfields.balanced_iff]

private theorem verbatimText_add (entry : Entry) (key value : String) :
    verbatimText (entry.add key value).fields = verbatimText entry.fields ++
      if isVerbatim key.toList then braced value.toList else [] := by
  simp [verbatimText]

private theorem verbatimText_addOptional (entry : Entry) (key : String) (value : Option String) :
    verbatimText (entry.addOptional key value).fields = verbatimText entry.fields ++
      if isVerbatim key.toList then (value.map fun text => braced text.toList).getD [] else [] := by
  cases value with
  | none => simp
  | some value => rw [Entry.addOptional_some, verbatimText_add, Option.map_some, Option.getD_some]

/-- The links of an entry, each in its braces. -/
def linkText (doi url : Option String) : List Char :=
  (doi.map fun text => braced text.toList).getD [] ++
    (url.map fun text => braced text.toList).getD []

private theorem verbatimText_ofCitation (citation : PreferredCitation) :
    verbatimText (Entry.ofCitation citation).fields =
      braced (bibtexAuthors citation.authors).toList ++
        linkText (citation.doi.map Doi.normal) citation.url := by
  unfold Entry.ofCitation Entry.addNumber
  -- Only `author`, `doi` and `url` are verbatim; the other keys drop out by evaluation.
  simp +decide only [verbatimText_addOptional, verbatimText_add, reduceIte]
  simp [verbatimText, linkText]

private theorem verbatimText_ofSoftware (record : Record) :
    verbatimText (Entry.ofSoftware record).fields =
      braced (bibtexAuthors record.authors).toList ++
        linkText ((record.identifier? .doi).map (Doi.normal ·.value)) record.location? := by
  unfold Entry.ofSoftware Entry.addNumber
  simp +decide only [verbatimText_addOptional, verbatimText_add, reduceIte]
  simp [verbatimText, linkText]

private theorem balanced_intercalate {separator : List Char} {texts : List (List Char)}
    (hseparator : Balanced separator) (h : ∀ text ∈ texts, Balanced text) :
    Balanced (separator.intercalate texts) := by
  induction texts with
  | nil => simp
  | cons text rest ih =>
      rw [List.forall_mem_cons] at h
      cases rest with
      | nil => simpa using h.1
      | cons next rest =>
          rw [List.intercalate_cons_cons]
          exact (h.1.append hseparator).append (ih h.2)

theorem balanced_bibtexName (author : Author) : Balanced author.bibtexName.toList := by
  cases author with
  | entity entity =>
      simpa [Author.bibtexName] using (balanced_escape entity.name).braced
  | person person =>
      have hcomma : Balanced ", ".toList := balanced_of_isBraceFree (by decide)
      cases hgiven : person.givenNames with
      | none =>
          simp only [Author.bibtexName, hgiven]
          exact balanced_escape person.familyNames
      | some given =>
          simp only [Author.bibtexName, hgiven, String.toList_append]
          exact ((balanced_escape person.familyNames).append hcomma).append (balanced_escape given)

theorem balanced_bibtexAuthors (authors : List Author) :
    Balanced (bibtexAuthors authors).toList := by
  have hand : Balanced " and ".toList := balanced_of_isBraceFree (by decide)
  rw [bibtexAuthors, String.toList_intercalate]
  apply balanced_intercalate hand
  intro text htext
  obtain ⟨name, hname, rfl⟩ := List.mem_map.mp htext
  obtain ⟨author, -, rfl⟩ := List.mem_map.mp hname
  exact balanced_bibtexName author

end Bibtex

namespace Record

open Bibtex

def citedDoi? (record : Record) : Option String :=
  match record.preferredCitation with
  | some citation => citation.doi.map Doi.normal
  | none => (record.identifier? .doi).map (Doi.normal ·.value)

def citedUrl? (record : Record) : Option String :=
  match record.preferredCitation with
  | some citation => citation.url
  | none => record.location?

theorem verbatimText_ofRecord (record : Record) :
    ∃ authors, verbatimText (Entry.ofRecord record).fields =
      braced (bibtexAuthors authors).toList ++ linkText record.citedDoi? record.citedUrl? := by
  unfold Entry.ofRecord citedDoi? citedUrl?
  cases record.preferredCitation with
  | some citation => exact ⟨_, verbatimText_ofCitation citation⟩
  | none => exact ⟨_, verbatimText_ofSoftware record⟩

/-- Whoever wrote it and whatever it is called: only its links can break an entry. -/
theorem isSingleEntry_render_bibtex_iff (record : Record) (authorLimit : Nat) :
    IsSingleEntry (record.render .bibtex authorLimit).toList ↔
      Balanced (linkText record.citedDoi? record.citedUrl?) := by
  obtain ⟨authors, hverbatim⟩ := record.verbatimText_ofRecord
  unfold render
  rw [Entry.isSingleEntry_write_iff (Entry.ofRecord_hasPlainKeys record), hverbatim]
  exact (balanced_bibtexAuthors authors).braced.append_iff

def strayBraceText : String :=
  "cff-version: 1.2.0\nmessage: m\ntitle: t\nauthors:\n  - name: X\n" ++
    "url: \"https://example.org/\x7d\"\n"

def strayBraceRecord : Record where
  cffVersion := "1.2.0"
  message := "m"
  authors := [.entity { name := "X" }]
  title := "t"
  version := none
  dateReleased := none
  abstract := none
  url := some "https://example.org/\x7d"
  repositoryCode := none
  license := none
  licenseUrl := none
  keywords := []
  identifiers := []
  preferredCitation := none

def strayBraceBody : String :=
  "XT,\n    author = \x7b\x7bX\x7d\x7d,\n    title = \x7bt\x7d,\n" ++
    "    url = \x7bhttps://example.org/\x7d\x7d,\n"

theorem strayBraceText_not_isSingleEntry :
    ∃ validated, Loader.loadText {} strayBraceText = .ok validated ∧
      ∀ authorLimit, ¬ IsSingleEntry (validated.record.render .bibtex authorLimit).toList := by
  refine ⟨⟨strayBraceRecord, []⟩, by decide +kernel, ?_⟩
  intro authorLimit hsingle
  have hwritten : (Entry.ofRecord strayBraceRecord).write.toList =
      '@' :: (EntryType.software.name.toList ++ '{' :: (strayBraceBody.toList ++ ['}'])) := by
    decide +kernel
  unfold render at hsingle
  rw [hwritten, isSingleEntry_iff_balanced EntryType.software.isAlpha_of_mem_name] at hsingle
  exact absurd hsingle.closed (by decide)

end Record

end CitationFile
