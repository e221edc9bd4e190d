import CitationFile.Render
import Mathlib.Data.List.Nodup

/-! What the two renderings of a record have in common. They cite the same work: authors, year and
link of a reference are those of the entry, and with a preferred citation nothing else of the record
counts. -/

namespace CitationFile

namespace Bibtex.Entry

private theorem get?_add (entry : Entry) (key value name : String) :
    (entry.add key value).get? name =
      (entry.get? name <|>
        if Text.equalIgnoringCase key.toList name.toList then some value else none) := by
  unfold get?
  rw [fields_add, List.find?_append]
  cases entry.fields.find? fun field => Text.equalIgnoringCase field.key.toList name.toList with
  | some field => rfl
  | none =>
      cases hsame : Text.equalIgnoringCase key.toList name.toList <;> simp [hsame]

private theorem get?_addOptional (entry : Entry) (key name : String) (value : Option String) :
    (entry.addOptional key value).get? name =
      (entry.get? name <|>
        if Text.equalIgnoringCase key.toList name.toList then value else none) := by
  cases value with
  | none => simp
  | some value => rw [addOptional_some, get?_add]

theorem get?_mk_nil (citeKey name : String) (type : EntryType) :
    (Entry.mk citeKey type []).get? name = none := rfl

theorem get?_ofCitation (citation : PreferredCitation) :
    (ofCitation citation).get? "author" = some (bibtexAuthors citation.authors) ∧
      (ofCitation citation).get? "pages" = citation.pages.map pageRange ∧
      (ofCitation citation).get? "year" = citation.year.map Nat.repr ∧
      (ofCitation citation).get? "doi" = citation.doi.map Doi.normal ∧
      (ofCitation citation).get? "url" = citation.url := by
  unfold ofCitation addNumber
  simp +decide only [get?_addOptional, get?_add, get?_mk_nil, reduceIte]
  simp

theorem get?_ofSoftware (record : Record) :
    (ofSoftware record).get? "author" = some (bibtexAuthors record.authors) ∧
      (ofSoftware record).get? "pages" = none ∧
      (ofSoftware record).get? "year" = record.releaseYear?.map Nat.repr ∧
      (ofSoftware record).get? "doi" = (record.identifier? .doi).map (Doi.normal ·.value) ∧
      (ofSoftware record).get? "url" = record.location? := by
  unfold ofSoftware addNumber
  simp +decide only [get?_addOptional, get?_add, get?_mk_nil, reduceIte]
  simp

private theorem citeKey_addOptional (entry : Entry) (key : String) (value : Option String) :
    (entry.addOptional key value).citeKey = entry.citeKey := by
  cases value <;> rfl

theorem citeKey_ofSoftware (record : Record) :
    (ofSoftware record).citeKey =
      citeKeyFor record.authors.head? record.releaseYear? (some record.title) := by
  simp only [ofSoftware, addNumber, citeKey_addOptional]
  rfl

def KeysFrom (keys : List String) (entry : Entry) : Prop :=
  (entry.fields.map Field.key).Sublist keys

private theorem KeysFrom.addOptional {keys : List String} {entry : Entry} (h : entry.KeysFrom keys)
    (key : String) (value : Option String) :
    (entry.addOptional key value).KeysFrom (keys ++ [key]) := by
  cases value with
  | none => exact h.trans (List.sublist_append_left keys [key])
  | some value => simpa [KeysFrom] using h

private theorem KeysFrom.add {keys : List String} {entry : Entry} (h : entry.KeysFrom keys)
    (key value : String) : (entry.add key value).KeysFrom (keys ++ [key]) :=
  h.addOptional key (some value)

private theorem keysFrom_ofCitation (citation : PreferredCitation) :
    (ofCitation citation).KeysFrom ["author", "title", "journal", "publisher", "volume", "number",
      "pages", "year", "month", "doi", "url"] := by
  have hnew : (Entry.mk (citeKeyFor citation.authors.head? citation.year (some citation.title))
      (.ofCitationType citation.type) []).KeysFrom [] := List.Sublist.refl []
  exact hnew
    |>.add "author" _
    |>.add "title" _
    |>.addOptional "journal" _
    |>.addOptional "publisher" _
    |>.addOptional "volume" _
    |>.addOptional "number" _
    |>.addOptional "pages" _
    |>.addOptional "year" _
    |>.addOptional "month" _
    |>.addOptional "doi" _
    |>.addOptional "url" _

private theorem keysFrom_ofSoftware (record : Record) :
    (ofSoftware record).KeysFrom ["author", "title", "version", "year", "doi", "url"] := by
  have hnew : (Entry.mk (citeKeyFor record.authors.head? record.releaseYear? (some record.title))
      .software []).KeysFrom [] := List.Sublist.refl []
  exact hnew
    |>.add "author" _
    |>.add "title" _
    |>.addOptional "version" _
    |>.addOptional "year" _
    |>.addOptional "doi" _
    |>.addOptional "url" _

/-- No two keys are the same but for their cases. -/
def HasDistinctKeys (entry : Entry) : Prop :=
  (entry.fields.map fun field => Text.asciiLower field.key.toList).Nodup

private theorem KeysFrom.hasDistinctKeys {keys : List String} {entry : Entry}
    (h : entry.KeysFrom keys) (hdistinct : (keys.map fun key => Text.asciiLower key.toList).Nodup) :
    entry.HasDistinctKeys := by
  have hsublist := hdistinct.sublist (h.map fun key => Text.asciiLower key.toList)
  rwa [List.map_map] at hsublist

theorem ofRecord_hasDistinctKeys (record : Record) : (ofRecord record).HasDistinctKeys := by
  unfold ofRecord
  split
  · exact (keysFrom_ofCitation _).hasDistinctKeys (by decide)
  · exact (keysFrom_ofSoftware _).hasDistinctKeys (by decide)

def yearMark (entry : Entry) : String :=
  match entry.get? "year" with
  | some year => "(" ++ year ++ ")."
  | none => "(n.d.)."

/-- What a reference ends with: the DOI at its resolver, or else the page, or else nothing. -/
def closingLink (entry : Entry) : String :=
  match entry.get? "doi", entry.get? "url" with
  | some doi, _ => " https://doi.org/" ++ doi
  | none, some url => " " ++ url
  | none, none => ""

private theorem yearMark_eq {entry : Entry} {published : Option Nat}
    (h : entry.get? "year" = published.map Nat.repr) :
    entry.yearMark = Apa.year published ++ "." := by
  rw [yearMark, h]
  cases published with
  | none => rfl
  | some number => rw [Option.map_some, Apa.year, String.append_assoc]; rfl

private theorem closingLink_eq {entry : Entry} {doi url : Option String}
    (hdoi : entry.get? "doi" = doi.map Doi.normal) (hurl : entry.get? "url" = url) :
    entry.closingLink = ((Apa.link? doi url).map (" " ++ ·)).getD "" := by
  rw [closingLink, hdoi, hurl]
  cases doi with
  | some doi => simp [Apa.link?, Doi.url, ← String.append_assoc]
  | none => cases url <;> rfl

end Bibtex.Entry

namespace Apa

private theorem joinParts_eq (opening title : String) (source link : Option String) :
    joinParts [some opening, some title, source, link] =
      opening ++ " " ++ title ++ (source.map (" " ++ ·)).getD "" ++
        (link.map (" " ++ ·)).getD "" := by
  cases source <;> cases link <;> simp [joinParts, String.append_assoc]

end Apa

namespace Record

open Bibtex

def citedAuthors (record : Record) : List Author :=
  match record.preferredCitation with
  | some citation => citation.authors
  | none => record.authors

/-- The sentences of a reference between year and link: the title, and the source if it has one. -/
def citedWork (record : Record) : String :=
  match record.preferredCitation with
  | some citation =>
      Apa.sentence citation.title ++ ((Apa.source? citation).map (" " ++ ·)).getD ""
  | none => Apa.sentence (Apa.softwareTitle record)

theorem get?_author_ofRecord (record : Record) :
    (Entry.ofRecord record).get? "author" = some (bibtexAuthors record.citedAuthors) := by
  unfold Entry.ofRecord citedAuthors
  cases record.preferredCitation with
  | some citation => exact (Entry.get?_ofCitation citation).1
  | none => exact (Entry.get?_ofSoftware record).1

private theorem citationReference_eq (citation : PreferredCitation) (authorLimit : Nat) :
    Apa.citationReference citation authorLimit =
      Apa.authorBlock citation.authors authorLimit ++ " " ++
        (Entry.ofCitation citation).yearMark ++ " " ++
        (Apa.sentence citation.title ++ ((Apa.source? citation).map (" " ++ ·)).getD "") ++
        (Entry.ofCitation citation).closingLink := by
  obtain ⟨-, -, hyear, hdoi, hurl⟩ := Entry.get?_ofCitation citation
  rw [Apa.citationReference, Apa.joinParts_eq, Entry.yearMark_eq hyear,
    Entry.closingLink_eq hdoi hurl, Apa.opening]
  simp only [String.append_assoc]

private theorem softwareReference_eq (record : Record) (authorLimit : Nat) :
    Apa.softwareReference record authorLimit =
      Apa.authorBlock record.authors authorLimit ++ " " ++
        (Entry.ofSoftware record).yearMark ++ " " ++ Apa.sentence (Apa.softwareTitle record) ++
        (Entry.ofSoftware record).closingLink := by
  obtain ⟨-, -, hyear, hdoi, hurl⟩ := Entry.get?_ofSoftware record
  have hdoi : (Entry.ofSoftware record).get? "doi" =
      ((record.identifier? .doi).map (·.value)).map Doi.normal := by
    rw [hdoi, Option.map_map]
    rfl
  rw [Entry.yearMark_eq hyear, Entry.closingLink_eq hdoi hurl]
  refine (Apa.joinParts_eq _ _ none _).trans ?_
  rw [Apa.opening]
  simp only [Option.map_none, Option.getD_none, String.append_empty, String.append_assoc]

theorem render_apa_eq (record : Record) (authorLimit : Nat) :
    record.render .apa authorLimit =
      Apa.authorBlock record.citedAuthors authorLimit ++ " " ++
        (Entry.ofRecord record).yearMark ++ " " ++ record.citedWork ++
        (Entry.ofRecord record).closingLink := by
  unfold render Apa.reference citedAuthors Entry.ofRecord citedWork
  cases record.preferredCitation with
  | some citation => exact citationReference_eq citation authorLimit
  | none => exact softwareReference_eq record authorLimit

/-- The entry of a record and its reference name the same authors, the same year and the same link,
and both are all about the preferred citation if there is one. -/
theorem renderings_cite_same_work (record : Record) (authorLimit : Nat) :
    (Entry.ofRecord record).get? "author" = some (bibtexAuthors record.citedAuthors) ∧
      record.render .apa authorLimit =
        Apa.authorBlock record.citedAuthors authorLimit ++ " " ++
          (Entry.ofRecord record).yearMark ++ " " ++ record.citedWork ++
          (Entry.ofRecord record).closingLink ∧
      (Entry.ofRecord record).HasDistinctKeys ∧
      ∀ (other : Record) (citation : PreferredCitation),
        record.preferredCitation = some citation → other.preferredCitation = some citation →
          Entry.ofRecord other = Entry.ofRecord record ∧
            other.render .apa authorLimit = record.render .apa authorLimit := by
  refine ⟨record.get?_author_ofRecord, record.render_apa_eq authorLimit,
    Entry.ofRecord_hasDistinctKeys record, ?_⟩
  intro other citation hrecord hother
  constructor
  · rw [Entry.ofRecord, Entry.ofRecord, hrecord, hother]
  · rw [render, render, Apa.reference, Apa.reference, hrecord, hother]

def toolsArticle : PreferredCitation where
  type := .article
  authors := [.person { familyNames := "Lee", givenNames := some "Ann" }, .entity { name := "Y" }]
  title := "On Tools"
  journal := some "Tools"
  publisher := none
  volume := some 3
  number := none
  pages := none
  year := some 2021
  month := none
  doi := none
  url := some "https://example.org/tools"

/-- Software that is cited by an article, whatever its own title and date are. -/
def toolsRecord (title : String) (dateReleased : Option String) : Record where
  cffVersion := "1.2.0"
  message := "m"
  authors := [.entity { name := "X" }]
  title := title
  version := none
  dateReleased := dateReleased
  abstract := none
  url := none
  repositoryCode := none
  license := none
  licenseUrl := none
  keywords := []
  identifiers := [⟨.doi, "10.5281/zenodo.1", none⟩]
  preferredCitation := some toolsArticle

theorem toolsRecord_renderings :
    (toolsRecord "A" none).preferredCitation = some toolsArticle ∧
      (toolsRecord "B" (some "2024-02-29")).preferredCitation = some toolsArticle ∧
      Entry.ofRecord (toolsRecord "B" (some "2024-02-29")) = Entry.ofRecord (toolsRecord "A" none) ∧
      (toolsRecord "B" (some "2024-02-29")).render .apa 20 =
        (toolsRecord "A" none).render .apa 20 ∧
      (toolsRecord "A" none).render .apa 20 =
        "Lee, A., & Y. (2021). On Tools. Tools, 3. https://example.org/tools" := by
  obtain ⟨-, -, -, hsame⟩ := renderings_cite_same_work (toolsRecord "A" none) 20
  obtain ⟨hentry, hreference⟩ := hsame (toolsRecord "B" (some "2024-02-29")) toolsArticle rfl rfl
  exact ⟨rfl, rfl, hentry, hreference, by decide +kernel⟩

end Record

end CitationFile
