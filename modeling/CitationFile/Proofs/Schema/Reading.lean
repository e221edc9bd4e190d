import CitationFile.Proofs.Schema.Inversion

/-! The literal reading of a citation file, and the proof that an accepted document yields the
record that it reads as: every item of a list in its place, every text as it stands in the document.
-/

namespace CitationFile

namespace Schema

open Yaml Text

/-- The string itself, looked for through tags, with the blanks around it. -/
def Literally (value : Value) (string : String) : Prop :=
  value.string? = some string

/-- Nothing is read of a key that is absent or null, and something of any other. -/
def ReadsOptional (entries : List (Value × Value)) (key : String) (reading : Value → α → Prop)
    (result : Option α) : Prop :=
  Option.Rel reading (field? entries key) result

/-- A list that is absent or null reads as the empty one. -/
inductive ReadsList (entries : List (Value × Value)) (key : String) (reading : Value → α → Prop) :
    List α → Prop
  | absent (hmissing : field? entries key = none) : ReadsList entries key reading []
  | present {value : Value} {results : List α} (hfound : field? entries key = some value)
      (hitems : ReadsItems reading value results) : ReadsList entries key reading results

def ReadsMapping (reading : List (Value × Value) → α → Prop) (value : Value) (result : α) : Prop :=
  ∃ entries, value.mapping? = some entries ∧ reading entries result

structure ReadsEntity (entries : List (Value × Value)) (entity : Entity) : Prop where
  name : ReadsField entries "name" Literally entity.name
  email : ReadsOptional entries "email" Literally entity.email

structure ReadsPerson (entries : List (Value × Value)) (person : Person) : Prop where
  noName : field? entries "name" = none
  familyNames : ReadsField entries "family-names" Literally person.familyNames
  givenNames : ReadsOptional entries "given-names" Literally person.givenNames
  affiliation : ReadsOptional entries "affiliation" Literally person.affiliation
  orcid : ReadsOptional entries "orcid" Literally person.orcid
  email : ReadsOptional entries "email" Literally person.email

/-- An author with a name is an entity, and one without is a person. -/
inductive ReadsAuthor (entries : List (Value × Value)) : Author → Prop
  | entity {entity : Entity} (hreads : ReadsEntity entries entity) :
      ReadsAuthor entries (.entity entity)
  | person {person : Person} (hreads : ReadsPerson entries person) :
      ReadsAuthor entries (.person person)

def ReadsAuthors : Value → List Author → Prop :=
  ReadsItems (ReadsMapping ReadsAuthor)

structure ReadsIdentifier (entries : List (Value × Value)) (identifier : Identifier) : Prop where
  type : ReadsField entries "type" (fun value kind => Literally value kind.name) identifier.type
  value : ReadsField entries "value" Literally identifier.value
  description : ReadsOptional entries "description" Literally identifier.description

structure ReadsPreferredCitation (entries : List (Value × Value))
    (citation : PreferredCitation) : Prop where
  type : ReadsField entries "type" (fun value kind => Literally value kind.name) citation.type
  authors : ReadsField entries "authors" ReadsAuthors citation.authors
  title : ReadsField entries "title" Literally citation.title
  journal : ReadsOptional entries "journal" Literally citation.journal
  publisher : ReadsOptional entries "publisher" Literally citation.publisher
  volume : ReadsOptional entries "volume" Denotes citation.volume
  number : Option.Rel Denotes (numberField? entries) citation.number
  pages : ReadsOptional entries "pages" Shows citation.pages
  year : ReadsOptional entries "year" Denotes citation.year
  month : ReadsOptional entries "month" Denotes citation.month
  doi : ReadsOptional entries "doi" Literally citation.doi
  url : ReadsOptional entries "url" Literally citation.url

structure ReadsRecord (entries : List (Value × Value)) (record : Record) : Prop where
  cffVersion : ReadsField entries "cff-version" Literally record.cffVersion
  message : ReadsField entries "message" Literally record.message
  authors : ReadsField entries "authors" ReadsAuthors record.authors
  title : ReadsField entries "title" Literally record.title
  version : ReadsOptional entries "version" Shows record.version
  dateReleased : ReadsOptional entries "date-released" Literally record.dateReleased
  abstract : ReadsOptional entries "abstract" Literally record.abstract
  url : ReadsOptional entries "url" Literally record.url
  repositoryCode : ReadsOptional entries "repository-code" Literally record.repositoryCode
  license : ReadsOptional entries "license" Literally record.license
  licenseUrl : ReadsOptional entries "license-url" Literally record.licenseUrl
  keywords : ReadsList entries "keywords" Literally record.keywords
  identifiers : ReadsList entries "identifiers" (ReadsMapping ReadsIdentifier) record.identifiers
  preferredCitation : ReadsOptional entries "preferred-citation"
    (ReadsMapping ReadsPreferredCitation) record.preferredCitation

/-! No document has two readings. -/

open Relator (RightUnique)

private theorem literally_unique : RightUnique Literally :=
  fun _ _ _ hfirst hsecond => Option.some.inj (hfirst.symm.trans hsecond)

private theorem denotes_unique : RightUnique Denotes := by
  rintro value first second ⟨number⟩ hsecond
  · exact Int.ofNat.inj (denotes_integer_iff.mp hsecond)
  · rename_i string hfirst
    have hspelled := natural?_eq_some_iff.mpr (denotes_string_iff.mp hsecond)
    exact Option.some.inj ((natural?_eq_some_iff.mpr hfirst).symm.trans hspelled)

private theorem shows_unique : RightUnique Shows := by
  intro value first second hfirst hsecond
  have path : Path := []
  exact Option.some.inj (((textOrNumber_yields path value first).mpr hfirst).symm.trans
    ((textOrNumber_yields path value second).mpr hsecond))

private theorem identifierType_unique :
    RightUnique fun value (kind : IdentifierType) => Literally value kind.name := by
  intro value first second hfirst hsecond
  have hname : first.name = second.name := literally_unique hfirst hsecond
  exact Option.some.inj ((IdentifierType.ofName?_eq_some_iff.mpr rfl).symm.trans
    (IdentifierType.ofName?_eq_some_iff.mpr hname))

private theorem citationType_unique :
    RightUnique fun value (kind : CitationType) => Literally value kind.name := by
  intro value first second hfirst hsecond
  have hname : first.name = second.name := literally_unique hfirst hsecond
  exact Option.some.inj ((CitationType.ofName?_eq_some_iff.mpr rfl).symm.trans
    (CitationType.ofName?_eq_some_iff.mpr hname))

section Combined

variable {reading : Value → α → Prop} (hunique : RightUnique reading)
variable {entries : List (Value × Value)} {key : String}

include hunique

private theorem readsField_unique {first second : α} (hfirst : ReadsField entries key reading first)
    (hsecond : ReadsField entries key reading second) : first = second := by
  obtain ⟨value, hvalue, hreads⟩ := hfirst
  obtain ⟨other, hother, hreadsOther⟩ := hsecond
  cases Option.some.inj (hvalue.symm.trans hother)
  exact hunique hreads hreadsOther

private theorem optionRel_unique : RightUnique (Option.Rel reading) := by
  rintro value first second (hfirst | _) (hsecond | _)
  · exact congrArg some (hunique hfirst hsecond)
  · rfl

private theorem readsItems_unique : RightUnique (ReadsItems reading) := by
  rintro value first second ⟨items, hitems, hfirst⟩ ⟨others, hothers, hsecond⟩
  cases Option.some.inj (hitems.symm.trans hothers)
  exact hunique.forall₂ hfirst hsecond

private theorem readsList_unique {first second : List α}
    (hfirst : ReadsList entries key reading first)
    (hsecond : ReadsList entries key reading second) : first = second := by
  cases hfirst with
  | absent hmissing =>
      cases hsecond with
      | absent => rfl
      | present hfound => simp [hmissing] at hfound
  | present hfound hitems =>
      cases hsecond with
      | absent hmissing => simp [hmissing] at hfound
      | present hother hotherItems =>
          cases Option.some.inj (hfound.symm.trans hother)
          exact readsItems_unique hunique hitems hotherItems

end Combined

theorem readsMapping_unique {reading : List (Value × Value) → α → Prop}
    (hunique : RightUnique reading) : RightUnique (ReadsMapping reading) := by
  rintro value first second ⟨entries, hentries, hfirst⟩ ⟨others, hothers, hsecond⟩
  cases Option.some.inj (hentries.symm.trans hothers)
  exact hunique hfirst hsecond

private theorem literalField_unique {entries : List (Value × Value)} {key first second : String}
    (hfirst : ReadsField entries key Literally first)
    (hsecond : ReadsField entries key Literally second) : first = second :=
  readsField_unique literally_unique hfirst hsecond

private theorem literalOptional_unique {entries : List (Value × Value)} {key : String}
    {first second : Option String} (hfirst : ReadsOptional entries key Literally first)
    (hsecond : ReadsOptional entries key Literally second) : first = second :=
  optionRel_unique literally_unique hfirst hsecond

private theorem readsEntity_unique : RightUnique ReadsEntity := by
  rintro entries ⟨⟩ ⟨⟩ hfirst hsecond
  rw [Entity.mk.injEq]
  exact ⟨literalField_unique hfirst.name hsecond.name,
    literalOptional_unique hfirst.email hsecond.email⟩

private theorem readsPerson_unique : RightUnique ReadsPerson := by
  rintro entries ⟨⟩ ⟨⟩ hfirst hsecond
  rw [Person.mk.injEq]
  exact ⟨literalField_unique hfirst.familyNames hsecond.familyNames,
    literalOptional_unique hfirst.givenNames hsecond.givenNames,
    literalOptional_unique hfirst.orcid hsecond.orcid,
    literalOptional_unique hfirst.affiliation hsecond.affiliation,
    literalOptional_unique hfirst.email hsecond.email⟩

private theorem not_readsEntity_of_readsPerson {entries : List (Value × Value)} {entity : Entity}
    {person : Person} (hperson : ReadsPerson entries person) : ¬ ReadsEntity entries entity := by
  rintro ⟨⟨name, hfound, -⟩, -⟩
  simp [hperson.noName] at hfound

private theorem readsAuthor_unique : RightUnique ReadsAuthor := by
  rintro entries first second (hfirst | hfirst) (hsecond | hsecond)
  · exact congrArg Author.entity (readsEntity_unique hfirst hsecond)
  · exact absurd hfirst (not_readsEntity_of_readsPerson hsecond)
  · exact absurd hsecond (not_readsEntity_of_readsPerson hfirst)
  · exact congrArg Author.person (readsPerson_unique hfirst hsecond)

private theorem readsAuthors_unique : RightUnique ReadsAuthors :=
  readsItems_unique (readsMapping_unique readsAuthor_unique)

private theorem readsIdentifier_unique : RightUnique ReadsIdentifier := by
  rintro entries ⟨⟩ ⟨⟩ hfirst hsecond
  rw [Identifier.mk.injEq]
  exact ⟨readsField_unique identifierType_unique hfirst.type hsecond.type,
    literalField_unique hfirst.value hsecond.value,
    literalOptional_unique hfirst.description hsecond.description⟩

private theorem readsPreferredCitation_unique : RightUnique ReadsPreferredCitation := by
  rintro entries ⟨⟩ ⟨⟩ hfirst hsecond
  rw [PreferredCitation.mk.injEq]
  exact ⟨readsField_unique citationType_unique hfirst.type hsecond.type,
    readsField_unique readsAuthors_unique hfirst.authors hsecond.authors,
    literalField_unique hfirst.title hsecond.title,
    literalOptional_unique hfirst.journal hsecond.journal,
    literalOptional_unique hfirst.publisher hsecond.publisher,
    optionRel_unique denotes_unique hfirst.volume hsecond.volume,
    optionRel_unique denotes_unique hfirst.number hsecond.number,
    optionRel_unique shows_unique hfirst.pages hsecond.pages,
    optionRel_unique denotes_unique hfirst.year hsecond.year,
    optionRel_unique denotes_unique hfirst.month hsecond.month,
    literalOptional_unique hfirst.doi hsecond.doi,
    literalOptional_unique hfirst.url hsecond.url⟩

theorem readsRecord_unique : RightUnique ReadsRecord := by
  rintro entries ⟨⟩ ⟨⟩ hfirst hsecond
  rw [Record.mk.injEq]
  exact ⟨literalField_unique hfirst.cffVersion hsecond.cffVersion,
    literalField_unique hfirst.message hsecond.message,
    readsField_unique readsAuthors_unique hfirst.authors hsecond.authors,
    literalField_unique hfirst.title hsecond.title,
    optionRel_unique shows_unique hfirst.version hsecond.version,
    literalOptional_unique hfirst.dateReleased hsecond.dateReleased,
    literalOptional_unique hfirst.abstract hsecond.abstract,
    literalOptional_unique hfirst.url hsecond.url,
    literalOptional_unique hfirst.repositoryCode hsecond.repositoryCode,
    literalOptional_unique hfirst.license hsecond.license,
    literalOptional_unique hfirst.licenseUrl hsecond.licenseUrl,
    readsList_unique literally_unique hfirst.keywords hsecond.keywords,
    readsList_unique (readsMapping_unique readsIdentifier_unique) hfirst.identifiers
      hsecond.identifiers,
    optionRel_unique (readsMapping_unique readsPreferredCitation_unique)
      hfirst.preferredCitation hsecond.preferredCitation⟩

private theorem text_reads : Check.Reads text Literally :=
  text_yields.reads.imp fun _ _ h => h.1

private theorem HoldsTextSuch.literally {condition : String → Prop} {value : Value}
    {string : String} (h : HoldsTextSuch condition value string) : Literally value string :=
  h.1.1

private theorem version_reads : Check.Reads version Literally :=
  version_yields.reads.imp fun _ _ => HoldsTextSuch.literally

private theorem date_reads : Check.Reads date Literally :=
  date_yields.reads.imp fun _ _ => HoldsTextSuch.literally

private theorem url_reads : Check.Reads url Literally :=
  url_yields.reads.imp fun _ _ => HoldsTextSuch.literally

private theorem orcid_reads : Check.Reads orcid Literally :=
  orcid_yields.reads.imp fun _ _ => HoldsTextSuch.literally

private theorem doi_reads : Check.Reads doi Literally :=
  doi_yields.reads.imp fun _ _ h => h.1

private theorem natural_reads : Check.Reads natural Denotes :=
  natural_yields.reads.imp fun _ _ h => h.1

private theorem positive_reads : Check.Reads positive Denotes :=
  positive_yields.reads.imp fun _ _ h => h.1

private theorem month_reads : Check.Reads month Denotes :=
  month_yields.reads.imp fun _ _ h => h.1

private theorem Check.Reads.optionalList {check : Check (List α)} {reading : Value → α → Prop}
    (h : check.Reads (ReadsItems reading)) {fields : Fields} {key : String} {results : List α}
    (hresults : (optionalList fields key check).value? = some results) :
    ReadsList fields.entries key reading results := by
  simp only [Schema.optionalList, Checked.value?_map, Option.map_eq_some_iff] at hresults
  obtain ⟨list?, hlist, rfl⟩ := hresults
  have hread := h.optional hlist
  cases hfield : field? fields.entries key with
  | none =>
      rw [hfield] at hread
      cases hread
      exact .absent hfield
  | some value =>
      rw [hfield] at hread
      cases hread with
      | some hitems => exact .present hfield hitems

private theorem author_reads : Check.Reads author (ReadsMapping ReadsAuthor) := by
  intro path value result h
  obtain ⟨entries, hmapping, hfields⟩ := authorYields_of_author h
  refine ⟨entries, hmapping, ?_⟩
  cases hfields with
  | entity hfields =>
      exact .entity ⟨text_reads.required hfields.name, text_reads.optional hfields.email⟩
  | person hfields =>
      exact .person ⟨hfields.noName, text_reads.required hfields.familyNames,
        text_reads.optional hfields.givenNames, text_reads.optional hfields.affiliation,
        orcid_reads.optional hfields.orcid, text_reads.optional hfields.email⟩

theorem authors_reads_of {reading : Value → Author → Prop} (h : Check.Reads author reading) :
    Check.Reads authors (ReadsItems reading) := by
  intro path value results hresults
  by_cases hempty : value.sequence? = some []
  · simp [authors_of_empty hempty] at hresults
  · rw [authors_of_ne_empty hempty] at hresults
    exact h.listOf path value results hresults

private theorem authors_reads : Check.Reads authors ReadsAuthors :=
  authors_reads_of author_reads

private theorem identifier_reads : Check.Reads identifier (ReadsMapping ReadsIdentifier) := by
  intro path value result h
  unfold identifier at h
  cases hmapping : value.mapping? with
  | none => simp [hmapping] at h
  | some entries =>
      refine ⟨entries, hmapping, ?_⟩
      simp only [hmapping, Checked.map_eq, Checked.seq_eq, Checked.value?_apply_eq_some,
        Checked.value?_map, Option.map_eq_some_iff, ↓existsAndEq, and_assoc, exists_and_left,
        true_and] at h
      obtain ⟨description, hdescription, ⟨kind, string⟩, htyped, rfl⟩ := h
      obtain ⟨hkind, ⟨text, hfound, htext⟩, -⟩ := typedValue_eq_some_iff.mp htyped
      exact ⟨hkind, ⟨text, hfound, htext.1⟩, text_reads.optional hdescription⟩

private theorem preferredCitation_reads :
    Check.Reads preferredCitation (ReadsMapping ReadsPreferredCitation) := by
  intro path value result h
  obtain ⟨entries, hmapping, hfields⟩ := citationYields_of_preferredCitation h
  have hnumber := natural_reads.optional hfields.number
  rw [field?_numberKey] at hnumber
  exact ⟨entries, hmapping, citationType_yields.reads.required hfields.type,
    authors_reads.required hfields.authors, text_reads.required hfields.title,
    text_reads.optional hfields.journal, text_reads.optional hfields.publisher,
    natural_reads.optional hfields.volume, hnumber,
    textOrNumber_yields.reads.optional hfields.pages, positive_reads.optional hfields.year,
    month_reads.optional hfields.month, doi_reads.optional hfields.doi,
    url_reads.optional hfields.url⟩

theorem document_reads {root : Value} {result : Record}
    (h : (document root).value? = some result) : ReadsMapping ReadsRecord root result := by
  obtain ⟨entries, hmapping, hfields⟩ := recordYields_of_document h
  exact ⟨entries, hmapping, version_reads.required hfields.cffVersion,
    text_reads.required hfields.message, authors_reads.required hfields.authors,
    text_reads.required hfields.title, textOrNumber_yields.reads.optional hfields.version,
    date_reads.optional hfields.dateReleased, text_reads.optional hfields.abstract,
    url_reads.optional hfields.url, url_reads.optional hfields.repositoryCode,
    text_reads.optional hfields.license, url_reads.optional hfields.licenseUrl,
    keyword_yields.reads.listOf.optionalList hfields.keywords,
    identifier_reads.listOf.optionalList hfields.identifiers,
    preferredCitation_reads.optional hfields.preferredCitation⟩

end Schema

namespace Validated

/-- The record of an accepted document is the one record that the document reads as. -/
theorem ofDocument_reads_iff {root : Yaml.Value} {validated : Validated}
    (h : ofDocument root = .ok validated) (record : Record) :
    Schema.ReadsMapping Schema.ReadsRecord root record ↔ record = validated.record := by
  have hreads := Schema.document_reads (value?_of_ofChecked_eq_ok h)
  constructor
  · intro hrecord
    exact Schema.readsMapping_unique Schema.readsRecord_unique hrecord hreads
  · rintro rfl
    exact hreads

/-- A document with blanks, tags and nulls, an author of each kind and an `issue`. -/
def sampleDocument : Yaml.Value :=
  .tagged "!cff" (.mapping [
    (.string "message", .string " Please cite. "),
    (.string "cff-version", .string "1.2.0"),
    (.string "title", .tagged "!text" (.string "A {Tool}")),
    (.string "version", .number (.integer 2)),
    (.string "abstract", .null),
    (.string "keywords", .sequence [.string "b", .string "", .string "a"]),
    (.string "authors", .sequence [
      .mapping [(.string "family-names", .string "Lee"), (.string "email", .null)],
      .mapping [(.string "name", .string "The Team"), (.string "family-names", .null)]]),
    (.string "preferred-citation", .mapping [
      (.string "type", .string "article"),
      (.string "title", .string "On Tools"),
      (.string "journal", .string "Tools"),
      (.string "authors", .sequence [.mapping [(.string "name", .string "The Team")]]),
      (.string "volume", .string " +07 "),
      (.string "issue", .number (.integer 4)),
      (.string "number", .tagged "!none" .null)])])

def sampleRecord : Record where
  cffVersion := "1.2.0"
  message := " Please cite. "
  authors := [.person { familyNames := "Lee" }, .entity { name := "The Team" }]
  title := "A {Tool}"
  version := some "2"
  dateReleased := none
  abstract := none
  url := none
  repositoryCode := none
  license := none
  licenseUrl := none
  keywords := ["b", "", "a"]
  identifiers := []
  preferredCitation := some {
    type := .article
    authors := [.entity { name := "The Team" }]
    title := "On Tools"
    journal := some "Tools"
    publisher := none
    volume := some 7
    number := some 4
    pages := none
    year := none
    month := none
    doi := none
    url := none }

theorem sampleDocument_reads_iff :
    ofDocument sampleDocument = .ok ⟨sampleRecord, []⟩ ∧
      ∀ record, Schema.ReadsMapping Schema.ReadsRecord sampleDocument record ↔
        record = sampleRecord :=
  have haccepted : ofDocument sampleDocument = .ok ⟨sampleRecord, []⟩ := by decide +kernel
  ⟨haccepted, ofDocument_reads_iff haccepted⟩

end Validated

end CitationFile
