import CitationFile.Schema.Scalar

namespace CitationFile.Schema

open Yaml

def entity (fields : Fields) (email : Checked (Option String)) : Checked Author :=
  (fun email name => .entity ⟨name, email⟩) <$> email <*> required fields "name" text

def person (fields : Fields) (email : Checked (Option String)) : Checked Author :=
  (fun email family given affiliation orcid => .person ⟨family, given, orcid, affiliation, email⟩)
    <$> email
    <*> required fields "family-names" text
    <*> optional fields "given-names" text
    <*> optional fields "affiliation" text
    <*> optional fields "orcid" orcid

/-- An author is told by the name that is present, of which there must be exactly one. -/
def author : Check Author := fun path value =>
  match value.mapping? with
  | none => .reject path (.notAuthor (Kind.of value))
  | some entries =>
      let fields : Fields := ⟨path, entries⟩
      let email := optional fields "email" text
      match fields.find? "name", fields.find? "family-names" with
      | some _, some _ => email *> .reject path .twoNames
      | none, none => email *> .reject path .noName
      | some _, none => entity fields email
      | none, some _ => person fields email

def authors : Check (List Author) := fun path value =>
  if value.sequence? matches some [] then .reject path .noAuthors
  else listOf author path value

/-- A keyword may be blank. -/
def keyword : Check String := fun path value =>
  match value.string? with
  | some string => .accept string
  | none => .reject path (.notString (Kind.of value))

def identifierType : Check IdentifierType := fun path value =>
  (text path value).andThen fun name =>
    match IdentifierType.ofName? name with
    | some type => .accept type
    | none => .reject path (.unknownIdentifierType name)

def checkIdentifier (path : Path) (type : IdentifierType) (value : String) : Checked String :=
  match type with
  | .url => checkUrl path value
  | .doi => checkDoi path value
  | .swh | .other => .accept value

def typedValue (fields : Fields) : Checked (IdentifierType × String) :=
  (Prod.mk <$> required fields "type" identifierType <*> required fields "value" text).andThen
    fun (type, value) =>
      (checkIdentifier (fields.pathOf "value") type value).map fun value => (type, value)

def identifier : Check Identifier := fun path value =>
  match value.mapping? with
  | none => .reject path (.notMapping (Kind.of value))
  | some entries =>
      let fields : Fields := ⟨path, entries⟩
      (fun description (type, value) => ⟨type, value, description⟩)
        <$> optional fields "description" text
        <*> typedValue fields

def citationType : Check CitationType := fun path value =>
  (text path value).andThen fun name =>
    match CitationType.ofName? name with
    | some type => .accept type
    | none => .reject path (.unknownCitationType name)

/-- The number of an issue goes by two names, the second of which is read only without the first. -/
def numberKey (fields : Fields) : String :=
  if (fields.find? "number").isSome then "number" else "issue"

def lacksJournal (citation : PreferredCitation) : Bool :=
  citation.type = .article && citation.journal.isNone

def checkJournal (fields : Fields) (citation : PreferredCitation) : Checked PreferredCitation :=
  (Checked.accept citation).warnIf (lacksJournal citation) (fields.pathOf "journal")
    .articleWithoutJournal

def preferredCitation : Check PreferredCitation := fun path value =>
  match value.mapping? with
  | none => .reject path (.notMapping (Kind.of value))
  | some entries =>
      let fields : Fields := ⟨path, entries⟩
      let citation :=
        PreferredCitation.mk
          <$> required fields "type" citationType
          <*> required fields "authors" authors
          <*> required fields "title" text
          <*> optional fields "journal" text
          <*> optional fields "publisher" text
          <*> optional fields "volume" natural
          <*> optional fields (numberKey fields) natural
          <*> optional fields "pages" textOrNumber
          <*> optional fields "year" positive
          <*> optional fields "month" month
          <*> optional fields "doi" doi
          <*> optional fields "url" url
      citation.andThen (checkJournal fields)

def requiredKeys : List String := ["cff-version", "message", "authors", "title"]

def record (fields : Fields) : Checked Record :=
  Record.mk
    <$> required fields "cff-version" version
    <*> required fields "message" text
    <*> required fields "authors" authors
    <*> required fields "title" text
    <*> optional fields "version" textOrNumber
    <*> optional fields "date-released" date
    <*> optional fields "abstract" text
    <*> optional fields "url" url
    <*> optional fields "repository-code" url
    <*> optional fields "license" text
    <*> optional fields "license-url" url
    <*> optionalList fields "keywords" (listOf keyword)
    <*> optionalList fields "identifiers" (listOf identifier)
    <*> optional fields "preferred-citation" preferredCitation

def document (root : Value) : Checked Record :=
  match root.mapping? with
  | none => .reject [] (.notCitation (Kind.of root))
  | some entries => record ⟨[], entries⟩

end CitationFile.Schema
