import CitationFile.Proofs.Schema.Scalar
import CitationFile.Validation

/-! The schema of a citation file, stated on the document alone, and the proof that validation
accepts the documents of this schema and no others. -/

namespace CitationFile

namespace Schema

open Yaml Text

def IsText (value : Value) : Prop :=
  ∃ string, HoldsText value string

def IsTextSuch (condition : String → Prop) (value : Value) : Prop :=
  ∃ string, HoldsText value string ∧ condition string

def IsTextOrNumber (value : Value) : Prop :=
  (∃ number, value = .number number) ∨ IsText value

def IsNaturalSuch (condition : Nat → Prop) (value : Value) : Prop :=
  ∃ number, Denotes value number ∧ number < numberBound ∧ condition number

def IsString (value : Value) : Prop :=
  ∃ string, value.string? = some string

def IsMappingOf (valid : List (Value × Value) → Prop) (value : Value) : Prop :=
  ∃ entries, value.mapping? = some entries ∧ valid entries

structure IsEntity (entries : List (Value × Value)) : Prop where
  name : Required entries "name" IsText
  noFamilyNames : field? entries "family-names" = none
  email : Optional entries "email" IsText

structure IsPerson (entries : List (Value × Value)) : Prop where
  noName : field? entries "name" = none
  familyNames : Required entries "family-names" IsText
  givenNames : Optional entries "given-names" IsText
  affiliation : Optional entries "affiliation" IsText
  orcid : Optional entries "orcid" (IsTextSuch IsOrcid)
  email : Optional entries "email" IsText

def IsAuthor : Value → Prop :=
  IsMappingOf fun entries => IsEntity entries ∨ IsPerson entries

def IsAuthors (value : Value) : Prop :=
  IsListOf IsAuthor value ∧ value.sequence? ≠ some []

/-- The value of an identifier must suit its type: only that of a URL is bound to a form. -/
structure IsIdentifierOf (kind : IdentifierType) (entries : List (Value × Value)) : Prop where
  type : Required entries "type" fun value => value.string? = some kind.name
  value : Required entries "value" (IsTextSuch fun string => kind = .url → IsUrl string)
  description : Optional entries "description" IsText

def IsIdentifier : Value → Prop :=
  IsMappingOf fun entries => ∃ kind, IsIdentifierOf kind entries

/-- The number of an issue, by the first of its names that is there. -/
def numberField? (entries : List (Value × Value)) : Option Value :=
  field? entries "number" <|> field? entries "issue"

structure IsPreferredCitation (entries : List (Value × Value)) : Prop where
  type : Required entries "type" fun value =>
    ∃ kind : CitationType, value.string? = some kind.name
  authors : Required entries "authors" IsAuthors
  title : Required entries "title" IsText
  journal : Optional entries "journal" IsText
  publisher : Optional entries "publisher" IsText
  volume : Optional entries "volume" (IsNaturalSuch fun _ => True)
  number : ∀ value, numberField? entries = some value → IsNaturalSuch (fun _ => True) value
  pages : Optional entries "pages" IsTextOrNumber
  year : Optional entries "year" (IsNaturalSuch fun year => year ≠ 0)
  month : Optional entries "month" (IsNaturalSuch fun month => 1 ≤ month ∧ month ≤ 12)
  doi : Optional entries "doi" IsText
  url : Optional entries "url" (IsTextSuch IsUrl)

structure IsRecord (entries : List (Value × Value)) : Prop where
  cffVersion : Required entries "cff-version" (IsTextSuch fun string => IsVersion string.toList)
  message : Required entries "message" IsText
  authors : Required entries "authors" IsAuthors
  title : Required entries "title" IsText
  version : Optional entries "version" IsTextOrNumber
  dateReleased : Optional entries "date-released"
    (IsTextSuch fun string => IsCalendarDate string.toList)
  abstract : Optional entries "abstract" IsText
  url : Optional entries "url" (IsTextSuch IsUrl)
  repositoryCode : Optional entries "repository-code" (IsTextSuch IsUrl)
  license : Optional entries "license" IsText
  licenseUrl : Optional entries "license-url" (IsTextSuch IsUrl)
  keywords : Optional entries "keywords" (IsListOf IsString)
  identifiers : Optional entries "identifiers" (IsListOf IsIdentifier)
  preferredCitation : Optional entries "preferred-citation" (IsMappingOf IsPreferredCitation)

def IsCitationFile : Value → Prop :=
  IsMappingOf IsRecord

private theorem Check.Accepts.congr {check : Check α} {valid other : Value → Prop}
    (h : check.Accepts valid) (heq : ∀ value, valid value ↔ other value) : check.Accepts other :=
  fun path value => (h path value).trans (heq value)

private theorem text_accepts : Check.Accepts text IsText :=
  text_yields.accepts

private theorem textOrNumber_accepts : Check.Accepts textOrNumber IsTextOrNumber := by
  apply textOrNumber_yields.accepts.congr
  intro value
  constructor
  · rintro ⟨string, number | htext⟩
    · exact .inl ⟨_, rfl⟩
    · exact .inr ⟨_, htext⟩
  · rintro (⟨number, rfl⟩ | ⟨string, htext⟩)
    · exact ⟨_, .number number⟩
    · exact ⟨string, .text htext⟩

private theorem natural_accepts : Check.Accepts natural (IsNaturalSuch fun _ => True) :=
  natural_yields.accepts.congr fun _ => by simp [DenotesSuch, IsNaturalSuch]

private theorem positive_accepts : Check.Accepts positive (IsNaturalSuch fun year => year ≠ 0) :=
  positive_yields.accepts

private theorem month_accepts :
    Check.Accepts month (IsNaturalSuch fun month => 1 ≤ month ∧ month ≤ 12) :=
  month_yields.accepts

private theorem entity_accepts (path : Path) (entries : List (Value × Value)) :
    (entity ⟨path, entries⟩ (optional ⟨path, entries⟩ "email" text)).value?.isSome ↔
      Required entries "name" IsText ∧ Optional entries "email" IsText := by
  simp only [entity, Checked.map_eq, Checked.seq_eq, Checked.isSome_value?_apply,
    Checked.value?_map, Option.isSome_map, Bool.and_eq_true, text_accepts.optional,
    text_accepts.required]
  exact and_comm

private theorem person_accepts (path : Path) (entries : List (Value × Value)) :
    (person ⟨path, entries⟩ (optional ⟨path, entries⟩ "email" text)).value?.isSome ↔
      Optional entries "email" IsText ∧ Required entries "family-names" IsText ∧
        Optional entries "given-names" IsText ∧ Optional entries "affiliation" IsText ∧
        Optional entries "orcid" (IsTextSuch IsOrcid) := by
  simp only [person, Checked.map_eq, Checked.seq_eq, Checked.isSome_value?_apply,
    Checked.value?_map, Option.isSome_map, Bool.and_eq_true, text_accepts.optional,
    text_accepts.required, orcid_yields.accepts.optional, and_assoc]
  rfl

private theorem author_accepts : Check.Accepts author IsAuthor := by
  intro path value
  unfold author IsAuthor IsMappingOf
  cases value.mapping? with
  | none => simp
  | some entries =>
      simp only [Fields.find?_eq, Option.some.injEq, exists_eq_left']
      cases hname : field? entries "name" with
      | none =>
          have hentity : ¬ IsEntity entries := by
            rintro ⟨⟨name, hpresent, -⟩, -, -⟩
            simp [hname] at hpresent
          cases hfamily : field? entries "family-names" with
          | none =>
              have hperson : ¬ IsPerson entries := by
                rintro ⟨-, ⟨family, hpresent, -⟩, -⟩
                simp [hfamily] at hpresent
              simp [hentity, hperson]
          | some family =>
              simp only [person_accepts, hentity, false_or]
              constructor
              · rintro ⟨hemail, hfamilyNames, hgiven, haffiliation, horcid⟩
                exact ⟨hname, hfamilyNames, hgiven, haffiliation, horcid, hemail⟩
              · intro h
                exact ⟨h.email, h.familyNames, h.givenNames, h.affiliation, h.orcid⟩
      | some name =>
          have hperson : ¬ IsPerson entries := by
            rintro ⟨habsent, -⟩
            simp [hname] at habsent
          cases hfamily : field? entries "family-names" with
          | none =>
              simp only [entity_accepts, hperson, or_false]
              constructor
              · rintro ⟨hnamed, hemail⟩
                exact ⟨hnamed, hfamily, hemail⟩
              · intro h
                exact ⟨h.name, h.email⟩
          | some family =>
              have hentity : ¬ IsEntity entries := by
                rintro ⟨-, habsent, -⟩
                simp [hfamily] at habsent
              simp [hentity, hperson]

theorem authors_of_empty {path : Path} {value : Value} (h : value.sequence? = some []) :
    authors path value = .reject path .noAuthors := by
  simp [authors, h]

theorem authors_of_ne_empty {path : Path} {value : Value} (h : value.sequence? ≠ some []) :
    authors path value = listOf author path value := by
  unfold authors
  split
  · contradiction
  · rfl

private theorem authors_accepts : Check.Accepts authors IsAuthors := by
  intro path value
  rw [IsAuthors, ← author_accepts.listOf path]
  by_cases hempty : value.sequence? = some []
  · simp [authors_of_empty hempty, hempty]
  · simp [authors_of_ne_empty hempty, hempty]

theorem checkIdentifier_eq_some_iff {path : Path} {kind : IdentifierType}
    {string result : String} :
    (checkIdentifier path kind string).value? = some result ↔
      (kind = .url → IsUrl string) ∧ string = result := by
  cases kind <;> simp [checkIdentifier, checkUrl_eq_some_iff, checkDoi_eq_some_iff]

theorem typedValue_eq_some_iff {fields : Fields} {kind : IdentifierType} {string : String} :
    (typedValue fields).value? = some (kind, string) ↔
      ReadsField fields.entries "type" (fun value kind => value.string? = some kind.name) kind ∧
      ReadsField fields.entries "value" HoldsText string ∧ (kind = .url → IsUrl string) := by
  simp only [typedValue, Checked.map_eq, Checked.seq_eq, Checked.value?_andThen,
    Option.bind_eq_some_iff, Checked.value?_apply_eq_some, Checked.value?_map,
    Option.map_eq_some_iff, identifierType_yields.required, text_yields.required,
    checkIdentifier_eq_some_iff]
  constructor
  · rintro ⟨_, ⟨_, text, ⟨kind, hkind, rfl⟩, htext, rfl⟩, _, ⟨hsuits, rfl⟩, heq⟩
    cases heq
    exact ⟨hkind, htext, hsuits⟩
  · rintro ⟨hkind, htext, hsuits⟩
    exact ⟨(kind, string), ⟨_, string, ⟨kind, hkind, rfl⟩, htext, rfl⟩, string, ⟨hsuits, rfl⟩, rfl⟩

private theorem typedValue_accepts {fields : Fields} :
    (typedValue fields).value?.isSome ↔
      ∃ kind : IdentifierType,
        Required fields.entries "type" (fun value => value.string? = some kind.name) ∧
        Required fields.entries "value" (IsTextSuch fun string => kind = .url → IsUrl string) := by
  rw [Option.isSome_iff_exists]
  constructor
  · rintro ⟨⟨kind, string⟩, h⟩
    obtain ⟨hkind, ⟨value, hvalue, htext⟩, hsuits⟩ := typedValue_eq_some_iff.mp h
    exact ⟨kind, hkind, value, hvalue, string, htext, hsuits⟩
  · rintro ⟨kind, hkind, value, hvalue, string, htext, hsuits⟩
    exact ⟨(kind, string), typedValue_eq_some_iff.mpr ⟨hkind, ⟨value, hvalue, htext⟩, hsuits⟩⟩

private theorem identifier_accepts : Check.Accepts identifier IsIdentifier := by
  intro path value
  unfold identifier IsIdentifier IsMappingOf
  cases value.mapping? with
  | none => simp
  | some entries =>
      simp only [Checked.map_eq, Checked.seq_eq, Checked.isSome_value?_apply,
        Checked.value?_map, Option.isSome_map, Bool.and_eq_true, text_accepts.optional,
        typedValue_accepts, Option.some.injEq, exists_eq_left']
      constructor
      · rintro ⟨hdescription, kind, hkind, hvalue⟩
        exact ⟨kind, hkind, hvalue, hdescription⟩
      · rintro ⟨kind, h⟩
        exact ⟨h.description, kind, h.type, h.value⟩

theorem field?_numberKey (path : Path) (entries : List (Value × Value)) :
    field? entries (numberKey ⟨path, entries⟩) = numberField? entries := by
  unfold numberKey numberField?
  rw [Fields.find?_eq]
  cases hnumber : field? entries "number" with
  | none => simp
  | some value => simpa using hnumber

theorem optional_numberKey_iff {path : Path} {entries : List (Value × Value)}
    {valid : Value → Prop} :
    Optional entries (numberKey ⟨path, entries⟩) valid ↔
      ∀ value, numberField? entries = some value → valid value := by
  unfold Optional
  rw [field?_numberKey]

theorem checkJournal_eq_some (fields : Fields) (citation : PreferredCitation) :
    (checkJournal fields citation).value? = some citation := by
  simp [checkJournal]

private theorem preferredCitation_accepts :
    Check.Accepts preferredCitation (IsMappingOf IsPreferredCitation) := by
  intro path value
  unfold preferredCitation IsMappingOf
  cases value.mapping? with
  | none => simp
  | some entries =>
      simp only [Checked.map_eq, Checked.seq_eq, Checked.value?_andThen, checkJournal_eq_some,
        Option.bind_fun_some, Checked.isSome_value?_apply, Checked.value?_map, Option.isSome_map,
        Bool.and_eq_true, and_assoc, text_accepts.required, text_accepts.optional,
        citationType_yields.accepts.required, authors_accepts.required,
        natural_accepts.optional, textOrNumber_accepts.optional, positive_accepts.optional,
        month_accepts.optional, doi_yields.accepts.optional, url_yields.accepts.optional,
        optional_numberKey_iff, Option.some.injEq, exists_eq_left']
      constructor
      · rintro ⟨htype, hauthors, htitle, hjournal, hpublisher, hvolume, hnumber, hpages, hyear,
          hmonth, hdoi, hurl⟩
        exact ⟨htype, hauthors, htitle, hjournal, hpublisher, hvolume, hnumber, hpages, hyear,
          hmonth, hdoi, hurl⟩
      · intro h
        exact ⟨h.type, h.authors, h.title, h.journal, h.publisher, h.volume, h.number, h.pages,
          h.year, h.month, h.doi, h.url⟩

private theorem record_accepts (path : Path) (entries : List (Value × Value)) :
    (record ⟨path, entries⟩).value?.isSome ↔ IsRecord entries := by
  simp only [record, Checked.map_eq, Checked.seq_eq, Checked.isSome_value?_apply,
    Checked.value?_map, Option.isSome_map, Bool.and_eq_true, and_assoc, text_accepts.required,
    text_accepts.optional, version_yields.accepts.required, authors_accepts.required,
    textOrNumber_accepts.optional, date_yields.accepts.optional, url_yields.accepts.optional,
    keyword_yields.accepts.listOf.optionalList, identifier_accepts.listOf.optionalList,
    preferredCitation_accepts.optional]
  constructor
  · rintro ⟨hversion, hmessage, hauthors, htitle, hsoftware, hdate, habstract, hurl, hcode,
      hlicense, hlicenseUrl, hkeywords, hidentifiers, hpreferred⟩
    exact ⟨hversion, hmessage, hauthors, htitle, hsoftware, hdate, habstract, hurl, hcode,
      hlicense, hlicenseUrl, hkeywords, hidentifiers, hpreferred⟩
  · intro h
    exact ⟨h.cffVersion, h.message, h.authors, h.title, h.version, h.dateReleased, h.abstract,
      h.url, h.repositoryCode, h.license, h.licenseUrl, h.keywords, h.identifiers,
      h.preferredCitation⟩

theorem document_accepts (root : Value) : (document root).value?.isSome ↔ IsCitationFile root := by
  unfold document IsCitationFile IsMappingOf
  cases root.mapping? with
  | none => simp
  | some entries => simp [record_accepts]

end Schema

theorem Validated.exists_ofChecked_eq_ok_iff (checked : Schema.Checked Record) :
    (∃ validated, ofChecked checked = .ok validated) ↔ checked.value?.isSome := by
  cases checked with
  | accepted record cautions => simp [ofChecked, Schema.Checked.value?]
  | rejected first others => simp [ofChecked, Schema.Checked.value?]

/-- Validation succeeds for the documents of the schema and fails for all others. -/
theorem Validated.ofDocument_ok_iff_isCitationFile (root : Yaml.Value) :
    (∃ validated, Validated.ofDocument root = .ok validated) ↔ Schema.IsCitationFile root :=
  (exists_ofChecked_eq_ok_iff _).trans (Schema.document_accepts root)

end CitationFile
