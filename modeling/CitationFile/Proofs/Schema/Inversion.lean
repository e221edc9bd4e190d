import CitationFile.Proofs.Schema.Acceptance

namespace CitationFile.Schema

open Yaml

structure EntityYields (fields : Fields) (entity : Entity) : Prop where
  name : (required fields "name" text).value? = some entity.name
  email : (optional fields "email" text).value? = some entity.email

structure PersonYields (fields : Fields) (person : Person) : Prop where
  noName : fields.find? "name" = none
  familyNames : (required fields "family-names" text).value? = some person.familyNames
  givenNames : (optional fields "given-names" text).value? = some person.givenNames
  affiliation : (optional fields "affiliation" text).value? = some person.affiliation
  orcid : (optional fields "orcid" orcid).value? = some person.orcid
  email : (optional fields "email" text).value? = some person.email

inductive AuthorYields (fields : Fields) : Author → Prop
  | entity {entity : Entity} (hyields : EntityYields fields entity) :
      AuthorYields fields (.entity entity)
  | person {person : Person} (hyields : PersonYields fields person) :
      AuthorYields fields (.person person)

structure CitationYields (fields : Fields) (citation : PreferredCitation) : Prop where
  type : (required fields "type" citationType).value? = some citation.type
  authors : (required fields "authors" authors).value? = some citation.authors
  title : (required fields "title" text).value? = some citation.title
  journal : (optional fields "journal" text).value? = some citation.journal
  publisher : (optional fields "publisher" text).value? = some citation.publisher
  volume : (optional fields "volume" natural).value? = some citation.volume
  number : (optional fields (numberKey fields) natural).value? = some citation.number
  pages : (optional fields "pages" textOrNumber).value? = some citation.pages
  year : (optional fields "year" positive).value? = some citation.year
  month : (optional fields "month" month).value? = some citation.month
  doi : (optional fields "doi" doi).value? = some citation.doi
  url : (optional fields "url" Schema.url).value? = some citation.url

structure RecordYields (fields : Fields) (record : Record) : Prop where
  cffVersion : (required fields "cff-version" version).value? = some record.cffVersion
  message : (required fields "message" text).value? = some record.message
  authors : (required fields "authors" authors).value? = some record.authors
  title : (required fields "title" text).value? = some record.title
  version : (optional fields "version" textOrNumber).value? = some record.version
  dateReleased : (optional fields "date-released" date).value? = some record.dateReleased
  abstract : (optional fields "abstract" text).value? = some record.abstract
  url : (optional fields "url" Schema.url).value? = some record.url
  repositoryCode :
    (optional fields "repository-code" Schema.url).value? = some record.repositoryCode
  license : (optional fields "license" text).value? = some record.license
  licenseUrl : (optional fields "license-url" Schema.url).value? = some record.licenseUrl
  keywords : (optionalList fields "keywords" (listOf keyword)).value? = some record.keywords
  identifiers :
    (optionalList fields "identifiers" (listOf identifier)).value? = some record.identifiers
  preferredCitation :
    (optional fields "preferred-citation" preferredCitation).value? =
      some record.preferredCitation

private theorem authorYields_of_entity {fields : Fields} {author : Author}
    (h : (entity fields (optional fields "email" text)).value? = some author) :
    AuthorYields fields author := by
  simp only [entity, Checked.map_eq, Checked.seq_eq, Checked.value?_apply_eq_some,
    Checked.value?_map, Option.map_eq_some_iff, ↓existsAndEq, and_assoc, exists_and_left,
    true_and] at h
  obtain ⟨email, hemail, name, hname, rfl⟩ := h
  exact .entity ⟨hname, hemail⟩

private theorem authorYields_of_person {fields : Fields} {author : Author}
    (hname : fields.find? "name" = none)
    (h : (person fields (optional fields "email" text)).value? = some author) :
    AuthorYields fields author := by
  simp only [person, Checked.map_eq, Checked.seq_eq, Checked.value?_apply_eq_some,
    Checked.value?_map, Option.map_eq_some_iff, ↓existsAndEq, and_assoc, exists_and_left,
    true_and] at h
  obtain ⟨email, hemail, family, hfamily, given, hgiven, affiliation, haffiliation, link, hlink,
    rfl⟩ := h
  exact .person ⟨hname, hfamily, hgiven, haffiliation, hlink, hemail⟩

theorem authorYields_of_author {path : Path} {value : Value} {result : Author}
    (h : (author path value).value? = some result) :
    ∃ entries, value.mapping? = some entries ∧ AuthorYields ⟨path, entries⟩ result := by
  unfold author at h
  cases hmapping : value.mapping? with
  | none => simp [hmapping] at h
  | some entries =>
      refine ⟨entries, rfl, ?_⟩
      simp only [hmapping] at h
      cases hname : Fields.find? ⟨path, entries⟩ "name" with
      | none =>
          cases hfamily : Fields.find? ⟨path, entries⟩ "family-names" with
          | none => simp [hname, hfamily] at h
          | some family =>
              simp only [hname, hfamily] at h
              exact authorYields_of_person hname h
      | some name =>
          cases hfamily : Fields.find? ⟨path, entries⟩ "family-names" with
          | none =>
              simp only [hname, hfamily] at h
              exact authorYields_of_entity h
          | some family => simp [hname, hfamily] at h

theorem citationYields_of_preferredCitation {path : Path} {value : Value}
    {citation : PreferredCitation} (h : (preferredCitation path value).value? = some citation) :
    ∃ entries, value.mapping? = some entries ∧ CitationYields ⟨path, entries⟩ citation := by
  unfold preferredCitation at h
  cases hmapping : value.mapping? with
  | none => simp [hmapping] at h
  | some entries =>
      refine ⟨entries, rfl, ?_⟩
      simp only [hmapping, Checked.map_eq, Checked.seq_eq, Checked.value?_andThen,
        checkJournal_eq_some, Option.bind_fun_some, Checked.value?_apply_eq_some,
        Checked.value?_map, Option.map_eq_some_iff, ↓existsAndEq, and_assoc, exists_and_left,
        true_and] at h
      obtain ⟨kind, hkind, names, hnames, title, htitle, journal, hjournal, publisher, hpublisher,
        volume, hvolume, number, hnumber, pages, hpages, year, hyear, month, hmonth, doi, hdoi,
        url, hurl, rfl⟩ := h
      exact ⟨hkind, hnames, htitle, hjournal, hpublisher, hvolume, hnumber, hpages, hyear, hmonth,
        hdoi, hurl⟩

theorem recordYields_of_record {fields : Fields} {result : Record}
    (h : (record fields).value? = some result) : RecordYields fields result := by
  simp only [record, Checked.map_eq, Checked.seq_eq, Checked.value?_apply_eq_some,
    Checked.value?_map, Option.map_eq_some_iff, ↓existsAndEq, and_assoc, exists_and_left,
    true_and] at h
  obtain ⟨version, hversion, message, hmessage, names, hnames, title, htitle, software, hsoftware,
    date, hdate, abstract, habstract, url, hurl, code, hcode, license, hlicense, licenseUrl,
    hlicenseUrl, keywords, hkeywords, identifiers, hidentifiers, preferred, hpreferred, rfl⟩ := h
  exact ⟨hversion, hmessage, hnames, htitle, hsoftware, hdate, habstract, hurl, hcode, hlicense,
    hlicenseUrl, hkeywords, hidentifiers, hpreferred⟩

theorem recordYields_of_document {root : Value} {result : Record}
    (h : (document root).value? = some result) :
    ∃ entries, root.mapping? = some entries ∧ RecordYields ⟨[], entries⟩ result := by
  unfold document at h
  cases hmapping : root.mapping? with
  | none => simp [hmapping] at h
  | some entries =>
      rw [hmapping] at h
      exact ⟨entries, rfl, recordYields_of_record h⟩

end CitationFile.Schema

namespace CitationFile.Validated

theorem value?_of_ofChecked_eq_ok {checked : Schema.Checked Record} {validated : Validated}
    (h : ofChecked checked = .ok validated) : checked.value? = some validated.record := by
  cases checked with
  | accepted record cautions =>
      cases h
      rfl
  | rejected first others => cases h

end CitationFile.Validated
