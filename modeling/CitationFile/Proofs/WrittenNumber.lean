import CitationFile.Loading
import CitationFile.Proofs.Schema.Difference
import CitationFile.Proofs.Schema.Inversion
import CitationFile.Proofs.Yaml.Numeral
import CitationFile.Proofs.Yaml.Source

/-! A version and pages may be numbers. The record holds the number's own text, which is the text of
the document exactly for the numbers that are written in their kept form. -/

namespace CitationFile

open Yaml

namespace Yaml.Node

/-- The node under a path of keys in a text. -/
def find? (source : String) (keys : List String) : Option Node :=
  (ofText source).bind fun root => keys.foldlM get? root

theorem exists_value_of_find? {source : String} {value : Value}
    {entries : List (Value × Value)} {first : String} {keys : List String} {node : Node}
    (hread : Value.ofText source = .ok value) (hisMapping : value.mapping? = some entries)
    (hfound : find? source (first :: keys) = some node) :
    ∃ child childValue, child.value? false = some childValue ∧
      Value.entry? entries first = some childValue ∧ keys.foldlM get? child = some node := by
  obtain ⟨root, hroot, hfound⟩ := Option.bind_eq_some_iff.mp hfound
  rw [List.foldlM_cons] at hfound
  obtain ⟨child, hchild, hfound⟩ := Option.bind_eq_some_iff.mp hfound
  rcases exists_node_of_ofText hread with rfl | ⟨node, hnode, hmeaning⟩
  · cases hisMapping
  · rw [hroot] at hnode
    cases hnode
    obtain ⟨childValue, hchildMeaning, hentry⟩ := exists_get?_of_get? hmeaning hchild
    rw [Value.get?, hisMapping, Option.bind_some] at hentry
    exact ⟨child, childValue, hchildMeaning, hentry, hfound⟩

private theorem isWritten_of_find? {source : String} {keys : List String} {node : Node}
    (hfound : find? source keys = some node) : node.IsWritten source.toList := by
  obtain ⟨root, hroot, hpath⟩ := Option.bind_eq_some_iff.mp hfound
  have hwritten := isWritten_of_ofText hroot
  clear hfound hroot
  induction keys generalizing root with
  | nil =>
      cases hpath
      exact hwritten
  | cons key keys ih =>
      rw [List.foldlM_cons] at hpath
      obtain ⟨child, hchild, hpath⟩ := Option.bind_eq_some_iff.mp hpath
      exact ih child hpath (hwritten.get? hchild)

theorem isInfix_of_find? {source : String} {keys : List String} {tag : Option (List Char)}
    {text : List Char} {number : Number}
    (hreads : scalarValue tag text .plain = .ok (.number number))
    (hfound : find? source keys = some (.scalar tag text .plain)) : text <:+: source.toList := by
  cases isWritten_of_find? hfound with
  | scalar hpart => exact hpart rfl (isGapless_of_number hreads)

def scalar? : Node → Option (Option (List Char) × List Char × ScalarStyle)
  | .scalar tag text style => some (tag, text, style)
  | _ => none

theorem bind_scalar?_eq_some_iff {node? : Option Node} {tag : Option (List Char)}
    {text : List Char} {style : ScalarStyle} :
    node?.bind scalar? = some (tag, text, style) ↔ node? = some (.scalar tag text style) := by
  cases node? with
  | none => simp
  | some node => cases node <;> simp [scalar?]

theorem value?_of_number {tag : Option (List Char)} {text : List Char} {style : ScalarStyle}
    {number : Number} (hreads : scalarValue tag text style = .ok (.number number)) :
    (Node.scalar tag text style).value? false = some (.number number) := by
  have hnoTag : localTag? tag = none := by
    cases tag with
    | none => rfl
    | some tag =>
        simp only [scalarValue] at hreads
        split at hreads
        case isTrue hcore => rw [hcore]; rfl
        split at hreads
        case isTrue hcore => rw [hcore]; rfl
        split at hreads
        case isTrue hcore => rw [hcore]; rfl
        split at hreads
        case isTrue hcore => rw [hcore]; rfl
        cases hreads
  rw [value?, underTag_none (by simpa using hnoTag), if_neg Bool.false_ne_true, hreads]
  rfl

end Yaml.Node

theorem Yaml.Number.some_text_eq_iff {number : Number} {text : List Char} :
    some number.text = some (String.ofList text) ↔ number.text.toList = text := by
  rw [Option.some.injEq]
  constructor
  · rintro heq
    rw [heq, String.toList_ofList]
  · rintro rfl
    rw [String.ofList_toList]

namespace Schema

theorem optional_number {fields : Fields} {key : String} {number : Number} {field : Option String}
    (hyields : (optional fields key textOrNumber).value? = some field)
    (hnumber : Value.entry? fields.entries key = some (.number number)) :
    field = some number.text := by
  have hfound : fields.find? key = some (.number number) := by
    rw [Fields.find?, hnumber]
    rfl
  rw [optional, hfound] at hyields
  exact (Option.some.inj hyields).symm

theorem exists_citation_of_optional {fields : Fields} {value : Value}
    {entries : List (Value × Value)} {field : Option PreferredCitation}
    (hyields : (optional fields "preferred-citation" preferredCitation).value? = some field)
    (hpresent : Value.entry? fields.entries "preferred-citation" = some value)
    (hisMapping : value.mapping? = some entries) :
    ∃ path citation, field = some citation ∧ CitationYields ⟨path, entries⟩ citation := by
  have hfound : fields.find? "preferred-citation" = some value := by
    rw [Fields.find?, hpresent, Option.filter_some, isNull_of_mapping? hisMapping]
    rfl
  rw [optional, hfound] at hyields
  rw [Checked.value?_map] at hyields
  obtain ⟨citation, hcitation, rfl⟩ := Option.map_eq_some_iff.mp hyields
  obtain ⟨entries', hmappingEq, hcitationYields⟩ := citationYields_of_preferredCitation hcitation
  rw [hisMapping] at hmappingEq
  cases hmappingEq
  exact ⟨_, citation, rfl, hcitationYields⟩

end Schema

namespace Loader

theorem ofDocument_of_loadText {loader : Loader} {source : String} {validated : Validated}
    (hloads : loader.loadText source = .ok validated) :
    ∃ value, Value.ofText source = .ok value ∧ Validated.ofDocument value = .ok validated := by
  unfold loadText Document.parse at hloads
  split at hloads
  case h_1 => cases hloads
  case h_2 root hparsed =>
    split at hparsed
    case h_2 => cases hparsed
    case h_1 value hread =>
      cases hparsed
      refine ⟨_, hread, ?_⟩
      unfold validate at hloads
      split at hloads
      · cases hloads
      case h_2 lenient hvalid =>
        rw [hvalid]
        rw [Except.mapError_eq_ok_iff, Validated.demand] at hloads
        split at hloads
        · cases hloads
        · exact hloads

variable {loader : Loader} {source : String} {validated : Validated} {tag : Option (List Char)}
  {text : List Char} {number : Number}

/-- A plain scalar that is a number is a part of the text, and it stands in the record as it is
written there exactly if it is written in the kept form of numbers, as a version and as the pages of
the preferred citation. -/
theorem writtenNumber_iff (hloads : loader.loadText source = .ok validated)
    (hreads : scalarValue tag text .plain = .ok (.number number)) :
    (Node.find? source ["version"] = some (.scalar tag text .plain) →
      text <:+: source.toList ∧
        (validated.record.version = some (String.ofList text) ↔ IsKept tag text)) ∧
    (Node.find? source ["preferred-citation", "pages"] = some (.scalar tag text .plain) →
      text <:+: source.toList ∧ ∃ citation, validated.record.preferredCitation = some citation ∧
        (citation.pages = some (String.ofList text) ↔ IsKept tag text)) := by
  obtain ⟨value, hread, hvalid⟩ := ofDocument_of_loadText hloads
  obtain ⟨entries, hisMapping, hrecord⟩ :=
    Schema.recordYields_of_document (Validated.value?_of_ofChecked_eq_ok hvalid)
  have hmeaning := Node.value?_of_number hreads
  constructor
  · intro hfound
    obtain ⟨child, childValue, hchildMeaning, hentry, hrest⟩ :=
      Node.exists_value_of_find? hread hisMapping hfound
    cases hrest
    rw [hmeaning] at hchildMeaning
    cases hchildMeaning
    refine ⟨Node.isInfix_of_find? hreads hfound, ?_⟩
    rw [Schema.optional_number hrecord.version hentry, Number.some_text_eq_iff,
      text_eq_iff_isKept hreads]
  · intro hfound
    obtain ⟨child, childValue, hchildMeaning, hentry, hrest⟩ :=
      Node.exists_value_of_find? hread hisMapping hfound
    rw [List.foldlM_cons] at hrest
    obtain ⟨pages, hpages, hrest⟩ := Option.bind_eq_some_iff.mp hrest
    cases hrest
    obtain ⟨pagesValue, hpagesMeaning, hpagesEntry⟩ := Node.exists_get?_of_get? hchildMeaning hpages
    rw [hmeaning] at hpagesMeaning
    cases hpagesMeaning
    obtain ⟨citationEntries, hcitationMapping, hpagesEntry⟩ :=
      Option.bind_eq_some_iff.mp hpagesEntry
    obtain ⟨path, citation, hcitation, hyields⟩ :=
      Schema.exists_citation_of_optional hrecord.preferredCitation hentry hcitationMapping
    refine ⟨Node.isInfix_of_find? hreads hfound, citation, hcitation, ?_⟩
    rw [Schema.optional_number hyields.pages hpagesEntry, Number.some_text_eq_iff,
      text_eq_iff_isKept hreads]

def requiredText : String :=
  "cff-version: 1.2.0\nmessage: m\ntitle: t\nauthors:\n  - name: X\n"

def versionText : String := requiredText ++ "version: 1.10\n"

def numberText : String :=
  requiredText ++ "version: 1.5\npreferred-citation:\n  type: book\n  authors:\n" ++
    "    - name: Y\n  title: u\n  pages: 0x10\n"

def requiredRecord : Record where
  cffVersion := "1.2.0"
  message := "m"
  authors := [.entity ⟨"X", none⟩]
  title := "t"
  version := none
  dateReleased := none
  abstract := none
  url := none
  repositoryCode := none
  license := none
  licenseUrl := none
  keywords := []
  identifiers := []
  preferredCitation := none

def pagesCitation : PreferredCitation where
  type := .book
  authors := [.entity ⟨"Y", none⟩]
  title := "u"
  journal := none
  publisher := none
  volume := none
  number := none
  pages := some "16"
  year := none
  month := none
  doi := none
  url := none

theorem numberText_writtenNumber :
    ∃ validated citation, Loader.loadText {} numberText = .ok validated ∧
      validated.record.version = some "1.5" ∧ IsKept none "1.5".toList ∧
      validated.record.preferredCitation = some citation ∧ citation.pages = some "16" ∧
      ¬ IsKept none "0x10".toList := by
  have hloads : Loader.loadText {} numberText = .ok ⟨{ requiredRecord with
      version := some "1.5", preferredCitation := some pagesCitation }, []⟩ := by decide +kernel
  have hversion : Node.find? numberText ["version"] = some (.scalar none "1.5".toList .plain) :=
    Node.bind_scalar?_eq_some_iff.mp (by decide +kernel)
  have hpages : Node.find? numberText ["preferred-citation", "pages"] =
      some (.scalar none "0x10".toList .plain) :=
    Node.bind_scalar?_eq_some_iff.mp (by decide +kernel)
  have hdecimal : scalarValue none "1.5".toList .plain =
      .ok (.number (.float (.finite false 6755399441055744 (-52)))) := rfl
  have hhexadecimal : scalarValue none "0x10".toList .plain = .ok (.number (.integer 16)) := rfl
  obtain ⟨-, hkept⟩ := (writtenNumber_iff hloads hdecimal).1 hversion
  obtain ⟨-, citation, hcitation, hpagesKept⟩ := (writtenNumber_iff hloads hhexadecimal).2 hpages
  refine ⟨_, citation, hloads, rfl, hkept.mp rfl, hcitation, ?_⟩
  cases hcitation
  exact ⟨rfl, fun hwritten => absurd (hpagesKept.mpr hwritten) (by decide)⟩

theorem versionText_not_asWritten :
    ∃ validated number, Loader.loadText {} versionText = .ok validated ∧
      Node.find? versionText ["version"] = some (.scalar none "1.10".toList .plain) ∧
      scalarValue none "1.10".toList .plain = .ok (.number number) ∧
      validated.record.version = some "1.1" ∧ validated.record.version ≠ some "1.10" := by
  refine ⟨⟨{ requiredRecord with version := some "1.1" }, []⟩,
    .float (.finite false 4953959590107546 (-52)), by decide +kernel, ?_, rfl, rfl, by decide⟩
  exact Node.bind_scalar?_eq_some_iff.mp (by decide +kernel)

end Loader

end CitationFile
