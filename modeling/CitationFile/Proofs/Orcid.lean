import CitationFile.Loading
import CitationFile.Proofs.Digits
import CitationFile.Proofs.Schema.Reading
import CitationFile.Proofs.Url.Path

/-! The ORCID of a person, which is kept as it was written. The check reads the scheme, the host and
the path of a URL, so that these are always those of an ORCID; whether the text is such a URL and
nothing else depends on what was written around them. -/

namespace CitationFile

open Text

def IsAsciiDigits (length : Nat) (digits : List Char) : Prop :=
  digits.length = length ∧ ∀ c ∈ digits, c.isDigit

/-- Four groups of four ASCII digits, parted by hyphens; the last digit may be an `X`. -/
def IsOrcidNumber (text : List Char) : Prop :=
  ∃ first second third fourth last,
    IsAsciiDigits 4 first ∧ IsAsciiDigits 4 second ∧ IsAsciiDigits 4 third ∧
    IsAsciiDigits 3 fourth ∧ (last.isDigit ∨ last = 'X') ∧
    text = ['-'].intercalate [first, second, third, fourth ++ [last]]

/-- The scheme and the host in any mix of cases. -/
def IsOrcidOpening (opening : List Char) : Prop :=
  asciiLower opening = "https://orcid.org/".toList

instance (opening : List Char) : Decidable (IsOrcidOpening opening) :=
  inferInstanceAs (Decidable (_ = _))

/-- The URL of an ORCID, with nothing around it or within it. -/
def IsBareOrcid (text : List Char) : Prop :=
  ∃ opening number, IsOrcidOpening opening ∧ IsOrcidNumber number ∧ text = opening ++ number

/-- The opening stands there as it is, and a single segment of a path follows it. -/
def IsPlainOrcid (text : List Char) : Prop :=
  ∃ opening segment, IsOrcidOpening opening ∧ (∀ c ∈ segment, Url.isSegmentChar c) ∧
    text = opening ++ segment

private theorem IsOrcidNumber.isDigit_or_mark {number : List Char} (h : IsOrcidNumber number)
    {c : Char} (hc : c ∈ number) : c.isDigit ∨ c = 'X' ∨ c = '-' := by
  obtain ⟨first, second, third, fourth, last, hfirst, hsecond, hthird, hfourth, hlast, rfl⟩ := h
  rcases mem_intercalate hc with rfl | ⟨group, hgroup, hmem⟩
  · exact .inr (.inr rfl)
  · simp only [List.mem_cons, List.not_mem_nil, or_false] at hgroup
    rcases hgroup with rfl | rfl | rfl | rfl
    · exact .inl (hfirst.2 c hmem)
    · exact .inl (hsecond.2 c hmem)
    · exact .inl (hthird.2 c hmem)
    · rcases List.mem_append.mp hmem with hdigit | hend
      · exact .inl (hfourth.2 c hdigit)
      · obtain rfl := List.mem_singleton.mp hend
        exact hlast.imp_right .inl

theorem IsOrcidNumber.ne_nil {number : List Char} (h : IsOrcidNumber number) : number ≠ [] := by
  obtain ⟨first, second, third, fourth, last, -, -, -, -, -, rfl⟩ := h
  simp

private theorem IsOrcidNumber.percent_not_mem {number : List Char} (h : IsOrcidNumber number) :
    '%' ∉ number := by
  intro hmem
  exact absurd (h.isDigit_or_mark hmem) (by decide)

private theorem IsOrcidNumber.isSegmentChar {number : List Char} (h : IsOrcidNumber number)
    {c : Char} (hc : c ∈ number) : Url.isSegmentChar c := by
  rcases h.isDigit_or_mark hc with hdigit | rfl | rfl
  · exact Url.isSegmentChar_of_isAlphanum (isAlphanum_iff.mpr (.inr hdigit))
  · decide
  · decide

theorem IsBareOrcid.isPlain {text : List Char} (h : IsBareOrcid text) : IsPlainOrcid text := by
  obtain ⟨opening, number, hopening, hnumber, rfl⟩ := h
  exact ⟨opening, number, hopening, fun c hc => hnumber.isSegmentChar hc, rfl⟩

private theorem eq_of_toLower_eq {c mark : Char} (h : c.toLower = mark)
    (hmark : mark.isAlpha = false) :
    c = mark := by
  subst mark
  rw [isAlpha_toLower] at hmark
  rw [toLower_of_not_isUpper]
  intro hupper
  rw [isAlpha_iff.mpr (.inl hupper)] at hmark
  cases hmark

private theorem exists_cons_of_asciiLower {text rest : List Char} {mark : Char}
    (h : asciiLower text = mark :: rest) (hmark : mark.isAlpha = false) :
    ∃ behind, text = mark :: behind ∧ asciiLower behind = rest := by
  obtain ⟨c, behind, rfl, hc, hbehind⟩ := List.map_eq_cons_iff.mp h
  exact ⟨behind, by rw [eq_of_toLower_eq hc hmark], hbehind⟩

private theorem IsOrcidOpening.exists_eq {opening : List Char} (h : IsOrcidOpening opening) :
    ∃ scheme host, asciiLower scheme = "https".toList ∧ asciiLower host = "orcid.org".toList ∧
      opening = scheme ++ ':' :: '/' :: '/' :: (host ++ ['/']) := by
  have hparts : opening.map Char.toLower =
      "https".toList ++ (':' :: '/' :: '/' :: ("orcid.org".toList ++ ['/'])) := h
  obtain ⟨scheme, behind, rfl, hscheme, hbehind⟩ := List.map_eq_append_iff.mp hparts
  obtain ⟨slashes, rfl, hslashes⟩ := exists_cons_of_asciiLower hbehind rfl
  obtain ⟨slash, rfl, hslash⟩ := exists_cons_of_asciiLower hslashes rfl
  obtain ⟨authority, rfl, hauthority⟩ := exists_cons_of_asciiLower hslash rfl
  obtain ⟨host, last, rfl, hhost, hlast⟩ := List.map_eq_append_iff.mp hauthority
  obtain ⟨none, rfl, hnone⟩ := exists_cons_of_asciiLower hlast rfl
  obtain rfl := List.map_eq_nil_iff.mp hnone
  exact ⟨scheme, host, hscheme, hhost, rfl⟩

theorem IsPlainOrcid.isSegmentChar_or_eq {text : List Char} (h : IsPlainOrcid text) {c : Char}
    (hc : c ∈ text) : Url.isSegmentChar c ∨ c = '/' := by
  obtain ⟨opening, segment, hopening, hsegment, rfl⟩ := h
  have hall : "https://orcid.org/".toList.all fun c => Url.isSegmentChar c || c = '/' := by decide
  rcases List.mem_append.mp hc with hbefore | hbehind
  · have hlower : c.toLower ∈ asciiLower opening := List.mem_map_of_mem hbefore
    rw [hopening] at hlower
    have hchar := List.all_eq_true.mp hall _ hlower
    rw [Url.isSegmentChar_toLower, Bool.or_eq_true, decide_eq_true_eq] at hchar
    exact hchar.imp_right fun hslash => eq_of_toLower_eq hslash rfl
  · exact .inl (hsegment c hbehind)

private theorem IsOrcidOpening.webPath_of_parse {opening segment : List Char} {url : Url}
    (hopening : IsOrcidOpening opening) (hsegment : ∀ c ∈ segment, Url.isSegmentChar c)
    (h : Url.parseChars (opening ++ segment) = .ok url) :
    url.webPath = ['/'] ∨
      url.webPath = '/' :: Url.Percent.encode Url.Percent.isPathReserved segment := by
  obtain ⟨scheme, host, hscheme, hhost, rfl⟩ := hopening.exists_eq
  have hhostChars : ∀ c ∈ host, Url.isSegmentChar c := by
    intro c hc
    have hlower : c.toLower ∈ asciiLower host := List.mem_map_of_mem hc
    rw [← Url.isSegmentChar_toLower]
    rw [hhost] at hlower
    exact List.all_eq_true.mp (show "orcid.org".toList.all Url.isSegmentChar by decide) _ hlower
  have hfilled : host ≠ [] := by
    rintro rfl
    cases hhost
  have hnamed : asciiLower scheme ∈ Url.webSchemes := by
    rw [hscheme]
    decide
  have hvisible : ∀ c ∈ segment, Url.isControlOrSpace c = false :=
    fun c hc => (Url.isSegmentChar_iff.mp (hsegment c hc)).1
  have hparse := Url.parseChars_web hnamed hfilled hhostChars hvisible
  simp only [List.append_assoc, List.cons_append, List.nil_append] at h
  rw [hparse] at h
  exact Url.webPath_of_isSegmentChar (Url.tail_of_parseAuthority h) hsegment

theorem IsPlainOrcid.isBare {text number : List Char} {url : Url} (h : IsPlainOrcid text)
    (hparse : Url.parseChars text = .ok url) (hnumber : IsOrcidNumber number)
    (hpath : url.webPath = '/' :: number) : IsBareOrcid text := by
  obtain ⟨opening, segment, hopening, hsegment, rfl⟩ := h
  refine ⟨opening, number, hopening, hnumber, ?_⟩
  rcases hopening.webPath_of_parse hsegment hparse with hroot | hwritten
  · rw [hroot, List.cons.injEq] at hpath
    exact absurd hpath.2.symm hnumber.ne_nil
  · rw [hwritten, List.cons.injEq] at hpath
    have hplain : '%' ∉ Url.Percent.encode Url.Percent.isPathReserved segment := by
      rw [hpath.2]
      exact hnumber.percent_not_mem
    rw [← hpath.2, Url.Percent.eq_of_percent_not_mem hplain]

private theorem Schema.IsDigits.isAsciiDigits {length : Nat} {digits : List Char}
    (h : Schema.IsDigits length digits) (hascii : ∀ c ∈ digits, isAscii c) :
    IsAsciiDigits length digits :=
  ⟨h.1, fun c hc => isDigit_of_isDecimalDigit (h.2 c hc) (hascii c hc)⟩

/-- Digits of other scripts are percent-encoded in a path, so those found there are ASCII. -/
theorem Schema.IsOrcidPath.exists_number {path : List Char} (h : Schema.IsOrcidPath path)
    (hascii : ∀ c ∈ path, isAscii c) : ∃ number, path = '/' :: number ∧ IsOrcidNumber number := by
  obtain ⟨first, second, third, fourth, last, hfirst, hsecond, hthird, hfourth, hlast, rfl⟩ := h
  simp only [List.intercalate_cons_cons, List.intercalate_singleton, List.mem_cons,
    List.mem_append, List.not_mem_nil, or_false] at hascii
  refine ⟨_, rfl, first, second, third, fourth, last,
    hfirst.isAsciiDigits fun c hc => hascii c (by simp [hc]),
    hsecond.isAsciiDigits fun c hc => hascii c (by simp [hc]),
    hthird.isAsciiDigits fun c hc => hascii c (by simp [hc]),
    hfourth.isAsciiDigits fun c hc => hascii c (by simp [hc]), ?_, rfl⟩
  exact hlast.imp_left fun hdigit => isDigit_of_isDecimalDigit hdigit (hascii last (by simp))

theorem Schema.IsOrcid.exists_number {string : String} (h : Schema.IsOrcid string) :
    ∃ url number, Url.parse string = .ok url ∧ url.scheme = "https".toList ∧
      url.host = some (.domain "orcid.org".toList) ∧ url.webPath = '/' :: number ∧
      IsOrcidNumber number := by
  obtain ⟨url, hparse, hscheme, hhost, hpath⟩ := h
  obtain ⟨number, hwritten, hnumber⟩ :=
    hpath.exists_number fun c hc => Url.isAscii_of_mem_webPath hc
  exact ⟨url, number, hparse, hscheme, hhost, hwritten, hnumber⟩

/-! What holds of every accepted author holds of all the authors of a record. -/

/-- The authors of the software and those of the work to cite in its place. -/
def Record.allAuthors (record : Record) : List Author :=
  record.authors ++ record.preferredCitation.elim [] (·.authors)

namespace Schema

variable {P : Author → Prop}

private theorem forall_authors (h : Check.Reads author fun _ => P) {fields : Fields}
    {results : List Author} (hresults : (required fields "authors" authors).value? = some results) :
    ∀ result ∈ results, P result := by
  obtain ⟨value, -, hitems⟩ := (authors_reads_of h).required hresults
  exact hitems.forall_mem

theorem forall_allAuthors (h : Check.Reads author fun _ => P) {root : Yaml.Value}
    {record : Record} (hrecord : (document root).value? = some record) :
    ∀ result ∈ record.allAuthors, P result := by
  obtain ⟨entries, -, hfields⟩ := recordYields_of_document hrecord
  have hcitation : Check.Reads preferredCitation fun _ citation =>
      ∀ result ∈ citation.authors, P result := by
    intro path value citation hvalue
    obtain ⟨entries, -, hyields⟩ := citationYields_of_preferredCitation hvalue
    exact forall_authors h hyields.authors
  intro result hmem
  rcases List.mem_append.mp hmem with hown | hcited
  · exact forall_authors h hfields.authors result hown
  · cases hpreferred : record.preferredCitation with
    | none => simp [hpreferred] at hcited
    | some citation =>
        rw [hpreferred] at hcited
        exact hcitation.of_optional hfields.preferredCitation hpreferred result hcited

theorem author_orcid : Check.Reads author fun _ author =>
    ∀ string, author.orcid? = some string → IsOrcid string := by
  intro path value result hresult string hstring
  have horcid : Check.Reads orcid fun _ => IsOrcid := orcid_yields.reads.imp fun _ _ h => h.2
  obtain ⟨entries, -, hfields⟩ := authorYields_of_author hresult
  cases hfields with
  | entity hfields => cases hstring
  | person hfields => exact horcid.of_optional hfields.orcid hstring

end Schema

namespace Validated

/-- The ORCID of every author of an accepted document is a URL with the scheme, the host and the
path of an ORCID, in ASCII digits. The text is that URL and nothing else exactly if it opens with
the scheme and the host and goes on with a single segment of a path. -/
theorem orcid_isBare_iff {root : Yaml.Value} {validated : Validated}
    (h : ofDocument root = .ok validated) {author : Author}
    (hauthor : author ∈ validated.record.allAuthors) {orcid : String}
    (horcid : author.orcid? = some orcid) :
    (∃ url number, Url.parse orcid = .ok url ∧ url.scheme = "https".toList ∧
      url.host = some (.domain "orcid.org".toList) ∧ url.webPath = '/' :: number ∧
      IsOrcidNumber number) ∧
    (IsBareOrcid orcid.toList ↔ IsPlainOrcid orcid.toList) := by
  have hvalid : Schema.IsOrcid orcid :=
    Schema.forall_allAuthors Schema.author_orcid (value?_of_ofChecked_eq_ok h) author hauthor
      orcid horcid
  obtain ⟨url, number, hparse, hscheme, hhost, hpath, hnumber⟩ := hvalid.exists_number
  refine ⟨⟨url, number, hparse, hscheme, hhost, hpath, hnumber⟩, IsBareOrcid.isPlain, ?_⟩
  exact fun hplain => hplain.isBare hparse hnumber hpath

def orcidDocument (orcid : String) : Yaml.Value :=
  .mapping [(.string "cff-version", .string "1.2.0"), (.string "message", .string "m"),
    (.string "title", .string "t"),
    (.string "authors", .sequence [.mapping [(.string "family-names", .string "Lee"),
      (.string "orcid", .string orcid)]])]

def orcidRecord (orcid : String) : Record where
  cffVersion := "1.2.0"
  message := "m"
  authors := [.person { familyNames := "Lee", orcid := some orcid }]
  title := "t"
  version := none
  dateReleased := none
  abstract := none
  url := none
  repositoryCode := none
  license := none
  licenseUrl := none
  keywords := []
  identifiers := []
  preferredCitation := none

theorem shoutedOrcid_isBare :
    ofDocument (orcidDocument "HTTPS://ORCID.org/0000-0001-2345-678X") =
      .ok ⟨orcidRecord "HTTPS://ORCID.org/0000-0001-2345-678X", []⟩ ∧
    IsBareOrcid "HTTPS://ORCID.org/0000-0001-2345-678X".toList := by
  have haccepted : ofDocument (orcidDocument "HTTPS://ORCID.org/0000-0001-2345-678X") =
      .ok ⟨orcidRecord "HTTPS://ORCID.org/0000-0001-2345-678X", []⟩ := by
    decide +kernel
  have hplain : IsPlainOrcid "HTTPS://ORCID.org/0000-0001-2345-678X".toList :=
    ⟨"HTTPS://ORCID.org/".toList, "0000-0001-2345-678X".toList, by decide,
      List.all_eq_true.mp (by decide), by decide⟩
  exact ⟨haccepted, (orcid_isBare_iff haccepted List.mem_cons_self rfl).2.mpr hplain⟩

def queryOrcidText : String :=
  "cff-version: 1.2.0\nmessage: m\ntitle: t\nauthors:\n  - family-names: Lee\n" ++
    "    orcid: \"https://orcid.org/0000-0001-2345-6789?lang=en\"\n"

theorem queryOrcidText_not_isBareOrcid :
    (∃ validated, Loader.loadText {} queryOrcidText = .ok validated ∧
      ∃ author ∈ validated.record.allAuthors,
        author.orcid? = some "https://orcid.org/0000-0001-2345-6789?lang=en") ∧
    ¬ IsBareOrcid "https://orcid.org/0000-0001-2345-6789?lang=en".toList := by
  refine ⟨⟨⟨orcidRecord "https://orcid.org/0000-0001-2345-6789?lang=en", []⟩,
    by decide +kernel, _, List.mem_cons_self, rfl⟩, fun hbare => ?_⟩
  have hquery : '?' ∈ "https://orcid.org/0000-0001-2345-6789?lang=en".toList := by decide
  exact absurd (hbare.isPlain.isSegmentChar_or_eq hquery) (by decide)

end Validated

end CitationFile
