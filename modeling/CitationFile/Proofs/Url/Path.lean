import CitationFile.Proofs.Pieces
import CitationFile.Proofs.Result
import CitationFile.Url.Basic
import Mathlib.Data.List.TakeDrop
import Mathlib.Data.List.TakeWhile

namespace CitationFile.Url

open Text

namespace Percent

private theorem isAscii_hexDigit {value : Nat} (h : value < 16) : isAscii (hexDigit value) := by
  have hall : ∀ value < 16, isAscii (hexDigit value) := by decide
  exact hall value h

private theorem isAscii_of_mem_encodeByte {byte : UInt8} {c : Char} (h : c ∈ encodeByte byte) :
    isAscii c := by
  have hbyte := byte.toNat_lt
  simp only [encodeByte, List.mem_cons, List.not_mem_nil, or_false] at h
  rcases h with rfl | rfl | rfl
  · decide
  · exact isAscii_hexDigit (by omega)
  · exact isAscii_hexDigit (by omega)

variable {mustEncode : Char → Bool} {text : List Char}

private theorem isAscii_of_mem_encode {c : Char} (h : c ∈ encode mustEncode text) : isAscii c := by
  obtain ⟨d, -, hc⟩ := List.mem_flatMap.mp h
  split at hc
  · obtain ⟨byte, -, hbyte⟩ := List.mem_flatMap.mp hc
    exact isAscii_of_mem_encodeByte hbyte
  · rename_i hkept
    obtain rfl := List.mem_singleton.mp hc
    simp only [Bool.or_eq_true, decide_eq_true_eq, not_or] at hkept
    exact decide_eq_true (Nat.not_le.mp hkept.1)

theorem eq_of_percent_not_mem (h : '%' ∉ encode mustEncode text) :
    encode mustEncode text = text := by
  induction text with
  | nil => rfl
  | cons c rest ih =>
      rw [encode, List.flatMap_cons, ← encode, List.mem_append, not_or] at h
      rw [encode, List.flatMap_cons, ← encode, ih h.2]
      split
      · rename_i hencoded
        rw [if_pos hencoded] at h
        obtain ⟨byte, hbyte⟩ := List.exists_mem_of_ne_nil (bytesOf c) String.utf8EncodeChar_ne_nil
        exact absurd (List.mem_flatMap.mpr ⟨byte, hbyte, by simp [encodeByte]⟩) h.1
      · rfl

end Percent

theorem isAscii_of_mem_webPath {url : Url} {c : Char} (h : c ∈ url.webPath) : isAscii c := by
  unfold webPath at h
  dsimp only at h
  rcases List.mem_cons.mp h with rfl | hc
  · decide
  · rcases mem_intercalate hc with rfl | ⟨segment, hsegment, hmem⟩
    · decide
    · obtain ⟨written, -, rfl⟩ := List.mem_map.mp hsegment
      exact Percent.isAscii_of_mem_encode hmem

/-- Whether a character is none that is dropped, parts segments or ends a path. -/
def isSegmentChar (c : Char) : Bool :=
  !isControlOrSpace c && c ≠ '?' && c ≠ '#' && !isSlash c

theorem isSegmentChar_iff {c : Char} :
    isSegmentChar c ↔
      isControlOrSpace c = false ∧ c ≠ '?' ∧ c ≠ '#' ∧ isSlash c = false := by
  simp [isSegmentChar, and_assoc]

private theorem isControlOrSpace_of_isAlphanum {c : Char} (h : c.isAlphanum) :
    isControlOrSpace c = false := by
  have hrange := toNat_of_isAlphanum h
  rw [isControlOrSpace, decide_eq_false_iff_not]
  omega

theorem isSegmentChar_of_isAlphanum {c : Char} (h : c.isAlphanum) : isSegmentChar c := by
  rw [isSegmentChar_iff]
  refine ⟨isControlOrSpace_of_isAlphanum h, ne_of_class h rfl, ne_of_class h rfl, ?_⟩
  rw [isSlash, Bool.or_eq_false_iff, decide_eq_false_iff_not, decide_eq_false_iff_not]
  exact ⟨ne_of_class h rfl, ne_of_class h rfl⟩

theorem isSegmentChar_toLower (c : Char) : isSegmentChar c.toLower = isSegmentChar c := by
  by_cases hupper : c.isUpper
  · have halphanum : c.isAlphanum := isAlphanum_iff.mpr (.inl (isAlpha_iff.mpr (.inl hupper)))
    rw [isSegmentChar_of_isAlphanum halphanum,
      isSegmentChar_of_isAlphanum ((isAlphanum_toLower c).trans halphanum)]
  · rw [toLower_of_not_isUpper hupper]

theorem webPath_of_isSegmentChar {url : Url} {segment : List Char}
    (htail : url.tail = '/' :: segment) (h : ∀ c ∈ segment, isSegmentChar c) :
    url.webPath = ['/'] ∨
      url.webPath = '/' :: Percent.encode Percent.isPathReserved segment := by
  have hwritten : url.tail.takeWhile (fun c => c ≠ '?' && c ≠ '#') = '/' :: segment := by
    rw [htail, List.takeWhile_eq_self_iff, List.forall_mem_cons]
    refine ⟨by decide, fun c hc => ?_⟩
    obtain ⟨-, hquery, hfragment, -⟩ := isSegmentChar_iff.mp (h c hc)
    simp [hquery, hfragment]
  have hpieces : segment.splitOnP isSlash = [segment] :=
    List.splitOnP_eq_singleton fun c hc => (isSegmentChar_iff.mp (h c hc)).2.2.2
  have hslash : isSlash '/' = true := rfl
  unfold webPath
  simp only [hwritten, hslash, if_true, hpieces, resolve]
  split
  · exact .inl rfl
  · split
    · exact .inl rfl
    · right
      simp

theorem tail_of_parseAuthority {scheme authority tail : List Char} {kind : SchemeKind} {url : Url}
    (h : parseAuthority scheme kind authority tail = .ok url) : url.tail = tail := by
  unfold parseAuthority at h
  dsimp only at h
  split at h
  · cases h
  · obtain ⟨host, -, h⟩ := Except.bind_eq_ok_iff.mp h
    split at h
    · cases h
    · split at h
      · cases h
      · cases h
        rfl

private theorem clean_of_forall {text : List Char} (h : ∀ c ∈ text, isControlOrSpace c = false) :
    clean text = text := by
  have hkept : ∀ part : List Char, (∀ c ∈ part, isControlOrSpace c = false) →
      part.dropWhile isControlOrSpace = part := by
    intro part hpart
    rw [List.dropWhile_eq_self_iff]
    intro hlength
    simp [hpart _ (List.getElem_mem hlength)]
  have hignored : ∀ c ∈ text, (!isIgnored c) = true := by
    intro c hc
    have hvisible := h c hc
    cases hdropped : isIgnored c with
    | false => rfl
    | true =>
        simp only [isIgnored, Bool.or_eq_true, decide_eq_true_eq] at hdropped
        rcases hdropped with (rfl | rfl) | rfl <;> cases hvisible
  unfold clean
  rw [hkept text h, hkept text.reverse (by simpa using h), List.reverse_reverse]
  exact List.filter_eq_self.mpr hignored

theorem splitScheme?_append {scheme : List Char} (hfilled : scheme ≠ [])
    (halpha : ∀ c ∈ scheme, c.isAlpha) (rest : List Char) :
    splitScheme? (scheme ++ ':' :: rest) = some (asciiLower scheme, rest) := by
  obtain ⟨first, more, rfl⟩ := List.exists_cons_of_ne_nil hfilled
  have hscheme : ∀ c ∈ first :: more, isSchemeChar c := by
    intro c hc
    simp [isSchemeChar, isAlphanum_iff.mpr (.inl (halpha c hc))]
  have hcolon : isSchemeChar ':' = false := by decide
  have hspan : (first :: more ++ ':' :: rest).span isSchemeChar = (first :: more, ':' :: rest) := by
    rw [List.span_eq_takeWhile_dropWhile, takeWhile_append_cons hscheme hcolon,
      dropWhile_append_cons hscheme hcolon]
  rw [List.cons_append] at hspan ⊢
  rw [splitScheme?, if_pos (halpha first List.mem_cons_self), hspan]
  rfl

private theorem isAlpha_of_webScheme {scheme : List Char} (h : asciiLower scheme ∈ webSchemes) :
    scheme ≠ [] ∧ ∀ c ∈ scheme, c.isAlpha := by
  have hnames : ∀ name ∈ webSchemes, name ≠ [] ∧ name.all Char.isAlpha := by decide
  obtain ⟨hfilled, halpha⟩ := hnames _ h
  refine ⟨?_, fun c hc => ?_⟩
  · rintro rfl
    exact hfilled rfl
  · rw [← isAlpha_toLower]
    exact List.all_eq_true.mp halpha _ (List.mem_map_of_mem hc)

theorem parseChars_web {scheme authority tail : List Char}
    (hscheme : asciiLower scheme ∈ webSchemes) (hfilled : authority ≠ [])
    (hauthority : ∀ c ∈ authority, isSegmentChar c)
    (htail : ∀ c ∈ tail, isControlOrSpace c = false) :
    parseChars (scheme ++ ':' :: '/' :: '/' :: (authority ++ '/' :: tail)) =
      parseAuthority (asciiLower scheme) .web authority ('/' :: tail) := by
  obtain ⟨hnamed, halpha⟩ := isAlpha_of_webScheme hscheme
  have hclean : ∀ c ∈ scheme ++ ':' :: '/' :: '/' :: (authority ++ '/' :: tail),
      isControlOrSpace c = false := by
    simp only [List.mem_append, List.mem_cons]
    rintro c (hc | rfl | rfl | rfl | hc | rfl | hc)
    · exact isControlOrSpace_of_isAlphanum (isAlphanum_iff.mpr (.inl (halpha c hc)))
    · decide
    · decide
    · decide
    · exact (isSegmentChar_iff.mp (hauthority c hc)).1
    · decide
    · exact htail c hc
  have hkind : SchemeKind.of (asciiLower scheme) = .web := by
    rw [SchemeKind.of, if_pos (List.contains_iff_mem.mpr hscheme)]
  have hwithin : ∀ c ∈ authority, (!endsAuthority .web c) = true := by
    intro c hc
    obtain ⟨-, hquery, hfragment, hslash⟩ := isSegmentChar_iff.mp (hauthority c hc)
    simp only [isSlash, Bool.or_eq_false_iff, decide_eq_false_iff_not] at hslash
    simp [endsAuthority, hquery, hfragment, hslash]
  have hbehind : (!endsAuthority .web '/') = false := by decide
  have hslashes : ('/' :: '/' :: (authority ++ '/' :: tail)).dropWhile isSlash =
      authority ++ '/' :: tail := by
    obtain ⟨first, more, rfl⟩ := List.exists_cons_of_ne_nil hfilled
    have hfirst := (isSegmentChar_iff.mp (hauthority first List.mem_cons_self)).2.2.2
    simp [hfirst, show isSlash '/' = true from rfl]
  unfold parseChars
  rw [clean_of_forall hclean, splitScheme?_append hnamed halpha]
  simp only [hkind, hslashes, takeWhile_append_cons hwithin hbehind,
    dropWhile_append_cons hwithin hbehind]

end CitationFile.Url
