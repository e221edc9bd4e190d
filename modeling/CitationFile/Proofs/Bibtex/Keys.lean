import CitationFile.Bibtex.Citation
import CitationFile.Bibtex.Writer

namespace CitationFile.Bibtex

open Text

private theorem isAlphanum_of_mem_capitalise {text : List Char} (h : ∀ c ∈ text, c.isAlphanum) :
    ∀ c ∈ capitalise text, c.isAlphanum := by
  cases text with
  | nil => exact h
  | cons c rest =>
      rw [List.forall_mem_cons] at h
      rw [capitalise, List.forall_mem_cons, isAlphanum_toUpper]
      exact h

theorem isAlphanum_of_mem_asciiProjection {text : List Char} {c : Char}
    (h : c ∈ asciiLower (asciiProjection text)) : c.isAlphanum := by
  obtain ⟨d, hd, rfl⟩ := List.mem_map.mp h
  rw [isAlphanum_toLower]
  simp only [asciiProjection, List.mem_filter, Bool.and_eq_true] at hd
  exact hd.2.2

theorem isAlphanum_of_mem_keyPart (text : List Char) : ∀ c ∈ keyPart text, c.isAlphanum :=
  isAlphanum_of_mem_capitalise fun _ => isAlphanum_of_mem_asciiProjection

private theorem isAlphanum_of_mem_authorPart (author : Author) :
    ∀ c ∈ authorPart author, c.isAlphanum := by
  cases author with
  | person person => exact isAlphanum_of_mem_keyPart _
  | entity entity => exact isAlphanum_of_mem_keyPart _

private theorem isAlphanum_of_mem_titlePart (title : String) :
    ∀ c ∈ titlePart title, c.isAlphanum :=
  isAlphanum_of_mem_keyPart _

private theorem isAlphanum_of_mem_citeKeyChars {author : Option Author} {year : Option Nat}
    {title : Option String} : ∀ c ∈ citeKeyChars author year title, c.isAlphanum := by
  intro c hc
  unfold citeKeyChars at hc
  rcases List.mem_append.mp hc with hc | htitle
  · rcases List.mem_append.mp hc with hauthor | hyear
    · cases author with
      | none => simp at hauthor
      | some author => exact isAlphanum_of_mem_authorPart author c hauthor
    · cases year with
      | none => simp at hyear
      | some year =>
          have hdigits : c ∈ Nat.toDigits 10 year := by simpa using hyear
          have hdigit := Nat.isDigit_of_mem_toDigits (by decide) (by decide) hdigits
          exact isAlphanum_iff.mpr (.inr hdigit)
  · cases title with
    | none => simp at htitle
    | some title =>
        rw [Option.map_some, Option.getD_some] at htitle
        exact isAlphanum_of_mem_titlePart title c htitle

theorem isAlphanum_of_mem_citeKeyFor {author : Option Author} {year : Option Nat}
    {title : Option String} : ∀ c ∈ (citeKeyFor author year title).toList, c.isAlphanum := by
  unfold citeKeyFor
  split
  · exact List.all_eq_true.mp (by decide)
  · rw [String.toList_ofList]
    exact isAlphanum_of_mem_citeKeyChars

theorem EntryType.isAlpha_of_mem_name (type : EntryType) : ∀ c ∈ type.name.toList, c.isAlpha := by
  cases type <;> exact List.all_eq_true.mp (by decide)

def writeFields (fields : List Field) : List Char :=
  fields.flatMap fun field => writeField field.key.toList field.value.toList

def Entry.body (entry : Entry) : List Char :=
  entry.citeKey.toList ++ [',', '\n'] ++ writeFields entry.fields

theorem Entry.toList_write (entry : Entry) :
    entry.write.toList =
      '@' :: (entry.type.name.toList ++ '{' :: (entry.body ++ ['}'])) := by
  simp [write, writeEntry, body, writeFields, List.flatMap_map]

/-- A key stops where the mark behind it begins. -/
structure Entry.HasPlainKeys (entry : Entry) : Prop where
  citeKey : ∀ c ∈ entry.citeKey.toList, c ≠ ',' ∧ c ≠ '{' ∧ c ≠ '}' ∧ c ≠ '\n'
  fields : ∀ field ∈ entry.fields,
    field.key.toList ≠ [] ∧ field.key.toList.all Char.isAlpha

private theorem Entry.HasPlainKeys.add {entry : Entry} (h : entry.HasPlainKeys) {key : String}
    (hkey : key.toList ≠ [] ∧ key.toList.all Char.isAlpha) (value : String) :
    (entry.add key value).HasPlainKeys := by
  refine ⟨h.citeKey, ?_⟩
  intro field hfield
  rw [fields_add] at hfield
  rcases List.mem_append.mp hfield with hold | hnew
  · exact h.fields field hold
  · obtain rfl := List.mem_singleton.mp hnew
    exact hkey

private theorem Entry.HasPlainKeys.addOptional {entry : Entry} (h : entry.HasPlainKeys)
    {key : String} (hkey : key.toList ≠ [] ∧ key.toList.all Char.isAlpha) (value : Option String) :
    (entry.addOptional key value).HasPlainKeys := by
  cases value with
  | none => exact h
  | some value => exact h.add hkey value

private theorem Entry.hasPlainKeys_mk_citeKeyFor (author : Option Author) (year : Option Nat)
    (title : Option String) (type : EntryType) :
    (Entry.mk (citeKeyFor author year title) type []).HasPlainKeys := by
  constructor
  · intro c hc
    have halphanum := isAlphanum_of_mem_citeKeyFor c hc
    refine ⟨?_, ?_, ?_, ?_⟩ <;> (rintro rfl; revert halphanum; decide)
  · simp

private theorem Entry.ofCitation_hasPlainKeys (citation : PreferredCitation) :
    (Entry.ofCitation citation).HasPlainKeys := by
  have hnew := hasPlainKeys_mk_citeKeyFor citation.authors.head? citation.year
    (some citation.title) (.ofCitationType citation.type)
  exact hnew
    |>.add (by decide) _
    |>.add (by decide) _
    |>.addOptional (by decide) _
    |>.addOptional (by decide) _
    |>.addOptional (by decide) _
    |>.addOptional (by decide) _
    |>.addOptional (by decide) _
    |>.addOptional (by decide) _
    |>.addOptional (by decide) _
    |>.addOptional (by decide) _
    |>.addOptional (by decide) _

private theorem Entry.ofSoftware_hasPlainKeys (record : Record) :
    (Entry.ofSoftware record).HasPlainKeys := by
  have hnew := hasPlainKeys_mk_citeKeyFor record.authors.head? record.releaseYear?
    (some record.title) .software
  exact hnew
    |>.add (by decide) _
    |>.add (by decide) _
    |>.addOptional (by decide) _
    |>.addOptional (by decide) _
    |>.addOptional (by decide) _
    |>.addOptional (by decide) _

theorem Entry.ofRecord_hasPlainKeys (record : Record) : (Entry.ofRecord record).HasPlainKeys := by
  unfold ofRecord
  split
  · exact ofCitation_hasPlainKeys _
  · exact ofSoftware_hasPlainKeys _

end CitationFile.Bibtex
