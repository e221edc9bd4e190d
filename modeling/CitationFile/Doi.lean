import CitationFile.Text.Ascii
import CitationFile.Text.Blank
import CitationFile.Text.Digit

namespace CitationFile.Doi

open Text

def openings : List (List Char) :=
  ["https://doi.org/".toList, "http://doi.org/".toList, "https://dx.doi.org/".toList,
    "http://dx.doi.org/".toList, "doi:".toList, "doi/".toList]

def dropOneOpening? (text : List Char) : Option (List Char) :=
  openings.findSome? fun opening => dropOpeningIgnoringCase? opening text

theorem length_of_dropOneOpening? {text rest : List Char} (h : dropOneOpening? text = some rest) :
    rest.length < text.length := by
  obtain ⟨opening, hmem, htaken⟩ := List.exists_of_findSome?_eq_some h
  obtain ⟨mark, rfl, rfl⟩ := dropOpeningIgnoringCase?_eq_some_iff.mp htaken
  have hlong : ∀ opening ∈ openings, 0 < opening.length := by decide
  have hpos := hlong _ hmem
  rw [asciiLower, List.length_map] at hpos
  rw [List.length_append]
  omega

def dropOpenings (text : List Char) : List Char :=
  match _htaken : dropOneOpening? text with
  | none => text
  | some rest => dropOpenings (trimStart rest)
termination_by text.length
decreasing_by
  have hshorter := length_of_dropOneOpening? _htaken
  have htrimmed := length_trimStart_le rest
  omega

def isTrailing (c : Char) : Bool :=
  c = '.' || c = ',' || c = ';'

def normalChars (text : List Char) : List Char :=
  dropEndWhile isTrailing (dropOpenings (trim text))

def normal (doi : String) : String :=
  String.ofList (normalChars doi.toList)

/-- `10`, a code of four to nine digits, and any number of further codes, parted by dots. -/
def IsRegistrant (text : List Char) : Prop :=
  match text.splitOn '.' with
  | directory :: code :: subcodes =>
      directory = ['1', '0'] ∧ code.all isDecimalDigit ∧ 4 ≤ code.length ∧ code.length ≤ 9 ∧
        ∀ subcode ∈ subcodes, subcode ≠ [] ∧ subcode.all isDecimalDigit
  | _ => False

instance (text : List Char) : Decidable (IsRegistrant text) := by
  unfold IsRegistrant
  split <;> infer_instance

/-- The registrant ends at the first slash; a suffix of non-blank characters follows. -/
def IsDoi (text : List Char) : Prop :=
  match text.span (· ≠ '/') with
  | (registrant, _ :: suffixChars) =>
      IsRegistrant registrant ∧ suffixChars ≠ [] ∧ ∀ c ∈ suffixChars, ¬ isBlank c
  | (_, []) => False

instance (text : List Char) : Decidable (IsDoi text) := by
  have plain (chars : List Char) : Decidable (∀ c ∈ chars, ¬ isBlank c) :=
    List.decidableBAll (fun c => ¬ isBlank c) chars
  unfold IsDoi
  split <;> infer_instance

def isValid (doi : String) : Bool :=
  decide (IsDoi (normalChars doi.toList))

def url (doi : String) : String :=
  "https://doi.org/" ++ normal doi

end CitationFile.Doi
