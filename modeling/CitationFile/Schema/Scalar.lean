import CitationFile.Calendar
import CitationFile.Doi
import CitationFile.Schema.Checked
import CitationFile.Text.Blank
import CitationFile.Url.Basic

namespace CitationFile.Schema

open Calendar Yaml Text

structure Fields where
  path : Path
  entries : List (Value × Value)

namespace Fields

def find? (fields : Fields) (key : String) : Option Value :=
  (Value.entry? fields.entries key).filter (!·.isNull)

def pathOf (fields : Fields) (key : String) : Path :=
  fields.path ++ [.key key]

end Fields

abbrev Check (α : Type) := Path → Value → Checked α

def required (fields : Fields) (key : String) (check : Check α) : Checked α :=
  match fields.find? key with
  | some value => check (fields.pathOf key) value
  | none => .reject (fields.pathOf key) .missing

def optional (fields : Fields) (key : String) (check : Check α) : Checked (Option α) :=
  match fields.find? key with
  | some value => (check (fields.pathOf key) value).map some
  | none => .accept none

/-- An optional list counts as empty when it is absent. -/
def optionalList (fields : Fields) (key : String) (check : Check (List α)) : Checked (List α) :=
  (optional fields key check).map (·.getD [])

def text : Check String := fun path value =>
  match value.string? with
  | some string =>
      if IsBlank string.toList then .reject path .blank else .accept string
  | none => .reject path (.notString (Kind.of value))

/-- Numbers are kept in their canonical text. -/
def textOrNumber : Check String := fun path value =>
  match value with
  | .number number => .accept number.text
  | _ => text path value

def IsNumeral (digits : List Char) : Prop :=
  digits ≠ [] ∧ digits.all isDecimalDigit

instance (digits : List Char) : Decidable (IsNumeral digits) :=
  inferInstanceAs (Decidable (_ ∧ _))

def majorVersion? (text : List Char) : Option (List Char) :=
  match text.splitOn '.' with
  | [major, minor, patch] =>
      if IsNumeral major ∧ IsNumeral minor ∧ IsNumeral patch then some major else none
  | _ => none

/-- Numerals of other scripts have the right shape and count as zero. -/
def numeralValue (digits : List Char) : Nat :=
  (natural? digits).getD 0

def hasShape (length : Nat) (digits : List Char) : Bool :=
  digits.length = length && digits.all isDecimalDigit

def isDate (text : List Char) : Bool :=
  match text.splitOn '-' with
  | [year, month, day] =>
      hasShape 4 year && hasShape 2 month && hasShape 2 day &&
        1 ≤ numeralValue day &&
        numeralValue day ≤ daysInMonth (numeralValue year) (numeralValue month)
  | _ => false

def version : Check String := fun path value =>
  (text path value).andThen fun string =>
    match majorVersion? string.toList with
    | some major =>
        (Checked.accept string).warnIf (major ≠ ['1']) path (.schemaVersion string)
    | none => .reject path (.notVersion string)

def date : Check String := fun path value =>
  (text path value).andThen fun string =>
    if isDate string.toList then .accept string else .reject path (.notDate string)

def checkUrl (path : Path) (string : String) : Checked String :=
  match Url.parse string with
  | .ok _ => .accept string
  | .error cause => .reject path (.notUrl string cause)

def url : Check String := fun path value =>
  (text path value).andThen (checkUrl path)

def checkDoi (path : Path) (string : String) : Checked String :=
  (Checked.accept string).warnIf (!Doi.isValid string) path (.suspectDoi string)

def doi : Check String := fun path value =>
  (text path value).andThen (checkDoi path)

/-- Four groups of four digits; the last may end in `X`. -/
def isOrcidPath (path : List Char) : Bool :=
  match path with
  | '/' :: groups =>
      match groups.splitOn '-' with
      | [first, second, third, fourth] =>
          hasShape 4 first && hasShape 4 second && hasShape 4 third &&
            fourth.length = 4 && (fourth.take 3).all isDecimalDigit &&
            (fourth.drop 3).all fun c => isDecimalDigit c || c = 'X'
      | _ => false
  | _ => false

def isOrcid (string : String) : Bool :=
  match Url.parse string with
  | .ok url =>
      url.scheme = "https".toList && url.host = some (.domain "orcid.org".toList) &&
        isOrcidPath url.webPath
  | .error _ => false

def orcid : Check String := fun path value =>
  (text path value).andThen fun string =>
    if isOrcid string then .accept string else .reject path (.notOrcid string)

def numberBound : Nat := 0x100000000

/-- An integer of 32 bits, or a text that is one. -/
def natural : Check Nat := fun path value =>
  match value with
  | .number (.integer number) =>
      if number < 0 then .reject path (.negative number)
      else if number.toNat < numberBound then .accept number.toNat
      else .reject path (.notInteger .number)
  | .string string =>
      match naturalBelow? numberBound (trim string.toList) with
      | some number => .accept number
      | none => .reject path (.notIntegerText string)
  | _ => .reject path (.notInteger (Kind.of value))

def positive : Check Nat := fun path value =>
  (natural path value).andThen fun number =>
    if number = 0 then .reject path .zero else .accept number

def month : Check Nat := fun path value =>
  (natural path value).andThen fun number =>
    if 1 ≤ number ∧ number ≤ 12 then .accept number else .reject path (.monthOutOfRange number)

def listOf (check : Check α) : Check (List α) := fun path value =>
  match value.sequence? with
  | some items =>
      .all (items.mapIdx fun index item => check (path ++ [.item index]) item)
  | none => .reject path (.notList (Kind.of value))

end CitationFile.Schema
