import CitationFile.Calendar
import CitationFile.Text.Digit
import CitationFile.Toml.Reader

namespace CitationFile.Toml

open Reader

def numberWithin (length least most : Nat) : Reader Nat :=
  (digits length).refine fun text =>
    let value := Text.digitsValue text
    if least ≤ value ∧ value ≤ most then .ok value
    else .error { obstacle := some .outOfRange }

def date : Reader Unit := do
  let year ← digits 4
  let _ ← symbol '-'
  let month ← required (numberWithin 2 1 12)
  let _ ← required (symbol '-')
  let _ ← required (numberWithin 2 1 (Calendar.daysInMonth (Text.digitsValue year) month))
  return ()

def secondFraction : Reader Unit := do
  let _ ← symbol '.'
  let _ ← count Char.isDigit 1 none
  return ()

/-- A minute may end in a leap second. -/
def time : Reader Unit := do
  let _ ← numberWithin 2 0 23
  let _ ← symbol ':'
  required do
    let _ ← numberWithin 2 0 59
    let _ ← symbol ':'
    let _ ← numberWithin 2 0 60
    let _ ← secondFraction.maybe
    return ()

def zulu : Reader Unit := do
  let _ ← satisfying fun c => c = 'Z' || c = 'z'
  return ()

def numericOffset : Reader Unit := do
  let _ ← satisfying fun c => c = '+' || c = '-'
  required do
    let _ ← numberWithin 2 0 23
    let _ ← symbol ':'
    let _ ← numberWithin 2 0 59
    return ()

def offset : Reader Unit :=
  about .timeOffset (zulu.orElse numericOffset)

def timeOfDate : Reader Unit := do
  let _ ← satisfying fun c => c = 'T' || c = 't' || c = ' '
  time
  let _ ← offset.maybe
  return ()

def moment : Reader Unit :=
  (about .dateTime do
    date
    let _ ← timeOfDate.maybe
    return ()).orElse (about .time time)

end CitationFile.Toml
