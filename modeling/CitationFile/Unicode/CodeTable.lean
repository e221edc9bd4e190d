/-! Tables over code points. A table is written as text: entries separated by spaces and line ends,
each a code point or a range in hexadecimal, with an optional step and an optional image, as in
`41-5A`, `100-12E/2` or `1D400-1D419>41`. Along a range the first code point of the image advances
with the argument. -/

namespace CitationFile.Unicode

structure Run where
  first : Nat
  last : Nat
  step : Nat
  image : List Nat
deriving Repr, DecidableEq

/-- Runs in increasing order, no two of them overlapping. -/
abbrev CodeTable := Array Run

namespace Run

def Covers (run : Run) (code : Nat) : Prop :=
  run.first ≤ code ∧ code ≤ run.last ∧ (code - run.first) % run.step = 0

instance (run : Run) (code : Nat) : Decidable (run.Covers code) :=
  inferInstanceAs (Decidable (_ ∧ _ ∧ _))

def imageOf (run : Run) (code : Nat) : List Nat :=
  match run.image with
  | [] => []
  | start :: rest => (start + (code - run.first)) :: rest

end Run

namespace CodeTable

def search (table : CodeTable) (code : Nat) (low high : Nat) : Option Run :=
  if low < high then
    let middle := (low + high) / 2
    match table[middle]? with
    | none => none
    | some run =>
        if code < run.first then search table code low middle
        else if run.last < code then search table code (middle + 1) high
        else if run.Covers code then some run else none
  else none
termination_by high - low

def find? (table : CodeTable) (code : Nat) : Option Run :=
  table.search code 0 table.size

def contains (table : CodeTable) (code : Nat) : Bool :=
  (table.find? code).isSome

def image? (table : CodeTable) (code : Nat) : Option (List Nat) :=
  (table.find? code).map (·.imageOf code)

def hexDigit (c : Char) : Nat :=
  if c.isDigit then c.toNat - '0'.toNat else c.toNat - 'A'.toNat + 10

def hexNumber (digits : List Char) : Nat :=
  digits.foldl (fun n c => n * 16 + hexDigit c) 0

def readRange (text : List Char) (step : Nat) (image : List Nat) : Run :=
  match text.splitOn '-' with
  | [first, last] => ⟨hexNumber first, hexNumber last, step, image⟩
  | _ => ⟨hexNumber text, hexNumber text, step, image⟩

def readDomain (text : List Char) (image : List Nat) : Run :=
  match text.splitOn '/' with
  | [range, step] => readRange range (hexNumber step) image
  | _ => readRange text 1 image

def readRun (text : List Char) : Run :=
  match text.splitOn '>' with
  | [domain, image] => readDomain domain ((image.splitOn ',').map hexNumber)
  | _ => readDomain text []

def isSeparator (c : Char) : Bool :=
  c = ' ' || c = '\n'

def ofText (text : String) : CodeTable :=
  (((text.toList.splitOnP isSeparator).filter (· ≠ [])).map readRun).toArray

end CodeTable

end CitationFile.Unicode
