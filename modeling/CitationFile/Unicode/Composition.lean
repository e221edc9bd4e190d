import CitationFile.Unicode.CombiningClass
import CitationFile.Unicode.Decomposition

namespace CitationFile.Unicode

def compositionExclusions : CodeTable := .ofText "
  340-341 343-344 374 37E 387 958-95F 9DC-9DD 9DF A33 A36 A59-A5B A5E B5C-B5D F43 F4D F52 F57
  F5C F69 F73 F75-F76 F78 F81 F93 F9D FA2 FA7 FAC FB9 1F71 1F73 1F75 1F77 1F79 1F7B 1F7D 1FBB
  1FBE 1FC9 1FCB 1FD3 1FDB 1FE3 1FEB 1FEE-1FEF 1FF9 1FFB 1FFD 2000-2001 2126 212A-212B
  2329-232A 2ADC F900-FA0D FA10 FA12 FA15-FA1E FA20 FA22 FA25-FA26 FA2A-FA6D FA70-FAD9 FB1D
  FB1F FB2A-FB36 FB38-FB3C FB3E FB40-FB41 FB43-FB44 FB46-FB4E 1D15E-1D164 1D1BB-1D1C0
  2F800-2FA1D"

def insertMark (mark : Nat × Nat) : List (Nat × Nat) → List (Nat × Nat)
  | [] => [mark]
  | other :: rest =>
      if other.1 ≤ mark.1 then other :: insertMark mark rest else mark :: other :: rest

/-- Sorts each stretch of marks by class, keeping the order within a class; `marks` is the stretch
being collected. -/
def orderMarks (marks : List (Nat × Nat)) : List Nat → List Nat
  | [] => marks.map (·.2)
  | code :: rest =>
      if combiningClass code = 0 then marks.map (·.2) ++ code :: orderMarks [] rest
      else orderMarks (insertMark (combiningClass code, code) marks) rest

def decomposed (codes : List Nat) : List Nat :=
  orderMarks [] (codes.flatMap canonicalDecomposition)

def compatibilityDecomposed (codes : List Nat) : List Nat :=
  orderMarks [] (codes.flatMap compatibilityDecomposition)

def composeHangul? (first second : Nat) : Option Nat :=
  if 0x1100 ≤ first ∧ first < 0x1113 ∧ 0x1161 ≤ second ∧ second < 0x1176 then
    some (0xAC00 + ((first - 0x1100) * 21 + (second - 0x1161)) * 28)
  else if 0xAC00 ≤ first ∧ first < 0xAC00 + 11172 ∧ (first - 0xAC00) % 28 = 0 ∧
      0x11A8 ≤ second ∧ second < 0x11C3 then
    some (first + (second - 0x11A7))
  else none

def composites : List (List Nat × Nat) :=
  canonicalTable.toList.flatMap fun run =>
    (List.range (run.last - run.first + 1)).filterMap fun offset =>
      let code := run.first + offset
      if offset % run.step = 0 && !compositionExclusions.contains code then
        some (run.imageOf code, code)
      else none

def compose? (first second : Nat) : Option Nat :=
  composeHangul? first second <|>
    (composites.find? fun entry =>
      entry.1 = canonicalDecomposition first ++ canonicalDecomposition second).map (·.2)

/-- Joins marks with the last starter. `pending` holds, in reverse, the marks that stayed between
the starter and the text still to come; a mark behind one of its own or a higher class stays as
well. -/
def composeFrom (starter : Nat) (pending : List Nat) : List Nat → List Nat
  | [] => starter :: pending.reverse
  | code :: rest =>
      let reachable := match pending with
        | [] => true
        | last :: _ => combiningClass last != 0 && combiningClass last < combiningClass code
      match if reachable then compose? starter code else none with
      | some composite => composeFrom composite pending rest
      | none =>
          if combiningClass code = 0 then
            starter :: pending.reverse ++ composeFrom code [] rest
          else composeFrom starter (code :: pending) rest

def composeAll : List Nat → List Nat
  | [] => []
  | code :: rest =>
      if combiningClass code = 0 then composeFrom code [] rest else code :: composeAll rest

/-- Below the first combining mark every text is composed already. -/
def composed (codes : List Nat) : List Nat :=
  if codes.all (· < 0x300) then codes else composeAll (decomposed codes)

end CitationFile.Unicode
