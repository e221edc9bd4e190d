/-! Punycode: a text in ASCII that keeps the basic code points of another in front, and behind the
last hyphen the places of all others, as differences in a number system of variable base. -/

namespace CitationFile.Url.Punycode

def digitValue? (c : Char) : Option Nat :=
  if 'a' ≤ c ∧ c ≤ 'z' then some (c.toNat - 'a'.toNat)
  else if 'A' ≤ c ∧ c ≤ 'Z' then some (c.toNat - 'A'.toNat)
  else if c.isDigit then some (c.toNat - '0'.toNat + 26)
  else none

def digit (value : Nat) : Char :=
  if value < 26 then Char.ofNat ('a'.toNat + value) else Char.ofNat ('0'.toNat + (value - 26))

/-- The least value at which a digit is not the last of its number. -/
def threshold (position bias : Nat) : Nat :=
  min 26 (max 1 (position - bias))

/-- The new bias. A difference is damped, then brought down by 35 until it is at most 455. -/
def reduce (delta : Nat) : Nat × Nat :=
  if 455 < delta then
    let (rest, steps) := reduce (delta / 35)
    (rest, steps + 36)
  else (delta, 0)
termination_by delta

def adapt (delta count : Nat) (isFirst : Bool) : Nat :=
  let damped := if isFirst then delta / 700 else delta / 2
  let (rest, steps) := reduce (damped + damped / count)
  steps + 36 * rest / (rest + 38)

def readDelta? (bias : Nat) : Nat → Nat → Nat → List Char → Option (Nat × List Char)
  | _, _, _, [] => none
  | position, weight, value, c :: rest =>
      (digitValue? c).bind fun d =>
        let least := threshold position bias
        let total := value + d * weight
        if d < least then some (total, rest)
        else readDelta? bias (position + 36) (weight * (36 - least)) total rest

theorem length_of_readDelta? {bias position weight value delta : Nat} {text rest : List Char}
    (h : readDelta? bias position weight value text = some (delta, rest)) :
    rest.length < text.length := by
  induction text generalizing position weight value with
  | nil => simp [readDelta?] at h
  | cons c text ih =>
      rw [readDelta?, Option.bind_eq_some_iff] at h
      obtain ⟨d, -, h⟩ := h
      dsimp only at h
      split at h
      · simp only [Option.some.injEq, Prod.mk.injEq] at h
        simp [← h.2]
      · have := ih h
        simp only [List.length_cons]
        omega

def isScalar (code : Nat) : Bool :=
  code < 0xD800 || (0xDFFF < code && code ≤ 0x10FFFF)

/-- Inserts the code points that the differences describe; `place` counts through all pairs of a
code point and a position in the text so far. -/
def insertAll? (code place bias : Nat) (output : List Nat) (text : List Char) :
    Option (List Nat) :=
  if text = [] then some output
  else match htaken : readDelta? bias 36 1 0 text with
    | none => none
    | some (delta, rest) =>
        let count := output.length + 1
        let target := place + delta
        let next := code + target / count
        let position := target % count
        if isScalar next then
          have : rest.length < text.length := length_of_readDelta? htaken
          insertAll? next (position + 1) (adapt delta count (place = 0))
            (output.insertIdx position next) rest
        else none
termination_by text.length

def splitAtLastHyphen (text : List Char) : List Char × List Char :=
  match text.reverse.span (· ≠ '-') with
  | (behind, _ :: before) => (before.reverse, behind.reverse)
  | (behind, []) => ([], behind.reverse)

def decode? (text : List Char) : Option (List Nat) :=
  let (basic, extended) := splitAtLastHyphen text
  insertAll? 0x80 0 72 (basic.map Char.toNat) extended

def writeDelta (bias : Nat) : Nat → Nat → Nat → List Char
  | 0, _, _ => []
  | fuel + 1, position, value =>
      let least := threshold position bias
      if value < least then [digit value]
      else
        digit (least + (value - least) % (36 - least)) ::
          writeDelta bias fuel (position + 36) ((value - least) / (36 - least))

structure EncoderState where
  delta : Nat
  bias : Nat
  handled : Nat
  output : List Char

def encodeStep (code basicCount : Nat) (state : EncoderState) (c : Nat) : EncoderState :=
  if c < code then { state with delta := state.delta + 1 }
  else if c = code then
    { delta := 0
      bias := adapt state.delta (state.handled + 1) (state.handled = basicCount)
      handled := state.handled + 1
      output := state.output ++ writeDelta state.bias (state.delta + 1) 36 state.delta }
  else state

/-- Takes the code points in increasing order; each of them passes over the whole text. -/
def encodeFrom (text : List Nat) (basicCount : Nat) :
    Nat → Nat → EncoderState → List Char
  | 0, _, state => state.output
  | fuel + 1, code, state =>
      match (text.filter (code ≤ ·)).min? with
      | none => state.output
      | some next =>
          let raised := { state with delta := state.delta + (next - code) * (state.handled + 1) }
          let passed := text.foldl (encodeStep next basicCount) raised
          encodeFrom text basicCount fuel (next + 1) { passed with delta := passed.delta + 1 }

def encode (text : List Nat) : List Char :=
  let basic := text.filter (· < 0x80)
  let opening := basic.map Char.ofNat ++ if basic = [] then [] else ['-']
  encodeFrom text basic.length text.length 0x80 ⟨0, 72, basic.length, opening⟩

end CitationFile.Url.Punycode
