import CitationFile.Document.Repetition

namespace CitationFile.Document

open Text

theorem spells_iff {entry spelling : List Char} :
    Line.spells entry spelling ↔
      ∃ behind, entry = spelling ++ behind ∧ [':'].isPrefixOf (trimStart behind) := by
  unfold Line.spells
  cases hbehind : dropOpening? spelling entry with
  | none =>
      simp only [Bool.false_eq_true, false_iff]
      rintro ⟨behind, rfl, -⟩
      rw [dropOpening?_eq_some_iff.mpr rfl] at hbehind
      cases hbehind
  | some behind =>
      obtain rfl := dropOpening?_eq_some_iff.mp hbehind
      simp

/-- Among the lines one names the key at an indent, and no line behind it begins further left. -/
def IsOpen (key : List Char) (lines : List (List Char)) (indent : Nat) : Prop :=
  ∃ before text after line, lines = before ++ text :: after ∧ Line.ofText? text = some line ∧
    line.names key ∧ line.indent = indent ∧
    ∀ other ∈ after, ∀ inner, Line.ofText? other = some inner → indent ≤ inner.base

/-- Behind some lines comes one that names the key in a mapping that is still open. -/
structure RepeatsAs (key : List Char) (before : List (List Char)) (text : List Char) (line : Line) :
    Prop where
  read : Line.ofText? text = some line
  names : line.names key
  inScope : line.indent ≤ line.base
  isOpen : IsOpen key before line.indent

def Repeats (key : List Char) (before : List (List Char)) (text : List Char) : Prop :=
  ∃ line, RepeatsAs key before text line

/-- One of the lines, which stand behind others, repeats the key. -/
def RepeatsWithin (key : List Char) (before lines : List (List Char)) : Prop :=
  ∃ inner text after, lines = inner ++ text :: after ∧ Repeats key (before ++ inner) text

/-- A text that names the key twice within one mapping, as far as its lines tell. -/
def NamesAgain (source key : List Char) : Prop :=
  RepeatsWithin key [] (source.splitOn '\n')

section Lines

variable {key text : List Char} {before lines more : List (List Char)} {line : Line} {indent : Nat}

theorem not_isOpen_nil (key : List Char) (indent : Nat) : ¬ IsOpen key [] indent := by
  rintro ⟨before, text, after, line, heq, -⟩
  simp at heq

theorem isOpen_concat_iff :
    IsOpen key (lines ++ [text]) indent ↔
      (∃ line, Line.ofText? text = some line ∧ line.names key ∧ line.indent = indent) ∨
        IsOpen key lines indent ∧
          ∀ line, Line.ofText? text = some line → indent ≤ line.base := by
  constructor
  · rintro ⟨before, other, after, line, heq, hread, hnames, hindent, hafter⟩
    cases List.eq_nil_or_concat after with
    | inl hnil =>
        subst hnil
        obtain rfl : text = other := by simpa using (List.append_inj' heq rfl).2
        exact .inl ⟨line, hread, hnames, hindent⟩
    | inr hconcat =>
        obtain ⟨inner, last, rfl⟩ := hconcat
        rw [List.concat_eq_append, ← List.cons_append, ← List.append_assoc] at heq
        obtain ⟨rfl, hlast⟩ := List.append_inj' heq rfl
        obtain rfl : text = last := by simpa using hlast
        refine .inr ⟨⟨before, other, inner, line, rfl, hread, hnames, hindent, ?_⟩, ?_⟩
        · exact fun next hnext => hafter next (by simp [hnext])
        · exact hafter text (by simp)
  · rintro (⟨line, hread, hnames, hindent⟩ | ⟨⟨before, other, after, line, rfl, hread, hnames,
      hindent, hafter⟩, hbase⟩)
    · exact ⟨lines, text, [], line, rfl, hread, hnames, hindent, by simp⟩
    · refine ⟨before, other, after ++ [text], line, by simp, hread, hnames, hindent, ?_⟩
      intro next hnext
      cases List.mem_append.mp hnext with
      | inl hmem => exact hafter next hmem
      | inr hmem => exact List.mem_singleton.mp hmem ▸ hbase

theorem not_repeatsWithin_nil (key : List Char) (before : List (List Char)) :
    ¬ RepeatsWithin key before [] := by
  rintro ⟨inner, text, after, heq, -⟩
  simp at heq

theorem repeatsWithin_cons_iff :
    RepeatsWithin key before (text :: lines) ↔
      Repeats key before text ∨ RepeatsWithin key (before ++ [text]) lines := by
  constructor
  · rintro ⟨inner, other, after, heq, hrepeats⟩
    cases inner with
    | nil =>
        obtain ⟨rfl, rfl⟩ := List.cons.inj heq
        exact .inl (by simpa using hrepeats)
    | cons first inner =>
        obtain ⟨rfl, rfl⟩ := List.cons.inj heq
        exact .inr ⟨inner, other, after, rfl, by simpa using hrepeats⟩
  · rintro (hrepeats | ⟨inner, other, after, rfl, hrepeats⟩)
    · exact ⟨[], text, lines, rfl, by simpa using hrepeats⟩
    · exact ⟨text :: inner, other, after, rfl, by simpa using hrepeats⟩

theorem repeatsWithin_append_iff :
    RepeatsWithin key before (lines ++ more) ↔
      RepeatsWithin key before lines ∨ RepeatsWithin key (before ++ lines) more := by
  induction lines generalizing before with
  | nil => simp [not_repeatsWithin_nil]
  | cons text lines ih => simp [repeatsWithin_cons_iff, ih, or_assoc]

theorem RepeatsWithin.exists_first (h : RepeatsWithin key before lines) :
    ∃ inner text after line, lines = inner ++ text :: after ∧
      RepeatsAs key (before ++ inner) text line ∧ ¬ RepeatsWithin key before inner := by
  induction lines generalizing before with
  | nil => exact absurd h (not_repeatsWithin_nil key before)
  | cons text lines ih =>
      by_cases hhere : Repeats key before text
      · obtain ⟨line, hline⟩ := hhere
        exact ⟨[], text, lines, line, rfl, by simpa using hline, not_repeatsWithin_nil key before⟩
      · have hbehind := (repeatsWithin_cons_iff.mp h).resolve_left hhere
        obtain ⟨inner, other, after, line, rfl, hline, hfree⟩ := ih hbehind
        refine ⟨text :: inner, other, after, line, rfl, by simpa using hline, ?_⟩
        rw [repeatsWithin_cons_iff]
        exact not_or.mpr ⟨hhere, hfree⟩

end Lines

def indentsBehind (key : List Char) (indents : List Nat) (text : List Char) : List Nat :=
  match Line.ofText? text with
  | none => indents
  | some line =>
      let inScope := indents.filter (· ≤ line.base)
      if line.names key then line.indent :: inScope else inScope

/-- The indents are those of the open mappings that have the key. -/
def Tracks (key : List Char) (before : List (List Char)) (indents : List Nat) : Prop :=
  ∀ indent, indent ∈ indents ↔ IsOpen key before indent

section Search

variable {key text : List Char} {before inner lines : List (List Char)} {indents : List Nat}
variable {line : Line}

theorem tracks_nil (key : List Char) : Tracks key [] [] := by
  intro indent
  simp [not_isOpen_nil]

private theorem Tracks.behind (h : Tracks key before indents) (text : List Char) :
    Tracks key (before ++ [text]) (indentsBehind key indents text) := by
  intro indent
  rw [isOpen_concat_iff, ← h indent]
  cases hread : Line.ofText? text with
  | none => simp [indentsBehind, hread]
  | some line =>
      by_cases hnames : line.names key
      · simp [indentsBehind, hread, hnames, @eq_comm Nat indent line.indent]
      · simp [indentsBehind, hread, hnames]

private theorem repetitionFrom?_of_repeatsAs (h : Tracks key before indents)
    (hline : RepeatsAs key before text line) (number : Nat) (rest : List (List Char)) :
    repetitionFrom? key number indents (text :: rest) = some (number, line.indent + 1) := by
  have hmem : line.indent ∈ indents.filter (· ≤ line.base) := by
    rw [List.mem_filter]
    exact ⟨(h _).mpr hline.isOpen, by simpa using hline.inScope⟩
  simp [repetitionFrom?, hline.read, hline.names, hmem]

private theorem repetitionFrom?_of_not_repeats (h : Tracks key before indents)
    (htext : ¬ Repeats key before text) (number : Nat) (rest : List (List Char)) :
    repetitionFrom? key number indents (text :: rest) =
      repetitionFrom? key (number + 1) (indentsBehind key indents text) rest := by
  cases hread : Line.ofText? text with
  | none => simp [repetitionFrom?, indentsBehind, hread]
  | some line =>
      by_cases hnames : line.names key
      · have hmem : line.indent ∉ indents.filter (· ≤ line.base) := by
          intro hmem
          rw [List.mem_filter, h, decide_eq_true_eq] at hmem
          exact htext ⟨line, hread, hnames, hmem.2, hmem.1⟩
        simp [repetitionFrom?, indentsBehind, hread, hnames, hmem]
      · simp [repetitionFrom?, indentsBehind, hread, hnames]

theorem repetitionFrom?_eq_none (h : Tracks key before indents)
    (hfree : ¬ RepeatsWithin key before lines) (number : Nat) :
    repetitionFrom? key number indents lines = none := by
  induction lines generalizing before indents number with
  | nil => rfl
  | cons text lines ih =>
      rw [repeatsWithin_cons_iff, not_or] at hfree
      rw [repetitionFrom?_of_not_repeats h hfree.1]
      exact ih (h.behind text) hfree.2 (number + 1)

theorem repetitionFrom?_eq_some (h : Tracks key before indents)
    (hfree : ¬ RepeatsWithin key before inner) (hline : RepeatsAs key (before ++ inner) text line)
    (number : Nat) (rest : List (List Char)) :
    repetitionFrom? key number indents (inner ++ text :: rest) =
      some (number + inner.length, line.indent + 1) := by
  induction inner generalizing before indents number with
  | nil => exact repetitionFrom?_of_repeatsAs h (by simpa using hline) number rest
  | cons other inner ih =>
      rw [repeatsWithin_cons_iff, not_or] at hfree
      rw [List.cons_append, repetitionFrom?_of_not_repeats h hfree.1,
        ih (h.behind other) hfree.2 (by simpa using hline)]
      simp only [List.length_cons, Option.some.injEq, Prod.mk.injEq, and_true]
      omega

end Search

section Text

variable {source key text : List Char} {inner after : List (List Char)} {line : Line}

theorem repetition?_eq_some (hlines : source.splitOn '\n' = inner ++ text :: after)
    (hfree : ¬ RepeatsWithin key [] inner) (hline : RepeatsAs key inner text line) :
    repetition? source key = some (inner.length + 1, line.indent + 1) := by
  rw [repetition?, hlines, repetitionFrom?_eq_some (tracks_nil key) hfree hline, Nat.add_comm]

theorem repetition?_isSome_iff : (repetition? source key).isSome ↔ NamesAgain source key := by
  by_cases hagain : NamesAgain source key
  · obtain ⟨inner, text, after, line, hlines, hline, hfree⟩ := hagain.exists_first
    simp [hagain, repetition?_eq_some hlines hfree (by simpa using hline)]
  · simp [hagain, repetition?, repetitionFrom?_eq_none (tracks_nil key) hagain]

theorem pos_of_repetition?_eq_some {place : Nat × Nat} (h : repetition? source key = some place) :
    1 ≤ place.1 ∧ 1 ≤ place.2 := by
  have hagain : NamesAgain source key := repetition?_isSome_iff.mp (by rw [h]; rfl)
  obtain ⟨inner, text, after, line, hlines, hline, hfree⟩ := hagain.exists_first
  rw [repetition?_eq_some hlines hfree (by simpa using hline)] at h
  cases h
  exact ⟨Nat.le_add_left 1 _, Nat.le_add_left 1 _⟩

end Text

end CitationFile.Document
