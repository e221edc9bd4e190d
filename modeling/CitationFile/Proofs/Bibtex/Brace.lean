import CitationFile.Bibtex.Writer
import Mathlib.Algebra.Ring.Int.Defs
import Mathlib.Data.List.Infix

namespace CitationFile.Bibtex

def braceWeight (c : Char) : Int :=
  if c = '{' then 1 else if c = '}' then -1 else 0

def depth (text : List Char) : Int :=
  (text.map braceWeight).sum

structure Balanced (text : List Char) : Prop where
  nonneg : ∀ before, before <+: text → 0 ≤ depth before
  closed : depth text = 0

/-- Entered at some depth, a text leads to no depth below zero. -/
def StaysOpen (start : Int) (text : List Char) : Prop :=
  ∀ before, before <+: text → 0 ≤ start + depth before

@[simp] theorem depth_nil : depth [] = 0 := rfl

@[simp] theorem depth_cons (c : Char) (rest : List Char) :
    depth (c :: rest) = braceWeight c + depth rest := by
  simp [depth]

@[simp] theorem depth_append (left right : List Char) :
    depth (left ++ right) = depth left + depth right := by
  simp [depth]

@[simp] theorem braceWeight_open : braceWeight '{' = 1 := rfl

@[simp] theorem braceWeight_close : braceWeight '}' = -1 := rfl

private theorem braceWeight_of_ne {c : Char} (hopen : c ≠ '{') (hclose : c ≠ '}') :
    braceWeight c = 0 := by
  simp [braceWeight, hopen, hclose]

@[simp] theorem staysOpen_nil {start : Int} : StaysOpen start [] ↔ 0 ≤ start := by
  simp [StaysOpen]

theorem staysOpen_cons {start : Int} {c : Char} {rest : List Char} :
    StaysOpen start (c :: rest) ↔ 0 ≤ start ∧ StaysOpen (start + braceWeight c) rest := by
  constructor
  · intro h
    refine ⟨by simpa using h [] List.nil_prefix, ?_⟩
    intro before hbefore
    have hstep := h (c :: before) (List.cons_prefix_cons.mpr ⟨rfl, hbefore⟩)
    rw [depth_cons] at hstep
    omega
  · rintro ⟨hstart, hrest⟩ before hbefore
    rcases List.prefix_cons_iff.mp hbefore with rfl | ⟨tail, rfl, htail⟩
    · simpa using hstart
    · have hstep := hrest tail htail
      rw [depth_cons]
      omega

theorem staysOpen_append {start : Int} {left right : List Char} :
    StaysOpen start (left ++ right) ↔
      StaysOpen start left ∧ StaysOpen (start + depth left) right := by
  induction left generalizing start with
  | nil =>
      have hstart : StaysOpen start right → 0 ≤ start := fun h => by
        simpa using h [] List.nil_prefix
      simpa using hstart
  | cons c rest ih =>
      rw [List.cons_append, staysOpen_cons, staysOpen_cons, ih, depth_cons, Int.add_assoc,
        and_assoc]

theorem StaysOpen.start_nonneg {start : Int} {text : List Char} (h : StaysOpen start text) :
    0 ≤ start := by
  simpa using h [] List.nil_prefix

private theorem StaysOpen.end_nonneg {start : Int} {text : List Char} (h : StaysOpen start text) :
    0 ≤ start + depth text :=
  h text (List.prefix_refl text)

private theorem StaysOpen.mono {start deeper : Int} {text : List Char} (h : StaysOpen start text)
    (hle : start ≤ deeper) : StaysOpen deeper text := by
  intro before hbefore
  have hbound := h before hbefore
  omega

theorem balanced_iff {text : List Char} : Balanced text ↔ StaysOpen 0 text ∧ depth text = 0 := by
  constructor
  · rintro ⟨hnonneg, hclosed⟩
    exact ⟨fun before hbefore => by simpa using hnonneg before hbefore, hclosed⟩
  · rintro ⟨hopen, hclosed⟩
    exact ⟨fun before hbefore => by simpa using hopen before hbefore, hclosed⟩

theorem Balanced.staysOpen {text : List Char} (h : Balanced text) {start : Int}
    (hstart : 0 ≤ start) : StaysOpen start text :=
  (balanced_iff.mp h).1.mono hstart

instance (text : List Char) : Decidable (Balanced text) :=
  decidable_of_iff (text.inits.all (fun before => decide (0 ≤ depth before)) ∧ depth text = 0) <| by
    simp only [List.all_eq_true, List.mem_inits, decide_eq_true_eq]
    exact ⟨fun h => ⟨h.1, h.2⟩, fun h => ⟨h.nonneg, h.closed⟩⟩

@[simp] theorem balanced_nil : Balanced [] := by
  simp [balanced_iff]

/-- A balanced text may be put anywhere, or taken away from there. -/
theorem staysOpen_insert {start : Int} {left middle right : List Char} (h : Balanced middle) :
    StaysOpen start (left ++ middle ++ right) ↔ StaysOpen start (left ++ right) := by
  simp only [staysOpen_append, depth_append, h.closed, Int.add_zero, and_assoc]
  constructor
  · rintro ⟨hleft, -, hright⟩
    exact ⟨hleft, hright⟩
  · rintro ⟨hleft, hright⟩
    exact ⟨hleft, h.staysOpen hleft.end_nonneg, hright⟩

private theorem balanced_insert {left middle right : List Char} (h : Balanced middle) :
    Balanced (left ++ middle ++ right) ↔ Balanced (left ++ right) := by
  rw [balanced_iff, balanced_iff, staysOpen_insert h]
  simp [h.closed]

theorem Balanced.append_iff {left right : List Char} (h : Balanced left) :
    Balanced (left ++ right) ↔ Balanced right := by
  simpa using @balanced_insert [] left right h

theorem Balanced.append {left right : List Char} (hleft : Balanced left)
    (hright : Balanced right) : Balanced (left ++ right) :=
  hleft.append_iff.mpr hright

private theorem balanced_flatMap {items : List α} {write : α → List Char}
    (h : ∀ item ∈ items, Balanced (write item)) : Balanced (items.flatMap write) := by
  induction items with
  | nil => simp
  | cons item rest ih =>
      rw [List.forall_mem_cons] at h
      rw [List.flatMap_cons]
      exact h.1.append (ih h.2)

def IsBraceFree (text : List Char) : Prop :=
  ∀ c ∈ text, c ≠ '{' ∧ c ≠ '}'

instance (text : List Char) : Decidable (IsBraceFree text) :=
  List.decidableBAll (fun c => c ≠ '{' ∧ c ≠ '}') text

theorem balanced_of_isBraceFree {text : List Char} (h : IsBraceFree text) : Balanced text := by
  induction text with
  | nil => simp
  | cons c rest ih =>
      have hweight := braceWeight_of_ne (h c (by simp)).1 (h c (by simp)).2
      obtain ⟨hopen, hclosed⟩ := balanced_iff.mp (ih fun d hd => h d (by simp [hd]))
      rw [balanced_iff, staysOpen_cons, depth_cons, hweight, hclosed]
      exact ⟨⟨Int.le_refl 0, hopen⟩, rfl⟩

private theorem ne_brace_of_isAlphanum {c : Char} (h : c.isAlphanum) : c ≠ '{' ∧ c ≠ '}' := by
  constructor <;> (rintro rfl; revert h; decide)

theorem isBraceFree_of_isAlpha {text : List Char} (h : ∀ c ∈ text, c.isAlpha) :
    IsBraceFree text := by
  intro c hc
  exact ne_brace_of_isAlphanum (Text.isAlphanum_iff.mpr (.inl (h c hc)))

theorem isBraceFree_of_isDigit {text : List Char} (h : text.all Char.isDigit) :
    IsBraceFree text := by
  intro c hc
  exact ne_brace_of_isAlphanum (Text.isAlphanum_iff.mpr (.inr (List.all_eq_true.mp h c hc)))

theorem Balanced.braced {text : List Char} (h : Balanced text) :
    Balanced ('{' :: text ++ ['}']) := by
  rw [balanced_iff, List.cons_append, staysOpen_cons, staysOpen_append]
  refine ⟨⟨Int.le_refl 0, h.staysOpen (by simp), ?_⟩, by simp [h.closed]⟩
  simp [staysOpen_cons, h.closed]

/-- No surrounding text tells these two apart by its braces. -/
structure NestsAs (text other : List Char) : Prop where
  staysOpen : ∀ start, StaysOpen start text ↔ StaysOpen start other
  depth : depth text = depth other

theorem NestsAs.refl (text : List Char) : NestsAs text text :=
  ⟨fun _ => Iff.rfl, rfl⟩

theorem NestsAs.trans {first second third : List Char} (hfirst : NestsAs first second)
    (hsecond : NestsAs second third) : NestsAs first third :=
  ⟨fun start => (hfirst.staysOpen start).trans (hsecond.staysOpen start),
    hfirst.depth.trans hsecond.depth⟩

theorem NestsAs.append {left left' right right' : List Char} (hleft : NestsAs left left')
    (hright : NestsAs right right') : NestsAs (left ++ right) (left' ++ right') := by
  constructor
  · intro start
    rw [staysOpen_append, staysOpen_append, hleft.staysOpen, hright.staysOpen, hleft.depth]
  · rw [depth_append, depth_append, hleft.depth, hright.depth]

theorem NestsAs.balanced_iff {text other : List Char} (h : NestsAs text other) :
    Balanced text ↔ Balanced other := by
  rw [Bibtex.balanced_iff, Bibtex.balanced_iff, h.staysOpen, h.depth]

theorem Balanced.staysOpen_iff {text : List Char} (h : Balanced text) {start : Int} :
    StaysOpen start text ↔ 0 ≤ start :=
  ⟨fun hopen => hopen.start_nonneg, fun hstart => h.staysOpen hstart⟩

theorem Balanced.nestsAs {text other : List Char} (h : Balanced text) (hother : Balanced other) :
    NestsAs text other := by
  constructor
  · intro start
    rw [h.staysOpen_iff, hother.staysOpen_iff]
  · rw [h.closed, hother.closed]

theorem nestsAs_flatMap {items : List α} {write write' : α → List Char}
    (h : ∀ item ∈ items, NestsAs (write item) (write' item)) :
    NestsAs (items.flatMap write) (items.flatMap write') := by
  induction items with
  | nil => exact NestsAs.refl []
  | cons item rest ih =>
      rw [List.forall_mem_cons] at h
      rw [List.flatMap_cons, List.flatMap_cons]
      exact h.1.append (ih h.2)

theorem leftBrace_eq : leftBrace = '\\' :: ("textbraceleft".toList ++ ['{', '}']) := by
  decide

theorem rightBrace_eq : rightBrace = '\\' :: ("textbraceright".toList ++ ['{', '}']) := by
  decide

private theorem ne_brace_of_isSpecial {c : Char} (h : isSpecial c) : c ≠ '{' ∧ c ≠ '}' := by
  constructor <;> (rintro rfl; revert h; decide)

private theorem balanced_command {name : List Char} (h : IsBraceFree name) :
    Balanced ('\\' :: (name ++ ['{', '}'])) := by
  have hname : IsBraceFree ('\\' :: name) := by
    intro c hc
    rcases List.mem_cons.mp hc with rfl | hc
    · decide
    · exact h c hc
  exact (balanced_of_isBraceFree hname).append balanced_nil.braced

private theorem balanced_escapeChar (c : Char) : Balanced (escapeChar c) := by
  unfold escapeChar
  split
  · rename_i hspecial
    apply balanced_of_isBraceFree
    simpa [IsBraceFree] using ne_brace_of_isSpecial hspecial
  · split
    · rw [leftBrace_eq]
      exact balanced_command (by decide)
    · split
      · rw [rightBrace_eq]
        exact balanced_command (by decide)
      · rename_i hopen hclose
        apply balanced_of_isBraceFree
        simpa [IsBraceFree] using ⟨hopen, hclose⟩

theorem balanced_escapeChars (text : List Char) : Balanced (escapeChars text) :=
  balanced_flatMap fun c _ => balanced_escapeChar c

theorem balanced_escape (text : String) : Balanced (escape text).toList := by
  rw [escape, String.toList_ofList]
  exact balanced_escapeChars _

end CitationFile.Bibtex
