import CitationFile.Proofs.Document.Repetition

/-! The search for a repeated key in terms of line numbers. A line repeats a key if an earlier line
names it at the same indent and no line from there on begins further left; the search tells the
first line that does. -/

namespace CitationFile.Document

open Text

/-- Behind its blanks a line has a text of its own, which is no comment. This text is the entry of
the line, or a dash, a space and further blanks stand before the entry. -/
inductive Line.Reads : List Char → Line → Prop
  | plain {blanks rest : List Char} {c : Char} (hblank : IsBlank blanks)
      (hvisible : isBlank c = false) (hcomment : c ≠ '#') (hitem : ¬ ['-', ' '] <+: c :: rest) :
      Reads (blanks ++ c :: rest) ⟨byteLength blanks, byteLength blanks, c :: rest⟩
  | item {blanks gap entry : List Char} (hblank : IsBlank blanks) (hinner : IsBlank gap)
      (hvisible : ∀ c ∈ entry.head?, isBlank c = false) :
      Reads (blanks ++ '-' :: ' ' :: (gap ++ entry))
        ⟨byteLength blanks, byteLength (blanks ++ '-' :: ' ' :: gap), entry⟩

/-- The entry opens with the key, plain or in quotes, and a colon behind optional blanks. -/
def Line.HasKey (line : Line) (key : List Char) : Prop :=
  ∃ spelling ∈ [key, '"' :: key ++ ['"'], '\'' :: key ++ ['\'']], ∃ gap rest, IsBlank gap ∧
    line.entry = spelling ++ gap ++ ':' :: rest

section Line

variable {text left right blanks body : List Char} {line : Line}

theorem byteLength_append : byteLength (left ++ right) = byteLength left + byteLength right := by
  induction left with
  | nil => simp [byteLength]
  | cons c rest ih => rw [List.cons_append, byteLength, byteLength, ih, Nat.add_assoc]

private theorem byteLength_item (blanks gap : List Char) :
    byteLength (blanks ++ '-' :: ' ' :: gap) = byteLength blanks + 2 + byteLength gap := by
  rw [byteLength_append, Nat.add_assoc]
  exact congrArg (byteLength blanks + ·) (Nat.add_assoc 1 1 _).symm

private theorem exists_blanks (text : List Char) :
    ∃ blanks body, text = blanks ++ body ∧ IsBlank blanks ∧
      ∀ c ∈ body.head?, isBlank c = false := by
  refine ⟨text.takeWhile isBlank, text.dropWhile isBlank,
    List.takeWhile_append_dropWhile.symm, List.all_eq_true.mp List.all_takeWhile, ?_⟩
  intro c hc
  have hstops := List.head?_dropWhile_not isBlank text
  rw [Option.mem_def.mp hc] at hstops
  exact hstops

private theorem takeWhile_blanks (hblanks : IsBlank blanks)
    (hbody : ∀ c ∈ body.head?, isBlank c = false) :
    (blanks ++ body).takeWhile isBlank = blanks := by
  cases body with
  | nil => rw [List.takeWhile_append_of_pos hblanks, List.takeWhile_nil, List.append_nil]
  | cons c rest => exact takeWhile_append_cons hblanks (hbody c rfl) rest

private theorem trimStart_blanks (hblanks : IsBlank blanks)
    (hbody : ∀ c ∈ body.head?, isBlank c = false) :
    trimStart (blanks ++ body) = body := by
  rw [trimStart, List.dropWhile_append_of_pos hblanks]
  exact trimStart_eq_self_iff.mpr hbody

private theorem reads_of_ofText? (h : Line.ofText? text = some line) : Line.Reads text line := by
  obtain ⟨blanks, body, rfl, hblanks, hbody⟩ := exists_blanks text
  rw [Line.ofText?, trimStart_blanks hblanks hbody, takeWhile_blanks hblanks hbody] at h
  split at h
  · cases h
  · rename_i hown
    rw [not_or] at hown
    split at h
    · rename_i rest
      obtain ⟨gap, entry, rfl, hgap, hentry⟩ := exists_blanks rest
      rw [trimStart_blanks hgap hentry, takeWhile_blanks hgap hentry] at h
      cases h
      rw [← byteLength_item]
      exact .item hblanks hgap hentry
    · rename_i hitem
      cases h
      cases body with
      | nil => exact absurd rfl hown.1
      | cons c rest =>
          refine .plain hblanks (hbody c rfl) ?_ ?_
          · rintro rfl
            exact hown.2 rfl
          · rintro ⟨tail, heq⟩
            exact hitem tail heq.symm

private theorem ofText?_of_reads (h : Line.Reads text line) : Line.ofText? text = some line := by
  cases h with
  | @plain blanks rest c hblanks hvisible hcomment hitem =>
      have hbody : ∀ d ∈ (c :: rest).head?, isBlank d = false := by simpa using hvisible
      rw [Line.ofText?, trimStart_blanks hblanks hbody, takeWhile_blanks hblanks hbody]
      split
      · rename_i hnone
        simp [Line.isComment, hcomment] at hnone
      · split
        · rename_i tail heq
          rw [heq] at hitem
          exact absurd (List.prefix_append ['-', ' '] tail) hitem
        · rfl
  | @item blanks gap entry hblanks hgap hentry =>
      have hbody : ∀ d ∈ ('-' :: ' ' :: (gap ++ entry)).head?, isBlank d = false := by
        simp only [List.head?_cons, Option.mem_some_iff, forall_eq']
        decide
      rw [Line.ofText?, trimStart_blanks hblanks hbody, takeWhile_blanks hblanks hbody,
        if_neg (by simp [Line.isComment])]
      simp only [trimStart_blanks hgap hentry, takeWhile_blanks hgap hentry, byteLength_item]

theorem ofText?_eq_some_iff : Line.ofText? text = some line ↔ Line.Reads text line :=
  ⟨reads_of_ofText?, ofText?_of_reads⟩

theorem names_iff {key : List Char} : line.names key ↔ line.HasKey key := by
  have hcolon : ∀ behind, [':'].isPrefixOf (trimStart behind) ↔
      ∃ gap rest, IsBlank gap ∧ behind = gap ++ ':' :: rest := by
    intro behind
    constructor
    · intro h
      obtain ⟨gap, body, rfl, hgap, hbody⟩ := exists_blanks behind
      rw [trimStart_blanks hgap hbody, List.isPrefixOf_iff_prefix] at h
      obtain ⟨rest, rfl⟩ := h
      exact ⟨gap, rest, hgap, rfl⟩
    · rintro ⟨gap, rest, hgap, rfl⟩
      have hbody : ∀ c ∈ (':' :: rest).head?, isBlank c = false := by
        simp only [List.head?_cons, Option.mem_some_iff, forall_eq']
        decide
      rw [trimStart_blanks hgap hbody, List.isPrefixOf_iff_prefix]
      exact ⟨rest, rfl⟩
  rw [Line.names, List.any_eq_true]
  constructor
  · rintro ⟨spelling, hspelling, hopens⟩
    obtain ⟨behind, hentry, hbehind⟩ := spells_iff.mp hopens
    obtain ⟨gap, rest, hgap, rfl⟩ := (hcolon behind).mp hbehind
    exact ⟨spelling, hspelling, gap, rest, hgap, by rw [hentry, List.append_assoc]⟩
  · rintro ⟨spelling, hspelling, gap, rest, hgap, hentry⟩
    refine ⟨spelling, hspelling, spells_iff.mpr ⟨gap ++ ':' :: rest, ?_, ?_⟩⟩
    · rw [hentry, List.append_assoc]
    · exact (hcolon _).mpr ⟨gap, rest, hgap, rfl⟩

end Line

/-- The line with a number, counted from one, has a text of its own. -/
def LineAt (source : List Char) (number : Nat) (line : Line) : Prop :=
  ∃ i text, number = i + 1 ∧ (source.splitOn '\n')[i]? = some text ∧ Line.Reads text line

/-- Two lines name the key at one indent, and behind the first of them no line up to the second
begins further left than this. -/
def RepeatsLine (source key : List Char) (earlier later : Nat) : Prop :=
  earlier < later ∧ ∃ first second, LineAt source earlier first ∧ LineAt source later second ∧
    first.HasKey key ∧ second.HasKey key ∧ first.indent = second.indent ∧
    ∀ number line, earlier < number → number ≤ later → LineAt source number line →
      first.indent ≤ line.base

/-- The line repeats a line before it, and no line before it does. -/
structure IsFirstRepetition (source key : List Char) (number : Nat) : Prop where
  repeats : ∃ earlier, RepeatsLine source key earlier number
  first : ∀ other < number, ∀ earlier, ¬ RepeatsLine source key earlier other

section Numbers

variable {source key text : List Char} {lines : List (List Char)} {i indent : Nat}

theorem LineAt.unique {number : Nat} {left right : Line} (hleft : LineAt source number left)
    (hright : LineAt source number right) : left = right := by
  obtain ⟨i, text, rfl, htext, hread⟩ := hleft
  obtain ⟨j, other, hnumber, hother, hreadOther⟩ := hright
  obtain rfl : i = j := Nat.succ.inj hnumber
  obtain rfl : text = other := Option.some.inj (htext.symm.trans hother)
  rw [← ofText?_eq_some_iff] at hread hreadOther
  exact Option.some.inj (hread.symm.trans hreadOther)

private theorem eq_take_append_cons_drop (h : lines[i]? = some text) :
    lines = lines.take i ++ text :: lines.drop (i + 1) := by
  obtain ⟨hi, rfl⟩ := List.getElem?_eq_some_iff.mp h
  rw [← List.drop_eq_getElem_cons hi, List.take_append_drop]

private theorem isOpen_iff_getElem? :
    IsOpen key lines indent ↔
      ∃ j text line, lines[j]? = some text ∧ Line.ofText? text = some line ∧ line.names key ∧
        line.indent = indent ∧ ∀ (k : Nat) other inner, j < k → lines[k]? = some other →
          Line.ofText? other = some inner → indent ≤ inner.base := by
  constructor
  · rintro ⟨before, text, after, line, rfl, hread, hnames, hindent, hafter⟩
    refine ⟨before.length, text, line, by simp, hread, hnames, hindent, ?_⟩
    intro k other inner hk hother
    rw [List.getElem?_append_right (Nat.le_of_lt hk), List.getElem?_cons,
      if_neg (Nat.sub_ne_zero_of_lt hk)] at hother
    exact hafter other (List.mem_of_getElem? hother) inner
  · rintro ⟨j, text, line, htext, hread, hnames, hindent, hafter⟩
    refine ⟨lines.take j, text, lines.drop (j + 1), line, ?_, hread, hnames, hindent, ?_⟩
    · exact eq_take_append_cons_drop htext
    · intro other hother inner
      obtain ⟨k, hk⟩ := List.mem_iff_getElem?.mp hother
      rw [List.getElem?_drop] at hk
      exact hafter (j + 1 + k) other inner (by omega) hk

theorem getElem?_take_eq_some_iff {j : Nat} :
    (lines.take i)[j]? = some text ↔ j < i ∧ lines[j]? = some text := by
  rw [List.getElem?_take, Option.ite_none_right_eq_some]

private theorem exists_repeatsLine_of_repeats (htext : (source.splitOn '\n')[i]? = some text)
    (h : Repeats key ((source.splitOn '\n').take i) text) :
    ∃ earlier, RepeatsLine source key earlier (i + 1) := by
  obtain ⟨second, hread, hnames, hscope, hopen⟩ := h
  obtain ⟨j, before, first, hbefore, hreadFirst, hnamesFirst, hindent, hafter⟩ :=
    isOpen_iff_getElem?.mp hopen
  rw [getElem?_take_eq_some_iff] at hbefore
  refine ⟨j + 1, by omega, first, second, ?_, ?_, names_iff.mp hnamesFirst, names_iff.mp hnames,
    hindent, ?_⟩
  · exact ⟨j, before, rfl, hbefore.2, ofText?_eq_some_iff.mp hreadFirst⟩
  · exact ⟨i, text, rfl, htext, ofText?_eq_some_iff.mp hread⟩
  · rintro number line hearlier hlater ⟨k, other, rfl, hother, hreadOther⟩
    rw [← ofText?_eq_some_iff] at hreadOther
    rcases Nat.lt_or_eq_of_le (Nat.le_of_succ_le_succ hlater) with hlt | rfl
    · rw [hindent]
      exact hafter k other line (by omega) (getElem?_take_eq_some_iff.mpr ⟨hlt, hother⟩)
        hreadOther
    · obtain rfl : text = other := Option.some.inj (htext.symm.trans hother)
      obtain rfl : second = line := Option.some.inj (hread.symm.trans hreadOther)
      rw [hindent]
      exact hscope

private theorem repeats_of_repeatsLine {earlier : Nat}
    (htext : (source.splitOn '\n')[i]? = some text) (h : RepeatsLine source key earlier (i + 1)) :
    Repeats key ((source.splitOn '\n').take i) text := by
  obtain ⟨hlt, first, second, ⟨j, before, rfl, hbefore, hreadFirst⟩, ⟨k, other, hk, hother, hread⟩,
    hkeyFirst, hkey, hindent, hbetween⟩ := h
  obtain rfl : i = k := Nat.succ.inj hk
  obtain rfl : text = other := Option.some.inj (htext.symm.trans hother)
  have hscope := hbetween (i + 1) second hlt (Nat.le_refl _) ⟨i, text, rfl, htext, hread⟩
  refine ⟨second, ofText?_eq_some_iff.mpr hread, names_iff.mpr hkey, hindent ▸ hscope, ?_⟩
  refine isOpen_iff_getElem?.mpr ⟨j, before, first, ?_, ofText?_eq_some_iff.mpr hreadFirst,
    names_iff.mpr hkeyFirst, hindent, ?_⟩
  · exact getElem?_take_eq_some_iff.mpr ⟨by omega, hbefore⟩
  · intro number line inner hnumber hline hreadLine
    rw [getElem?_take_eq_some_iff] at hline
    rw [← hindent]
    exact hbetween (number + 1) inner (by omega) (by omega)
      ⟨number, line, rfl, hline.2, ofText?_eq_some_iff.mp hreadLine⟩

theorem repeats_take_iff (htext : (source.splitOn '\n')[i]? = some text) :
    Repeats key ((source.splitOn '\n').take i) text ↔
      ∃ earlier, RepeatsLine source key earlier (i + 1) :=
  ⟨exists_repeatsLine_of_repeats htext, fun ⟨_, h⟩ => repeats_of_repeatsLine htext h⟩

private theorem RepeatsLine.exists_text {earlier later : Nat}
    (h : RepeatsLine source key earlier later) :
    ∃ i text, later = i + 1 ∧ (source.splitOn '\n')[i]? = some text := by
  obtain ⟨-, -, second, -, ⟨i, text, hnumber, htext, -⟩, -⟩ := h
  exact ⟨i, text, hnumber, htext⟩

private theorem repeatsWithin_of_repeatsLine {inner : List (List Char)} {earlier later : Nat}
    (hinner : inner <+: source.splitOn '\n') (hlater : later ≤ inner.length)
    (h : RepeatsLine source key earlier later) : RepeatsWithin key [] inner := by
  obtain ⟨i, text, rfl, htext⟩ := h.exists_text
  obtain ⟨rest, hrest⟩ := hinner
  have hrepeats := (repeats_take_iff htext).mpr ⟨earlier, h⟩
  rw [← hrest, List.getElem?_append_left hlater] at htext
  rw [← hrest, List.take_append_of_le_length (Nat.le_of_lt hlater)] at hrepeats
  exact ⟨inner.take i, text, inner.drop (i + 1), eq_take_append_cons_drop htext, hrepeats⟩

theorem isFirstRepetition_of_repetition? {number column : Nat}
    (h : repetition? source key = some (number, column)) :
    IsFirstRepetition source key number ∧
      ∃ line, LineAt source number line ∧ column = line.indent + 1 := by
  have hagain : NamesAgain source key := repetition?_isSome_iff.mp (by rw [h]; rfl)
  obtain ⟨inner, text, after, line, hlines, hline, hfree⟩ := hagain.exists_first
  rw [repetition?_eq_some hlines hfree hline] at h
  cases h
  have htext : (source.splitOn '\n')[inner.length]? = some text := by simp [hlines]
  have htake : (source.splitOn '\n').take inner.length = inner := by simp [hlines]
  refine ⟨⟨?_, ?_⟩, line, ⟨_, text, rfl, htext, ofText?_eq_some_iff.mp hline.read⟩, rfl⟩
  · exact (repeats_take_iff htext).mp ⟨line, by rw [htake]; exact hline⟩
  · intro other hother earlier hrepeats
    have hbegins : inner <+: source.splitOn '\n' := hlines ▸ List.prefix_append inner _
    exact hfree (repeatsWithin_of_repeatsLine hbegins (Nat.le_of_lt_succ hother) hrepeats)

theorem repetition?_isSome_of_repeatsLine {earlier later : Nat}
    (h : RepeatsLine source key earlier later) : (repetition? source key).isSome := by
  rw [repetition?_isSome_iff]
  obtain ⟨i, text, rfl, htext⟩ := h.exists_text
  have hlater : i < (source.splitOn '\n').length := (List.getElem?_eq_some_iff.mp htext).1
  exact repeatsWithin_of_repeatsLine (List.prefix_refl _) hlater h

/-- The search tells the first line that repeats the key, with the place where its entry begins, and
nothing just if no line repeats the key. -/
theorem repetition?_tells_first (source key : List Char) :
    (∀ number column, repetition? source key = some (number, column) ↔
      IsFirstRepetition source key number ∧
        ∃ line, LineAt source number line ∧ column = line.indent + 1) ∧
      (repetition? source key = none ↔
        ¬ ∃ earlier later, RepeatsLine source key earlier later) := by
  constructor
  · intro number column
    refine ⟨isFirstRepetition_of_repetition?, ?_⟩
    rintro ⟨hfirst, line, hline, rfl⟩
    obtain ⟨earlier, hrepeats⟩ := hfirst.repeats
    obtain ⟨⟨found, column⟩, hfound⟩ :=
      Option.isSome_iff_exists.mp (repetition?_isSome_of_repeatsLine hrepeats)
    obtain ⟨hleast, other, hother, rfl⟩ := isFirstRepetition_of_repetition? hfound
    obtain ⟨second, hsecond⟩ := hleast.repeats
    have hle : ¬ found < number := fun hlt => hfirst.first found hlt second hsecond
    have hge : ¬ number < found := fun hlt => hleast.first number hlt earlier hrepeats
    obtain rfl : found = number := by omega
    rw [hfound, hother.unique hline]
  · constructor
    · rintro hnone ⟨earlier, later, hrepeats⟩
      have hsome := repetition?_isSome_of_repeatsLine hrepeats
      rw [hnone] at hsome
      cases hsome
    · intro hnever
      cases hfound : repetition? source key with
      | none => rfl
      | some place =>
          obtain ⟨earlier, hrepeats⟩ := (isFirstRepetition_of_repetition? hfound).1.repeats
          exact absurd ⟨earlier, _, hrepeats⟩ hnever

end Numbers

end CitationFile.Document
