import CitationFile.Proofs.Document.Position
import Mathlib.Data.List.Basic

/-! Where a document in block style repeats a key. Its entries have a text on the line of the key,
or a literal text on the lines below. The search does not tell the lines of a literal text from
those of a mapping; so it ends at the second entry of a key unless a literal text before names it
twice. -/

namespace CitationFile.Document

open Text

/-- A small letter, and small letters and hyphens behind it. -/
def IsPlainKey (key : List Char) : Prop :=
  key.head?.any Char.isLower ∧ ∀ c ∈ key, c.isLower ∨ c = '-'

/-- A letter, and letters, digits and inner spaces behind it. -/
def IsPlainText (text : List Char) : Prop :=
  text.head?.any Char.isAlpha ∧ (∀ c ∈ text, c.isAlphanum ∨ c = ' ') ∧ text.getLast? ≠ some ' '

/-- Printable characters, of which the first is not a space. -/
def IsLiteralLine (line : List Char) : Prop :=
  line.head?.any (· ≠ ' ') ∧ ∀ c ∈ line, ' ' ≤ c ∧ c ≤ '~'

-- The characters of the list are tried, not all characters there are.
instance : DecidablePred IsPlainKey := fun key =>
  have : Decidable (∀ c ∈ key, c.isLower ∨ c = '-') := List.decidableBAll _ key
  inferInstanceAs (Decidable (_ ∧ _))

instance : DecidablePred IsPlainText := fun text =>
  have : Decidable (∀ c ∈ text, c.isAlphanum ∨ c = ' ') := List.decidableBAll _ text
  inferInstanceAs (Decidable (_ ∧ _ ∧ _))

instance : DecidablePred IsLiteralLine := fun line =>
  have : Decidable (∀ c ∈ line, ' ' ≤ c ∧ c ≤ '~') := List.decidableBAll _ line
  inferInstanceAs (Decidable (_ ∧ _))

inductive BlockText where
  | plain (text : List Char)
  | literal (first : List Char) (others : List (List Char))

namespace BlockText

def IsWellFormed : BlockText → Prop
  | plain text => IsPlainText text
  | literal first others => ∀ line ∈ first :: others, IsLiteralLine line

instance : DecidablePred IsWellFormed
  | plain text => inferInstanceAs (Decidable (IsPlainText text))
  | literal first others =>
      inferInstanceAs (Decidable (∀ line ∈ first :: others, IsLiteralLine line))

def opening : BlockText → List Char
  | plain text => text
  | literal _ _ => ['|']

def body : BlockText → List (List Char)
  | plain _ => []
  | literal first others => first :: others

end BlockText

structure BlockEntry where
  key : List Char
  text : BlockText
  key_isPlain : IsPlainKey key
  text_isWellFormed : text.IsWellFormed

namespace BlockEntry

def header (entry : BlockEntry) : List Char :=
  entry.key ++ ':' :: ' ' :: entry.text.opening

def lines (entry : BlockEntry) : List (List Char) :=
  entry.header :: entry.text.body.map (List.replicate 2 ' ' ++ ·)

end BlockEntry

/-- The text consists of the lines of the entries, with an empty line at the end or without. -/
def IsBlockDocument (source : List Char) (entries : List BlockEntry) : Prop :=
  ∃ ending ∈ [[], [[]]], source = ['\n'].intercalate (entries.flatMap (·.lines) ++ ending)

/-- The line looks like an entry with the key. -/
def opensWithKey (key line : List Char) : Bool :=
  (Line.spellings key).any (Line.spells line)

section Characters

variable {c : Char} {key line text : List Char}

private theorem ne_of_isLower {other : Char} (h : c.isLower) (hother : ¬ other.isLower) :
    c ≠ other :=
  fun heq => hother (heq ▸ h)

private theorem IsPlainKey.toNat_of_mem (h : IsPlainKey key) (hc : c ∈ key) :
    c.toNat = 45 ∨ 97 ≤ c.toNat ∧ c.toNat ≤ 122 := by
  cases h.2 c hc with
  | inl hlower => exact .inr (isLower_iff.mp hlower)
  | inr hhyphen => exact .inl (hhyphen ▸ rfl)

private theorem IsPlainKey.isBlank_of_mem (h : IsPlainKey key) (hc : c ∈ key) :
    isBlank c = false := by
  have := h.toNat_of_mem hc
  exact isBlank_eq_false (by omega) (by omega)

private theorem IsPlainKey.not_mem (h : IsPlainKey key) (hother : ¬ (c.isLower ∨ c = '-')) :
    c ∉ key :=
  fun hc => hother (h.2 c hc)

theorem IsPlainKey.exists_cons (h : IsPlainKey key) :
    ∃ first rest, key = first :: rest ∧ first.isLower := by
  cases key with
  | nil => exact absurd h.1 (by decide)
  | cons first rest => exact ⟨first, rest, rfl, h.1⟩

private theorem IsPlainKey.quoteChar_eq (h : IsPlainKey key) (hc : c ∈ key) :
    quoteChar c = [c] := by
  have hcode := h.toNat_of_mem hc
  unfold quoteChar
  split
  iterate 6 · exact absurd hcode (by decide)
  have hlower : 32 ≤ c.toNat := by omega
  have hupper : c.toNat ≤ 126 := by omega
  exact if_pos ⟨hlower, hupper⟩

theorem IsLiteralLine.exists_cons (h : IsLiteralLine line) :
    ∃ first rest, line = first :: rest ∧ isBlank first = false := by
  cases line with
  | nil => exact absurd h.1 (by decide)
  | cons first rest =>
      have hspace : first ≠ ' ' := by simpa using h.1
      obtain ⟨hlower, hupper⟩ := h.2 first List.mem_cons_self
      refine ⟨first, rest, rfl, isBlank_eq_false ?_ ?_⟩
      · exact Nat.lt_of_le_of_ne hlower fun heq => hspace (Char.ext (UInt32.toNat_inj.mp heq.symm))
      · exact Nat.lt_succ_of_le hupper

private theorem BlockText.IsWellFormed.isLiteralLine {text : BlockText} (h : text.IsWellFormed) :
    ∀ line ∈ text.body, IsLiteralLine line := by
  cases text with
  | plain text => simp [BlockText.body]
  | literal first others => exact h

private theorem BlockText.IsWellFormed.newline_not_mem_opening {text : BlockText}
    (h : text.IsWellFormed) :
    '\n' ∉ text.opening := by
  cases text with
  | plain text => exact fun hmem => absurd (h.2.1 '\n' hmem) (by decide)
  | literal first others => simp [BlockText.opening]

private theorem BlockEntry.newline_not_mem_lines (entry : BlockEntry) :
    ∀ line ∈ entry.lines, '\n' ∉ line := by
  intro line hline
  cases List.mem_cons.mp hline with
  | inl hheader =>
      rw [hheader, BlockEntry.header]
      have hkey := entry.key_isPlain.not_mem (c := '\n') (by decide)
      simp [hkey, entry.text_isWellFormed.newline_not_mem_opening]
  | inr hbody =>
      obtain ⟨inner, hinner, rfl⟩ := List.mem_map.mp hbody
      have hprintable := (entry.text_isWellFormed.isLiteralLine inner hinner).2
      have hnewline : '\n' ∉ inner := fun hmem => absurd (hprintable '\n' hmem) (by decide)
      simp [hnewline]

theorem IsBlockDocument.exists_splitOn_eq {source : List Char} {before after : List BlockEntry}
    {entry : BlockEntry} (h : IsBlockDocument source (before ++ entry :: after)) :
    ∃ rest, source.splitOn '\n' = before.flatMap (·.lines) ++ entry.header :: rest := by
  obtain ⟨ending, hending, rfl⟩ := h
  rw [List.splitOn_intercalate '\n']
  · exact ⟨entry.text.body.map (List.replicate 2 ' ' ++ ·) ++ after.flatMap (·.lines) ++ ending,
      by simp [BlockEntry.lines]⟩
  · intro line hline
    cases List.mem_append.mp hline with
    | inl hmem =>
        obtain ⟨entry, -, hentry⟩ := List.mem_flatMap.mp hmem
        exact entry.newline_not_mem_lines line hentry
    | inr hmem =>
        cases List.mem_pair.mp hending with
        | inl hnone => simp [hnone] at hmem
        | inr hempty =>
            obtain rfl : line = [] := by simpa [hempty] using hmem
            exact List.not_mem_nil
  · simp [BlockEntry.lines]

end Characters

section Lines

variable {c : Char} {key text behind : List Char} {indent : Nat} {line : Line}

private theorem isBlank_of_mem_replicate {blank : Char} (h : blank ∈ List.replicate indent ' ') :
    isBlank blank := by
  rw [List.eq_of_mem_replicate h]
  decide

theorem trimStart_replicate_append (indent : Nat) (hc : isBlank c = false) :
    trimStart (List.replicate indent ' ' ++ c :: text) = c :: text :=
  dropWhile_append_cons (fun _ => isBlank_of_mem_replicate) hc text

private theorem byteLength_replicate (indent : Nat) :
    byteLength (List.replicate indent ' ') = indent := by
  induction indent with
  | zero => rfl
  | succ indent ih => rw [List.replicate_succ, byteLength, ih, Nat.add_comm]; rfl

theorem byteLength_replicate_append (indent : Nat) (hc : isBlank c = false) :
    byteLength ((List.replicate indent ' ' ++ c :: text).takeWhile isBlank) = indent := by
  rw [takeWhile_append_cons (fun _ => isBlank_of_mem_replicate) hc, byteLength_replicate]

theorem ofText?_replicate_append (indent : Nat) (hc : isBlank c = false) (hhash : c ≠ '#')
    (hhyphen : c ≠ '-') :
    Line.ofText? (List.replicate indent ' ' ++ c :: text) = some ⟨indent, indent, c :: text⟩ := by
  simp [Line.ofText?, trimStart_replicate_append indent hc, byteLength_replicate_append indent hc,
    Line.isComment, hhash, hhyphen]

theorem base_of_ofText?_replicate_append (hc : isBlank c = false)
    (h : Line.ofText? (List.replicate indent ' ' ++ c :: text) = some line) :
    line.base = indent ∧
      (line.entry = c :: text ∧ line.indent = indent ∨ indent < line.indent) := by
  rw [Line.ofText?, trimStart_replicate_append indent hc,
    byteLength_replicate_append indent hc] at h
  split at h
  · cases h
  · split at h
    · cases h
      exact ⟨rfl, .inr (by simp only; omega)⟩
    · cases h
      exact ⟨rfl, .inl ⟨rfl, rfl⟩⟩

theorem opensWithKey_iff :
    opensWithKey key text ↔ ∃ behind, [':'].isPrefixOf (trimStart behind) ∧
      (text = key ++ behind ∨ text = '"' :: (key ++ '"' :: behind) ∨
        text = '\'' :: (key ++ '\'' :: behind)) := by
  simp only [opensWithKey, Line.spellings, List.any_cons, List.any_nil, Bool.or_false,
    Bool.or_eq_true, spells_iff, ← exists_or, List.cons_append, List.append_assoc, List.nil_append]
  exact exists_congr fun behind => by tauto

private theorem ne_of_opensWithKey (hkey : IsPlainKey key) (h : opensWithKey key (c :: text)) :
    c ≠ '#' ∧ c ≠ '-' := by
  obtain ⟨first, rest, rfl, hfirst⟩ := hkey.exists_cons
  obtain ⟨behind, -, hplain | hquoted | hquoted⟩ := opensWithKey_iff.mp h
  · obtain ⟨rfl, -⟩ := List.cons.inj hplain
    exact ⟨ne_of_isLower hfirst (by decide), ne_of_isLower hfirst (by decide)⟩
  · obtain ⟨rfl, -⟩ := List.cons.inj hquoted
    decide
  · obtain ⟨rfl, -⟩ := List.cons.inj hquoted
    decide

private theorem eq_of_append_colon {other : List Char} (hkey : IsPlainKey key)
    (hother : IsPlainKey other)
    (heq : other ++ ':' :: text = key ++ behind) (hbehind : [':'].isPrefixOf (trimStart behind)) :
    other = key := by
  cases List.append_eq_append_iff.mp heq with
  | inl hlonger =>
      obtain ⟨more, rfl, hmore⟩ := hlonger
      cases more with
      | nil => exact (List.append_nil other).symm
      | cons c more =>
          obtain ⟨rfl, -⟩ := List.cons.inj hmore
          exact absurd (by simp) (hkey.not_mem (c := ':') (by decide))
  | inr hshorter =>
      obtain ⟨more, rfl, rfl⟩ := hshorter
      cases more with
      | nil => exact List.append_nil key
      | cons c more =>
          have hmem : c ∈ key ++ c :: more := by simp
          rw [List.cons_append, trimStart, List.dropWhile_cons_of_neg
            (by simp [hother.isBlank_of_mem hmem]), List.isPrefixOf_iff_prefix] at hbehind
          obtain ⟨rfl, -⟩ := List.cons_prefix_cons.mp hbehind
          exact absurd hmem (hother.not_mem (by decide))

theorem opensWithKey_header_iff (hkey : IsPlainKey key) (entry : BlockEntry) :
    opensWithKey key entry.header ↔ entry.key = key := by
  rw [opensWithKey_iff]
  constructor
  · rintro ⟨behind, hbehind, hplain | hquoted | hquoted⟩
    · exact eq_of_append_colon hkey entry.key_isPlain hplain hbehind
    all_goals
      obtain ⟨first, rest, hentry, hfirst⟩ := entry.key_isPlain.exists_cons
      rw [BlockEntry.header, hentry] at hquoted
      exact absurd (List.cons.inj hquoted).1 (ne_of_isLower hfirst (by decide))
  · rintro rfl
    exact ⟨':' :: ' ' :: entry.text.opening, rfl, .inl rfl⟩

theorem ofText?_header (entry : BlockEntry) :
    Line.ofText? entry.header = some ⟨0, 0, entry.header⟩ := by
  obtain ⟨first, rest, hentry, hfirst⟩ := entry.key_isPlain.exists_cons
  have hblank : isBlank first = false := entry.key_isPlain.isBlank_of_mem (by simp [hentry])
  rw [BlockEntry.header, hentry]
  exact ofText?_replicate_append 0 hblank (ne_of_isLower hfirst (by decide))
    (ne_of_isLower hfirst (by decide))

private theorem ofText?_of_opensWithKey (hkey : IsPlainKey key) (htext : IsLiteralLine text)
    (h : opensWithKey key text) :
    Line.ofText? (List.replicate 2 ' ' ++ text) = some ⟨2, 2, text⟩ := by
  obtain ⟨first, rest, rfl, hblank⟩ := htext.exists_cons
  obtain ⟨hhash, hhyphen⟩ := ne_of_opensWithKey hkey h
  exact ofText?_replicate_append 2 hblank hhash hhyphen

private theorem base_of_ofText?_literal (htext : IsLiteralLine text)
    (h : Line.ofText? (List.replicate 2 ' ' ++ text) = some line) :
    line.base = 2 ∧ 2 ≤ line.indent ∧ (line.indent ≤ 2 → line = ⟨2, 2, text⟩) := by
  obtain ⟨first, rest, rfl, hblank⟩ := htext.exists_cons
  obtain ⟨hbase, ⟨hentry, hindent⟩ | hindent⟩ := base_of_ofText?_replicate_append hblank h
  · refine ⟨hbase, Nat.le_of_eq hindent.symm, fun _ => ?_⟩
    cases line
    simp_all
  · exact ⟨hbase, Nat.le_of_lt hindent, fun hle => absurd hindent (Nat.not_lt.mpr hle)⟩

end Lines

/-! Entries begin at indent 0 and the lines of a literal text at indent 2. A literal line may look
like an item, whose entry begins further right; but no line behind it lies as far in. -/

section Behind

variable {key text : List Char} {before body : List (List Char)} {entries : List BlockEntry}

theorem isOpen_header_iff (hkey : IsPlainKey key) (entry : BlockEntry) :
    IsOpen key (before ++ [entry.header]) 0 ↔ IsOpen key before 0 ∨ entry.key = key := by
  rw [isOpen_concat_iff, ofText?_header, ← opensWithKey_header_iff hkey entry, or_comm]
  simp [Line.names, opensWithKey]

private theorem not_isOpen_header (entry : BlockEntry) :
    ¬ IsOpen key (before ++ [entry.header]) 2 := by
  rw [isOpen_concat_iff, ofText?_header]
  simp

theorem repeats_header_iff (hkey : IsPlainKey key) (entry : BlockEntry) :
    Repeats key before entry.header ↔ IsOpen key before 0 ∧ entry.key = key := by
  rw [← opensWithKey_header_iff hkey entry]
  constructor
  · rintro ⟨line, hread, hnames, -, hopen⟩
    rw [ofText?_header] at hread
    cases hread
    exact ⟨hopen, hnames⟩
  · rintro ⟨hopen, hnames⟩
    exact ⟨_, ofText?_header entry, hnames, Nat.le_refl 0, hopen⟩

theorem isOpen_literal_iff (htext : IsLiteralLine text) :
    IsOpen key (before ++ [List.replicate 2 ' ' ++ text]) 0 ↔ IsOpen key before 0 := by
  rw [isOpen_concat_iff]
  constructor
  · rintro (⟨line, hread, -, hindent⟩ | ⟨hopen, -⟩)
    · have := (base_of_ofText?_literal htext hread).2.1
      omega
    · exact hopen
  · exact fun hopen => .inr ⟨hopen, fun line _ => Nat.zero_le line.base⟩

theorem isOpen_literal_two_iff (hkey : IsPlainKey key) (htext : IsLiteralLine text) :
    IsOpen key (before ++ [List.replicate 2 ' ' ++ text]) 2 ↔
      IsOpen key before 2 ∨ opensWithKey key text := by
  rw [isOpen_concat_iff, or_comm]
  apply or_congr
  · exact and_iff_left fun line hread => Nat.le_of_eq (base_of_ofText?_literal htext hread).1.symm
  · constructor
    · rintro ⟨line, hread, hnames, hindent⟩
      cases (base_of_ofText?_literal htext hread).2.2 (Nat.le_of_eq hindent)
      exact hnames
    · exact fun hopens => ⟨_, ofText?_of_opensWithKey hkey htext hopens, hopens, rfl⟩

theorem repeats_literal_iff (hkey : IsPlainKey key) (htext : IsLiteralLine text) :
    Repeats key before (List.replicate 2 ' ' ++ text) ↔
      IsOpen key before 2 ∧ opensWithKey key text := by
  constructor
  · rintro ⟨line, hread, hnames, hscope, hopen⟩
    obtain ⟨hbase, -, heq⟩ := base_of_ofText?_literal htext hread
    cases heq (hbase ▸ hscope)
    exact ⟨hopen, hnames⟩
  · rintro ⟨hopen, hopens⟩
    exact ⟨_, ofText?_of_opensWithKey hkey htext hopens, hopens, Nat.le_refl 2, hopen⟩

theorem isOpen_body_iff (hbody : ∀ text ∈ body, IsLiteralLine text) :
    IsOpen key (before ++ body.map (List.replicate 2 ' ' ++ ·)) 0 ↔ IsOpen key before 0 := by
  induction body generalizing before with
  | nil => simp
  | cons text body ih =>
      obtain ⟨htext, hrest⟩ := List.forall_mem_cons.mp hbody
      rw [List.map_cons, List.append_cons, ih hrest, isOpen_literal_iff htext]

theorem repeatsWithin_body_iff (hkey : IsPlainKey key) (hbody : ∀ text ∈ body, IsLiteralLine text) :
    RepeatsWithin key before (body.map (List.replicate 2 ' ' ++ ·)) ↔
      (IsOpen key before 2 ∧ 1 ≤ body.countP (opensWithKey key)) ∨
        2 ≤ body.countP (opensWithKey key) := by
  induction body generalizing before with
  | nil => simp [not_repeatsWithin_nil]
  | cons text body ih =>
      obtain ⟨htext, hrest⟩ := List.forall_mem_cons.mp hbody
      rw [List.map_cons, repeatsWithin_cons_iff, repeats_literal_iff hkey htext, ih hrest,
        isOpen_literal_two_iff hkey htext]
      -- Behind a line that looks like an entry with the key, the next such line repeats it.
      by_cases hopens : opensWithKey key text
      · rw [List.countP_cons_of_pos hopens]
        by_cases hopen : IsOpen key before 2
        · simp only [hopen, hopens, and_self, true_or, true_and, true_iff]
          omega
        · simp only [hopen, hopens, false_and, false_or, or_true, true_and]
          omega
      · rw [List.countP_cons_of_neg hopens]
        simp only [hopens, Bool.false_eq_true, and_false, false_or, or_false]

theorem isOpen_lines_iff (hkey : IsPlainKey key) (entry : BlockEntry) :
    IsOpen key (before ++ entry.lines) 0 ↔ IsOpen key before 0 ∨ entry.key = key := by
  rw [BlockEntry.lines, List.append_cons,
    isOpen_body_iff entry.text_isWellFormed.isLiteralLine, isOpen_header_iff hkey]

/-- An entry repeats a key by its own key, or twice in its literal text. -/
theorem repeatsWithin_lines_iff (hkey : IsPlainKey key) (entry : BlockEntry) :
    RepeatsWithin key before entry.lines ↔
      (IsOpen key before 0 ∧ entry.key = key) ∨ 2 ≤ entry.text.body.countP (opensWithKey key) := by
  rw [BlockEntry.lines, repeatsWithin_cons_iff, repeats_header_iff hkey,
    repeatsWithin_body_iff hkey entry.text_isWellFormed.isLiteralLine]
  simp [not_isOpen_header]

theorem isOpen_entries_iff (hkey : IsPlainKey key) (entries : List BlockEntry) :
    IsOpen key (before ++ entries.flatMap (·.lines)) 0 ↔
      IsOpen key before 0 ∨ key ∈ entries.map (·.key) := by
  induction entries generalizing before with
  | nil => simp
  | cons entry entries ih =>
      rw [List.flatMap_cons, ← List.append_assoc, ih, isOpen_lines_iff hkey, List.map_cons,
        List.mem_cons, or_assoc, @eq_comm _ key]

theorem repeatsWithin_entries_iff (hkey : IsPlainKey key)
    (hdistinct : (entries.map (·.key)).Nodup) :
    RepeatsWithin key before (entries.flatMap (·.lines)) ↔
      (IsOpen key before 0 ∧ key ∈ entries.map (·.key)) ∨
        ∃ entry ∈ entries, 2 ≤ entry.text.body.countP (opensWithKey key) := by
  induction entries generalizing before with
  | nil => simp [not_repeatsWithin_nil]
  | cons entry entries ih =>
      rw [List.map_cons, List.nodup_cons] at hdistinct
      rw [List.flatMap_cons, repeatsWithin_append_iff, repeatsWithin_lines_iff hkey,
        ih hdistinct.2, isOpen_lines_iff hkey, List.map_cons, List.mem_cons,
        List.exists_mem_cons_iff]
      have hother : ¬ (entry.key = key ∧ key ∈ entries.map (·.key)) := by
        rintro ⟨rfl, hmem⟩
        exact hdistinct.1 hmem
      have hsymm : key = entry.key ↔ entry.key = key := eq_comm
      tauto

end Behind

section Place

variable {source : String} {before after : List BlockEntry} {second : BlockEntry}
variable {mark : Yaml.Mark}

theorem exists_failure_of_duplicateKey {key : List Char} (hkey : IsPlainKey key)
    (hread : Yaml.Value.ofText source =
      .error (.fault (.duplicateKey (.string (String.ofList key))) [] mark)) :
    ∃ failure, parse source = .error failure ∧
      failure.line = (repetition? source.toList key).map (·.1) ∧
      failure.column = (repetition? source.toList key).map (·.2) := by
  refine ⟨_, parse_of_ofText_eq_error hread, ?_⟩
  have hplain : ∀ c ∈ (String.ofList key).toList, quoteChar c = [c] := by
    rw [String.toList_ofList]
    exact fun c hc => hkey.quoteChar_eq hc
  rw [Failure.atRepetition, Failure.ofReadError, repeatedKey?_text_duplicateKey hplain,
    String.toList_ofList]
  exact ⟨rfl, rfl⟩

/-- The failure is located at the second entry of the key exactly if no literal text before it has
two lines that look like an entry with the key. -/
theorem parse_at_second_entry_iff
    (htext : IsBlockDocument source.toList (before ++ second :: after))
    (hdistinct : (before.map (·.key)).Nodup) (hsecond : second.key ∈ before.map (·.key))
    (hread : Yaml.Value.ofText source =
      .error (.fault (.duplicateKey (.string (String.ofList second.key))) [] mark)) :
    ∃ failure, parse source = .error failure ∧
      (failure.line = some ((before.flatMap (·.lines)).length + 1) ∧ failure.column = some 1 ↔
        ∀ entry ∈ before, entry.text.body.countP (opensWithKey second.key) ≤ 1) := by
  have hkey := second.key_isPlain
  obtain ⟨failure, hparse, hline, hcolumn⟩ := exists_failure_of_duplicateKey hkey hread
  obtain ⟨rest, hlines⟩ := htext.exists_splitOn_eq
  have hwithin : RepeatsWithin second.key [] (before.flatMap (·.lines)) ↔
      ∃ entry ∈ before, 2 ≤ entry.text.body.countP (opensWithKey second.key) := by
    simp [repeatsWithin_entries_iff hkey hdistinct, not_isOpen_nil]
  refine ⟨failure, hparse, ?_⟩
  rw [hline, hcolumn]
  constructor
  · intro hplace entry hentry
    by_contra hmany
    -- Then the search ends on one of the lines before the second entry.
    obtain ⟨inner, text, others, line, heq, hfirst, hfree⟩ :=
      (hwithin.mpr ⟨entry, hentry, by omega⟩).exists_first
    rw [heq, List.append_assoc, List.cons_append] at hlines
    rw [repetition?_eq_some hlines hfree hfirst, heq] at hplace
    simp at hplace
  · intro hfew
    have hfree : ¬ RepeatsWithin second.key [] (before.flatMap (·.lines)) := by
      rw [hwithin]
      rintro ⟨entry, hentry, hmany⟩
      have := hfew entry hentry
      omega
    have hopen : IsOpen second.key ([] ++ before.flatMap (·.lines)) 0 :=
      (isOpen_entries_iff hkey before).mpr (.inr hsecond)
    have hnames : (Line.mk 0 0 second.header).names second.key :=
      (opensWithKey_header_iff hkey second).mpr rfl
    rw [repetition?_eq_some hlines hfree
      ⟨ofText?_header second, hnames, Nat.le_refl 0, hopen⟩]
    exact ⟨rfl, rfl⟩

end Place

def titleEntry : BlockEntry :=
  ⟨"title".toList, .plain "Tools".toList, by decide, by decide⟩

/-- Of its lines, only the first looks like an entry with a title. -/
def summaryEntry : BlockEntry :=
  ⟨"abstract".toList, .literal "title: old".toList
    ["- title: older".toList, "# title: oldest".toList], by decide, by decide⟩

def summaryText : String :=
  "abstract: |\n  title: old\n  - title: older\n  # title: oldest\ntitle: Tools\ntitle: Tools\n"

theorem summaryText_at_second_entry :
    ∃ failure, parse summaryText = .error failure ∧
      failure.line = some 6 ∧ failure.column = some 1 := by
  have htext : IsBlockDocument summaryText.toList
      ([summaryEntry, titleEntry] ++ titleEntry :: []) :=
    ⟨[[]], by decide, by decide +kernel⟩
  have hread : Yaml.Value.ofText summaryText =
      .error (.fault (.duplicateKey (.string (String.ofList titleEntry.key))) [] {}) :=
    duplicate?_eq_some_iff.mp (by decide +kernel)
  obtain ⟨failure, hparse, hplace⟩ :=
    parse_at_second_entry_iff htext (by decide) (by decide) hread
  exact ⟨failure, hparse, hplace.mpr (by decide +kernel)⟩

/-- Two of its lines look like entries with a title. -/
def changesEntry : BlockEntry :=
  ⟨"abstract".toList, .literal "title: old".toList ["title: new".toList], by decide, by decide⟩

def changesText : String :=
  "abstract: |\n  title: old\n  title: new\ntitle: Tools\ntitle: Tools\n"

/-- The second entry begins on the fifth line; the failure is located on the third one. -/
theorem changesText_not_at_second_entry :
    ∃ mark failure,
      IsBlockDocument changesText.toList ([changesEntry, titleEntry] ++ titleEntry :: []) ∧
      ([changesEntry, titleEntry].map (·.key)).Nodup ∧
      titleEntry.key ∈ [changesEntry, titleEntry].map (·.key) ∧
      Yaml.Value.ofText changesText =
        .error (.fault (.duplicateKey (.string (String.ofList titleEntry.key))) [] mark) ∧
      ([changesEntry, titleEntry].flatMap (·.lines)).length + 1 = 5 ∧
      parse changesText = .error failure ∧ failure.line = some 3 ∧ failure.column = some 3 := by
  have hread : Yaml.Value.ofText changesText =
      .error (.fault (.duplicateKey (.string (String.ofList titleEntry.key))) [] {}) :=
    duplicate?_eq_some_iff.mp (by decide +kernel)
  have hplace : repetition? changesText.toList titleEntry.key = some (3, 3) := by decide +kernel
  obtain ⟨failure, hparse, hline, hcolumn⟩ :=
    exists_failure_of_duplicateKey titleEntry.key_isPlain hread
  rw [hplace] at hline hcolumn
  exact ⟨{}, failure, ⟨[[]], by decide, by decide +kernel⟩, by decide, by decide, hread, by decide,
    hparse, hline, hcolumn⟩

end CitationFile.Document
