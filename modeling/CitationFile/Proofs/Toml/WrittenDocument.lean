import CitationFile.Proofs.Result
import CitationFile.Proofs.Toml.WrittenValue
import CitationFile.Toml.Document
import Mathlib.Data.List.Forall2

namespace CitationFile.Toml

open Reader

structure BareKey where
  chars : List Char
  ne_nil : chars ≠ []
  bare : chars.all isBareChar

structure Assignment where
  key : BareKey
  text : List Char
  value : Value
  written : IsWrittenAs text value

def Assignment.chars (assignment : Assignment) : List Char :=
  assignment.key.chars ++ ' ' :: '=' :: ' ' :: (assignment.text ++ ['\n'])

structure Group where
  name : BareKey
  assignments : List Assignment
  distinct : (assignments.map (·.key.chars)).Nodup

def Group.chars (group : Group) : List Char :=
  '[' :: (group.name.chars ++ ']' :: '\n' :: group.assignments.flatMap Assignment.chars)

def documentChars (groups : List Group) : List Char :=
  ['\n'].intercalate (groups.map Group.chars)

/-- No blank comes first, so that nothing is skipped. -/
def IsFlush (text : List Char) : Prop :=
  ∀ c ∈ text.head?, isBlank c = false

private theorem IsFlush.dropWhile_eq {text : List Char} (h : IsFlush text) :
    text.dropWhile isBlank = text := by
  cases text with
  | nil => rfl
  | cons c rest => exact List.dropWhile_cons_of_neg (by simp [h c rfl])

private theorem IsFlush.blanks_eq {text : List Char} (h : IsFlush text) :
    blanks text = .done () text :=
  congrArg (Outcome.done ()) h.dropWhile_eq

private theorem isBlank_of_isBareChar {c : Char} (h : isBareChar c) : isBlank c = false := by
  have hspace : c ≠ ' ' := Text.ne_of_class h (by decide)
  have htab : c ≠ '\t' := Text.ne_of_class h (by decide)
  simp [isBlank, hspace, htab]

private theorem BareKey.isBareChar_of_mem (key : BareKey) : ∀ c ∈ key.chars, isBareChar c :=
  List.all_eq_true.mp key.bare

theorem BareKey.exists_cons (key : BareKey) :
    ∃ c rest, key.chars = c :: rest ∧ isBareChar c := by
  obtain ⟨c, rest, hchars⟩ := List.exists_cons_of_ne_nil key.ne_nil
  exact ⟨c, rest, hchars, key.isBareChar_of_mem c (by simp [hchars])⟩

private theorem BareKey.isFlush (key : BareKey) (behind : List Char) :
    IsFlush (key.chars ++ behind) := by
  obtain ⟨c, rest, hchars, hc⟩ := key.exists_cons
  intro d hd
  rw [hchars, List.cons_append, List.head?_cons] at hd
  cases hd
  exact isBlank_of_isBareChar hc

private theorem Assignment.isFlush (assignment : Assignment) (behind : List Char) :
    IsFlush (assignment.chars ++ behind) := by
  rw [Assignment.chars, List.append_assoc]
  exact assignment.key.isFlush _

private theorem Group.isFlush (group : Group) (behind : List Char) :
    IsFlush (group.chars ++ behind) := by
  intro c hc
  cases hc
  rfl

structure LeadsTo (path : KeyPath) (key : BareKey) : Prop where
  tables : path.tables = []
  text : path.key.text = String.ofList key.chars

theorem simpleKey_append (key : BareKey) {c : Char} (hc : isBareChar c = false)
    (rest : List Char) : simpleKey (key.chars ++ c :: rest) = .done key.chars (c :: rest) := by
  have hcount : count isBareChar 1 none (key.chars ++ c :: rest) = .done key.chars (c :: rest) := by
    have htaken := Text.takeWhile_append_cons key.isBareChar_of_mem hc rest
    have hfilled : ¬ key.chars.length < 1 := by
      have := List.length_pos_iff.mpr key.ne_nil
      omega
    simp [count, htaken, hfilled]
  rw [← hcount]
  obtain ⟨d, chars, hchars, hd⟩ := key.exists_cons
  rw [hchars]
  unfold simpleKey
  split
  · rename_i heq
    cases heq
  · rename_i heq
    cases heq
    exact absurd hd (by decide)
  · rename_i heq
    cases heq
    exact absurd hd (by decide)
  · rfl

theorem keyPath_append (key : BareKey) {c d : Char} {rest behind : List Char}
    (hc : isBareChar c = false) (hbehind : (c :: rest).dropWhile isBlank = d :: behind)
    (hd : d ≠ '.') :
    ∃ path, LeadsTo path key ∧ keyPath (key.chars ++ c :: rest) = .done path (d :: behind) := by
  let span : Span := ⟨(key.chars ++ c :: rest).length, (c :: rest).length⟩
  have hblanks : blanks (c :: rest) = .done () (d :: behind) :=
    congrArg (Outcome.done ()) hbehind
  have hspaced : spacedKey (key.chars ++ c :: rest) =
      .done ⟨String.ofList key.chars, span⟩ (d :: behind) := by
    refine bind_eq_done_iff.mpr ⟨(), _, (key.isFlush _).blanks_eq, ?_⟩
    refine bind_eq_done_iff.mpr ⟨(key.chars, span), c :: rest, ?_, ?_⟩
    · exact spanned_eq_done_iff.mpr ⟨simpleKey_append key hc rest, rfl⟩
    · exact bind_eq_done_iff.mpr ⟨(), _, hblanks, rfl⟩
  have hsingle : (do let _ ← symbol '.'; spacedKey : Reader Key).Misses (d :: behind) :=
    (misses_satisfying (by simpa using hd)).bind _
  have hseparated : spacedKey.separated '.' (key.chars ++ c :: rest) =
      .done [⟨String.ofList key.chars, span⟩] (d :: behind) :=
    bind_eq_done_iff.mpr ⟨_, _, hspaced, bind_eq_done_iff.mpr ⟨_, _, hsingle.many_eq, rfl⟩⟩
  refine ⟨⟨[], ⟨String.ofList key.chars, span⟩⟩, ⟨rfl, rfl⟩, ?_⟩
  exact refine_eq_done_iff.mpr ⟨_, about_eq_done_iff.mpr hseparated, rfl⟩

theorem IsWrittenAs.exists_cons {text : List Char} {value : Value} (h : IsWrittenAs text value) :
    ∃ c rest, text = c :: rest ∧ isBlank c = false ∧ c ≠ '[' ∧ c ≠ '{' := by
  have hmissed {c : Char} (hc : c ∈ ['\n', ' ', '\t', '[', '{']) (rest : List Char) :
      scalar.Misses (c :: rest) := by
    simp only [List.mem_cons, List.not_mem_nil, or_false] at hc
    rcases hc with rfl | rfl | rfl | rfl | rfl <;> exact ⟨_, _, rfl⟩
  have hread {c : Char} {behind : List Char} {rest : List Char}
      (hscalar : scalar (c :: behind) = .done value ('\n' :: rest)) :
      c ∉ ['\n', ' ', '\t', '[', '{'] := by
    intro hc
    obtain ⟨flaw, rest', hmissed⟩ := hmissed hc behind
    rw [hscalar] at hmissed
    cases hmissed
  cases text with
  | nil => exact absurd List.mem_cons_self (hread (h []))
  | cons c rest =>
      have hc := hread (h [])
      simp only [List.mem_cons, List.not_mem_nil, or_false, not_or] at hc
      exact ⟨c, rest, rfl, by simp [isBlank, hc], hc.2.2.2.1, hc.2.2.2.2⟩

private theorem IsWrittenAs.isFlush {text : List Char} {value : Value} (h : IsWrittenAs text value)
    (behind : List Char) : IsFlush (text ++ behind) := by
  obtain ⟨c, rest, rfl, hblank, _⟩ := h.exists_cons
  intro d hd
  cases hd
  exact hblank

theorem IsWrittenAs.value_append {text : List Char} {value : Value} (h : IsWrittenAs text value)
    (depth : Nat) (rest : List Char) :
    ∃ span, Toml.value depth (text ++ '\n' :: rest) = .done ⟨value, span⟩ ('\n' :: rest) := by
  have hread (nested : Option (Reader (Placed Value))) :
      ∃ span, valueWith nested (text ++ '\n' :: rest) = .done ⟨value, span⟩ ('\n' :: rest) := by
    have hscalar := h rest
    obtain ⟨c, behind, rfl, _, hbracket, hbrace⟩ := h.exists_cons
    refine ⟨_, bind_eq_done_iff.mpr ⟨(value, _), _, spanned_eq_done_iff.mpr ⟨?_, rfl⟩, rfl⟩⟩
    dsimp only
    split
    · rename_i heq
      cases heq
      exact absurd rfl hbracket
    · rename_i heq
      cases heq
      exact absurd rfl hbrace
    · exact hscalar
  cases depth with
  | zero => exact hread none
  | succ depth => exact hread (some (Toml.value depth))

namespace Table

theorem find?_eq_none {table : Table} {key : Key} (h : key.text ∉ table.entries.map (·.1.text)) :
    table.find? key = none := by
  rw [find?, Option.map_eq_none_iff, List.find?_eq_none]
  intro entry hentry heq
  exact h (List.mem_map.mpr ⟨entry, hentry, of_decide_eq_true heq⟩)

private theorem put_of_not_mem {table : Table} {key : Key}
    (h : key.text ∉ table.entries.map (·.1.text)) (value : Placed Value) :
    table.put key value = { table with entries := table.entries ++ [(key, value)] } := by
  simp [put, find?_eq_none h]

end Table

/-- Each entry has the name of its item, and the value that shows it. -/
def Enters (name : α → BareKey) (shows : α → Value → Prop) (items : List α)
    (entries : List (Key × Placed Value)) : Prop :=
  List.Forall₂ (fun item entry =>
    entry.1.text = String.ofList (name item).chars ∧ shows item entry.2.value) items entries

section Entries

variable {name : α → BareKey} {shows : α → Value → Prop} {items : List α} {item : α}
  {entries : List (Key × Placed Value)} {key : Key} {value : Placed Value}

private theorem Enters.not_mem (h : Enters name shows items entries) {fresh : BareKey}
    (hfresh : ∀ item ∈ items, (name item).chars ≠ fresh.chars)
    (hkey : key.text = String.ofList fresh.chars) : key.text ∉ entries.map (·.1.text) := by
  rw [hkey]
  induction h with
  | nil => simp
  | cons hentry _ ih =>
      obtain ⟨hitem, hitems⟩ := List.forall_mem_cons.mp hfresh
      rw [List.map_cons, List.mem_cons, not_or, hentry.1, String.ofList_inj]
      exact ⟨hitem.symm, ih hitems⟩

private theorem Enters.concat (h : Enters name shows items entries)
    (hkey : key.text = String.ofList (name item).chars) (hvalue : shows item value.value) :
    Enters name shows (items ++ [item]) (entries ++ [(key, value)]) :=
  List.rel_append h (.cons ⟨hkey, hvalue⟩ .nil)

end Entries

def Assignment.IsShownBy (assignment : Assignment) (value : Value) : Prop :=
  value = assignment.value

def Group.IsShownBy (group : Group) (value : Value) : Prop :=
  ∃ entries, value = .table .header entries ∧
    Enters Assignment.key Assignment.IsShownBy group.assignments entries

/-! A table is filled by the lines behind its header, and complete once it is closed. -/

namespace Assembly

/-- The tables that are complete are those of the groups. -/
def Closes (assembly : Assembly) (groups : List Group) : Prop :=
  ∃ root, assembly.close = .ok root ∧ Enters Group.name Group.IsShownBy groups root.entries

/-- The table of a name is being filled, and has the entries of some assignments so far. -/
structure IsFilling (assembly : Assembly) (groups : List Group) (name : BareKey)
    (assignments : List Assignment) : Prop where
  header : ∃ path, LeadsTo path name ∧ assembly.header = some ⟨path, false⟩
  fresh : ∀ group ∈ groups, group.name.chars ≠ name.chars
  root : Enters Group.name Group.IsShownBy groups assembly.root.entries
  origin : assembly.current.origin = .header
  current : Enters Assignment.key Assignment.IsShownBy assignments assembly.current.entries

variable {assembly : Assembly} {groups : List Group} {name : BareKey}

theorem closes_empty : empty.Closes [] :=
  ⟨_, rfl, .nil⟩

private theorem IsFilling.closes {group : Group}
    (h : assembly.IsFilling groups group.name group.assignments) :
    assembly.Closes (groups ++ [group]) := by
  obtain ⟨⟨path, hpath, hheader⟩, hfresh, hroot, horigin, hcurrent⟩ := h
  have habsent := hroot.not_mem hfresh hpath.text
  refine ⟨assembly.root.put path.key assembly.current.placed, ?_, ?_⟩
  · simp only [close, hheader, hpath.tables, Table.alter]
    rfl
  · rw [Table.put_of_not_mem habsent]
    refine hroot.concat hpath.text ⟨assembly.current.entries, ?_, hcurrent⟩
    rw [Table.placed, horigin]

private theorem Closes.exists_openTable (h : assembly.Closes groups)
    (hfresh : ∀ group ∈ groups, group.name.chars ≠ name.chars) {path : KeyPath}
    (hpath : LeadsTo path name) (span : Span) :
    ∃ next, assembly.openTable path span = .ok next ∧ next.IsFilling groups name [] := by
  obtain ⟨closed, hclosed, hentries⟩ := h
  have habsent := hentries.not_mem hfresh hpath.text
  refine ⟨⟨closed, some ⟨path, false⟩, ⟨.header, [], some span⟩⟩, ?_, ?_⟩
  · refine Except.bind_eq_ok_iff.mpr ⟨closed, hclosed, ?_⟩
    refine Except.bind_eq_ok_iff.mpr ⟨([], closed), ?_, rfl⟩
    simp only [hpath.tables, Table.alter, Table.find?_eq_none habsent]
  · exact ⟨⟨path, hpath, rfl⟩, hfresh, hentries, rfl, .nil⟩

private theorem IsFilling.exists_add {assignments : List Assignment} {assignment : Assignment}
    (h : assembly.IsFilling groups name assignments)
    (hfresh : ∀ other ∈ assignments, other.key.chars ≠ assignment.key.chars) {path : KeyPath}
    (hpath : LeadsTo path assignment.key) (span : Option Span) :
    ∃ next, assembly.add path ⟨assignment.value, span⟩ = .ok next ∧
      next.IsFilling groups name (assignments ++ [assignment]) := by
  have habsent := h.current.not_mem hfresh hpath.text
  have hstep : assembly.current.isStep = false := by
    simp [Table.isStep, h.origin]
  have hadded : assembly.current.add .keyStep path (some assembly.headerPath)
      ⟨assignment.value, span⟩ =
        .ok (assembly.current.put path.key ⟨assignment.value, span⟩) := by
    simp only [Table.add, hpath.tables, Table.alter, hstep, Table.find?_eq_none habsent]
    rfl
  refine ⟨_, by rw [add, hadded]; rfl, ?_⟩
  rw [Table.put_of_not_mem habsent]
  exact ⟨h.header, h.fresh, h.root, h.origin, h.current.concat hpath.text rfl⟩

end Assembly

variable {assembly : Assembly} {groups : List Group} {name : BareKey}

private theorem line_newline (rest : List Char) :
    line assembly ('\n' :: rest) = .done assembly rest := rfl

theorem headerLine_append (name : BareKey) (rest : List Char) :
    ∃ path span, LeadsTo path name ∧
      headerLine ['['] [']'] ('[' :: (name.chars ++ ']' :: '\n' :: rest)) =
        .done (path, span) rest := by
  have hbehind : (']' :: '\n' :: rest).dropWhile isBlank = ']' :: '\n' :: rest := rfl
  obtain ⟨path, hpath, hread⟩ := keyPath_append name (by decide) hbehind (by decide)
  let span : Span := ⟨('[' :: (name.chars ++ ']' :: '\n' :: rest)).length, ('\n' :: rest).length⟩
  refine ⟨path, span, hpath, bind_eq_done_iff.mpr ⟨(path, span), '\n' :: rest, ?_, ?_⟩⟩
  · refine spanned_eq_done_iff.mpr ⟨?_, rfl⟩
    refine bind_eq_done_iff.mpr ⟨(), name.chars ++ ']' :: '\n' :: rest, rfl, ?_⟩
    refine bind_eq_done_iff.mpr ⟨path, ']' :: '\n' :: rest, required_eq_done_iff.mpr hread, ?_⟩
    exact bind_eq_done_iff.mpr ⟨(), '\n' :: rest, rfl, rfl⟩
  · exact bind_eq_done_iff.mpr ⟨(), rest, rfl, rfl⟩

private theorem Assembly.Closes.exists_line (h : assembly.Closes groups)
    (hfresh : ∀ group ∈ groups, group.name.chars ≠ name.chars) (rest : List Char) :
    ∃ next, line assembly ('[' :: (name.chars ++ ']' :: '\n' :: rest)) = .done next rest ∧
      next.IsFilling groups name [] := by
  obtain ⟨path, span, hpath, hheader⟩ := headerLine_append name rest
  obtain ⟨next, hnext, hfilling⟩ := h.exists_openTable hfresh hpath span
  have htable : tableLine assembly ('[' :: (name.chars ++ ']' :: '\n' :: rest)) =
      .done next rest :=
    refine_eq_done_iff.mpr ⟨_, hheader, congrArg obstructed hnext⟩
  refine ⟨next, ?_, hfilling⟩
  refine required_eq_done_iff.mpr (about_eq_done_iff.mpr ?_)
  -- A second bracket, or none to follow, would make it another kind of header.
  obtain ⟨c, chars, hchars, hc⟩ := name.exists_cons
  rw [hchars] at htable ⊢
  split
  · rename_i heq
    cases heq
    exact absurd hc (by decide)
  · rename_i heq
    cases heq
  · exact htable

theorem Assignment.pair_append (assignment : Assignment) (rest : List Char) :
    ∃ path span, LeadsTo path assignment.key ∧
      pair (Toml.value (depthLimit - 1)) (expecting lineTailExpected lineTail)
        (assignment.chars ++ rest) = .done (path, ⟨assignment.value, span⟩) rest := by
  have htext : assignment.chars ++ rest =
      assignment.key.chars ++ ' ' :: '=' :: ' ' :: (assignment.text ++ '\n' :: rest) := by
    simp [Assignment.chars]
  have hbehind : (' ' :: '=' :: ' ' :: (assignment.text ++ '\n' :: rest)).dropWhile isBlank =
      '=' :: ' ' :: (assignment.text ++ '\n' :: rest) := rfl
  obtain ⟨path, hpath, hkey⟩ := keyPath_append assignment.key (by decide) hbehind (by decide)
  obtain ⟨span, hvalue⟩ := assignment.written.value_append (depthLimit - 1) rest
  have hblanks : blanks (' ' :: (assignment.text ++ '\n' :: rest)) =
      .done () (assignment.text ++ '\n' :: rest) :=
    (assignment.written.isFlush ('\n' :: rest)).blanks_eq
  refine ⟨path, span, hpath, ?_⟩
  rw [htext]
  refine bind_eq_done_iff.mpr ⟨path, _, hkey, required_eq_done_iff.mpr ?_⟩
  refine bind_eq_done_iff.mpr ⟨'=', ' ' :: (assignment.text ++ '\n' :: rest), rfl, ?_⟩
  refine bind_eq_done_iff.mpr ⟨(), _, hblanks, ?_⟩
  refine bind_eq_done_iff.mpr ⟨_, _, hvalue, ?_⟩
  exact bind_eq_done_iff.mpr ⟨(), rest, rfl, rfl⟩

private theorem line_of_isBareChar {c : Char} (h : isBareChar c) (rest : List Char) :
    line assembly (c :: rest) = required (keyLine assembly) (c :: rest) := by
  have hcomment : c ≠ '#' := Text.ne_of_class h (by decide)
  have hbracket : c ≠ '[' := Text.ne_of_class h (by decide)
  have hfeed : c ≠ '\n' := Text.ne_of_class h (by decide)
  have hreturn : c ≠ '\r' := Text.ne_of_class h (by decide)
  simp only [line, hcomment, hbracket, hfeed, hreturn, or_self, if_false]

private theorem Assembly.IsFilling.exists_line {assignments : List Assignment}
    {assignment : Assignment} (h : assembly.IsFilling groups name assignments)
    (hfresh : ∀ other ∈ assignments, other.key.chars ≠ assignment.key.chars)
    (rest : List Char) :
    ∃ next, line assembly (assignment.chars ++ rest) = .done next rest ∧
      next.IsFilling groups name (assignments ++ [assignment]) := by
  obtain ⟨path, span, hpath, hpair⟩ := assignment.pair_append rest
  obtain ⟨next, hnext, hfilling⟩ := h.exists_add hfresh hpath span
  have hline : keyLine assembly (assignment.chars ++ rest) = .done next rest :=
    refine_eq_done_iff.mpr ⟨_, hpair, congrArg obstructed hnext⟩
  refine ⟨next, ?_, hfilling⟩
  obtain ⟨c, chars, hchars, hc⟩ := assignment.key.exists_cons
  rw [Assignment.chars, hchars, List.cons_append, List.cons_append] at hline ⊢
  rw [line_of_isBareChar hc]
  exact required_eq_done_iff.mpr hline

/-- The rest of the lines completes the groups. -/
def Completes (assembly : Assembly) (text : List Char) (groups : List Group) : Prop :=
  ∀ fuel, text.length < fuel →
    ∃ final, lines fuel assembly text = .ok final ∧ final.Closes groups

private theorem Completes.step {next : Assembly} {text rest : List Char}
    (h : Completes next rest groups) (hline : line assembly text = .done next rest)
    (hshorter : rest.length < text.length) (hrest : IsFlush rest) :
    Completes assembly text groups := by
  intro fuel hfuel
  obtain ⟨fuel, rfl⟩ : ∃ further, fuel = further + 1 := ⟨fuel - 1, by omega⟩
  have htext : text ≠ [] := by
    rintro rfl
    exact absurd hshorter (Nat.not_lt_zero _)
  obtain ⟨final, hfinal, hcloses⟩ := h fuel (by omega)
  refine ⟨final, ?_, hcloses⟩
  rw [lines, if_neg htext, hline, ← hfinal]
  exact congrArg _ hrest.dropWhile_eq

theorem completes_nil (h : assembly.Closes groups) : Completes assembly [] groups := by
  intro fuel hfuel
  obtain ⟨fuel, rfl⟩ : ∃ further, fuel = further + 1 := ⟨fuel - 1, by omega⟩
  exact ⟨assembly, if_pos rfl, h⟩

private theorem Assignment.length_pos (assignment : Assignment) : 0 < assignment.chars.length := by
  simp only [Assignment.chars, List.length_append, List.length_cons]
  omega

private theorem isFlush_assignments (assignments : List Assignment) {behind : List Char}
    (h : IsFlush behind) : IsFlush (assignments.flatMap Assignment.chars ++ behind) := by
  cases assignments with
  | nil => exact h
  | cons assignment rest =>
      rw [List.flatMap_cons, List.append_assoc]
      exact assignment.isFlush _

private theorem ne_of_nodup_map {f : α → β} {before rest : List α} {item : α}
    (h : ((before ++ item :: rest).map f).Nodup) : ∀ other ∈ before, f other ≠ f item := by
  intro other hother
  rw [List.map_append, List.nodup_append] at h
  exact h.2.2 _ (List.mem_map_of_mem hother) _ (by simp)

/-- One table is filled line by line; what stands behind it decides about the other tables. -/
theorem completes_assignments {before assignments : List Assignment} {whole : List Group}
    {behind : List Char} (h : assembly.IsFilling groups name before)
    (hdistinct : ((before ++ assignments).map (·.key.chars)).Nodup) (hflush : IsFlush behind)
    (hbehind : ∀ next : Assembly, next.IsFilling groups name (before ++ assignments) →
      Completes next behind whole) :
    Completes assembly (assignments.flatMap Assignment.chars ++ behind) whole := by
  induction assignments generalizing assembly before with
  | nil => exact hbehind assembly (by rwa [List.append_nil])
  | cons assignment rest ih =>
      obtain ⟨next, hline, hnext⟩ :=
        h.exists_line (ne_of_nodup_map hdistinct) (rest.flatMap Assignment.chars ++ behind)
      rw [List.flatMap_cons, List.append_assoc]
      have hrest : Completes next (rest.flatMap Assignment.chars ++ behind) whole :=
        ih hnext (by simpa using hdistinct) (by simpa using hbehind)
      refine hrest.step hline ?_ (isFlush_assignments rest hflush)
      have := assignment.length_pos
      simp only [List.length_append]
      omega

private theorem completes_group {group : Group} {whole : List Group} {behind : List Char}
    (h : assembly.Closes groups) (hfresh : ∀ other ∈ groups, other.name.chars ≠ group.name.chars)
    (hflush : IsFlush behind)
    (hbehind : ∀ next : Assembly, next.Closes (groups ++ [group]) → Completes next behind whole) :
    Completes assembly (group.chars ++ behind) whole := by
  obtain ⟨next, hline, hnext⟩ :=
    h.exists_line hfresh (group.assignments.flatMap Assignment.chars ++ behind)
  have htext : group.chars ++ behind = '[' :: (group.name.chars ++ ']' :: '\n' ::
      (group.assignments.flatMap Assignment.chars ++ behind)) := by
    simp [Group.chars]
  rw [htext]
  have hrest : Completes next (group.assignments.flatMap Assignment.chars ++ behind) whole :=
    completes_assignments hnext (by simpa using group.distinct) hflush
      fun final hfinal => hbehind final hfinal.closes
  refine hrest.step hline ?_ (isFlush_assignments _ hflush)
  simp only [List.length_append, List.length_cons]
  omega

theorem documentChars_cons_cons (group next : Group) (rest : List Group) :
    documentChars (group :: next :: rest) =
      group.chars ++ '\n' :: documentChars (next :: rest) := by
  simp [documentChars, List.intercalate_cons_cons]

theorem exists_documentChars_cons (group : Group) (rest : List Group) :
    ∃ behind, documentChars (group :: rest) = group.chars ++ behind := by
  cases rest with
  | nil => exact ⟨[], by simp [documentChars]⟩
  | cons next rest => exact ⟨_, documentChars_cons_cons group next rest⟩

/-- Each table is closed by the header of the next one, and the last by the end of the text. -/
theorem completes_document {before : List Group} (h : assembly.Closes before)
    (hdistinct : ((before ++ groups).map (·.name.chars)).Nodup) :
    Completes assembly (documentChars groups) (before ++ groups) := by
  induction groups generalizing assembly before with
  | nil =>
      rw [List.append_nil]
      exact completes_nil h
  | cons group rest ih =>
      have hfresh := ne_of_nodup_map hdistinct
      cases rest with
      | nil =>
          have htext : documentChars [group] = group.chars ++ [] := by
            simp [documentChars]
          rw [htext]
          exact completes_group h hfresh (by simp [IsFlush]) fun next hnext => completes_nil hnext
      | cons following rest =>
          rw [documentChars_cons_cons]
          refine completes_group h hfresh (fun c hc => by cases hc; rfl) fun next hnext => ?_
          have hrest := ih hnext (by simpa using hdistinct)
          rw [List.append_assoc, List.singleton_append] at hrest
          obtain ⟨behind, htext⟩ := exists_documentChars_cons following rest
          refine hrest.step (line_newline _) (by simp) ?_
          rw [htext]
          exact following.isFlush behind

/-- A text of tables with distinct names is read as these tables. -/
theorem Table.exists_ofText {groups : List Group}
    (hdistinct : (groups.map (·.name.chars)).Nodup) :
    ∃ root, Table.ofText (documentChars groups) = .ok root ∧
      Enters Group.name Group.IsShownBy groups root.entries := by
  have hstart : (dropMark (documentChars groups)).dropWhile isBlank = documentChars groups := by
    cases groups with
    | nil => rfl
    | cons group rest =>
        obtain ⟨behind, htext⟩ := exists_documentChars_cons group rest
        rw [htext]
        exact (group.isFlush behind).dropWhile_eq
  have hcompletes : Completes .empty (documentChars groups) ([] ++ groups) :=
    completes_document Assembly.closes_empty (by simpa using hdistinct)
  obtain ⟨final, hfinal, root, hroot, hentries⟩ := hcompletes _ (Nat.lt_succ_self _)
  refine ⟨root, Except.bind_eq_ok_iff.mpr ⟨final, ?_, ?_⟩, hentries⟩
  · rw [hstart]
    exact hfinal
  · rw [hroot]
    rfl

end CitationFile.Toml
