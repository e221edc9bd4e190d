import CitationFile.Proofs.Result
import CitationFile.Toml.Document

/-! Integers have 64 bits. A reader of integers refuses all others, and whatever a text does with
its keys, headers, arrays and braces, the table that is read off it holds none but integers so read.
-/

namespace CitationFile.Toml

namespace Reader

/-- Every value that is read has a property. -/
def Yields (reader : Reader α) (property : α → Prop) : Prop :=
  ∀ text value rest, reader text = .done value rest → property value

variable {reader other : Reader α} {P : α → Prop} {Q : β → Prop}

private theorem Yields.any (reader : Reader α) : reader.Yields fun _ => True :=
  fun _ _ _ _ => trivial

private theorem yields_pure {value : α} (h : P value) : (pure value : Reader α).Yields P := by
  intro text read rest hread
  cases hread
  exact h

private theorem yields_failed {flaw : Flaw} : Yields (fun text => .failed flaw text) P := by
  intro text read rest hread
  cases hread

private theorem Yields.bind {next : α → Reader β} (h : reader.Yields P)
    (hnext : ∀ value, P value → (next value).Yields Q) : (reader >>= next).Yields Q := by
  intro text value rest hread
  obtain ⟨first, behind, hfirst, hvalue⟩ := bind_eq_done_iff.mp hread
  exact hnext first (h text first behind hfirst) behind value rest hvalue

private theorem yields_bind {next : α → Reader β} (hnext : ∀ value, (next value).Yields Q) :
    (reader >>= next).Yields Q :=
  (Yields.any reader).bind fun value _ => hnext value

private theorem Yields.ite {condition : Prop} [Decidable condition] (h : reader.Yields P)
    (hother : other.Yields P) : (if condition then reader else other).Yields P := by
  split
  · exact h
  · exact hother

private theorem Yields.orElse (h : reader.Yields P) (hother : other.Yields P) :
    (reader.orElse other).Yields P := by
  intro text value rest hread
  unfold Reader.orElse at hread
  split at hread
  · exact hother text value rest hread
  · exact h text value rest hread

private theorem Yields.maybe (h : reader.Yields P) :
    reader.maybe.Yields fun read => ∀ value ∈ read, P value := by
  intro text read rest hread value hvalue
  obtain ⟨first, hfirst, rfl⟩ | ⟨_, _, _, rfl, _⟩ := maybe_eq_done_iff.mp hread
  · cases hvalue
    exact h text value rest hfirst
  · cases hvalue

private theorem Yields.required (h : reader.Yields P) : reader.required.Yields P :=
  fun text value rest hread => h text value rest (required_eq_done_iff.mp hread)

private theorem Yields.spanned (h : reader.Yields P) : reader.spanned.Yields fun read => P read.1 :=
  fun text read rest hread => h text read.1 rest (spanned_eq_done_iff.mp hread).1

private theorem Yields.about (h : reader.Yields P) (subject : Subject) :
    (about subject reader).Yields P :=
  fun text value rest hread => h text value rest (about_eq_done_iff.mp hread)

private theorem Yields.expecting (h : reader.Yields P) (expectations : List Expectation) :
    (expecting expectations reader).Yields P :=
  fun text value rest hread => h text value rest (expecting_eq_done_iff.mp hread)

private theorem Yields.refine {accept : α → Except Flaw β} (h : reader.Yields P)
    (haccept : ∀ value accepted, P value → accept value = .ok accepted → Q accepted) :
    (reader.refine accept).Yields Q := by
  intro text accepted rest hread
  obtain ⟨value, hvalue, haccepted⟩ := refine_eq_done_iff.mp hread
  exact haccept value accepted (h text value rest hvalue) haccepted

private theorem Yields.settle {accept : α → Except Flaw β} (h : reader.Yields P)
    (haccept : ∀ value accepted, P value → accept value = .ok accepted → Q accepted) :
    (reader.settle accept).Yields Q := by
  intro text accepted rest hread
  obtain ⟨value, hvalue, haccepted⟩ := settle_eq_done_iff.mp hread
  exact haccept value accepted (h text value rest hvalue) haccepted

private theorem Yields.atMost (h : reader.Yields P) (fuel : Nat) :
    (reader.atMost fuel).Yields fun items => ∀ item ∈ items, P item := by
  induction fuel with
  | zero => exact yields_pure (by simp)
  | succ fuel ih =>
      intro text items rest hread
      unfold Reader.atMost at hread
      cases hfirst : reader text with
      | done first behind =>
          simp only [hfirst] at hread
          cases hmore : reader.atMost fuel behind with
          | done more _ =>
              rw [hmore] at hread
              cases hread
              exact List.forall_mem_cons.mpr ⟨h _ _ _ hfirst, ih _ _ _ hmore⟩
          | missed _ _ =>
              rw [hmore] at hread
              cases hread
          | failed _ _ =>
              rw [hmore] at hread
              cases hread
      | missed _ _ =>
          simp only [hfirst] at hread
          cases hread
          simp
      | failed _ _ =>
          simp only [hfirst] at hread
          cases hread

private theorem Yields.many (h : reader.Yields P) :
    reader.many.Yields fun items => ∀ item ∈ items, P item :=
  fun text items rest hread => h.atMost text.length text items rest hread

private theorem Yields.separated (h : reader.Yields P) (separator : Char) :
    (reader.separated separator).Yields fun items => ∀ item ∈ items, P item :=
  h.bind fun _ hfirst => (yields_bind fun _ => h).many.bind fun _ hfurther =>
    yields_pure (List.forall_mem_cons.mpr ⟨hfirst, hfurther⟩)

end Reader

open Reader

/-! An integer in whatever base is refused by one check of its bounds. -/

/-- One of the numbers that 64 bits have room for. -/
def IsStorable (value : Int) : Prop :=
  leastInteger ≤ value ∧ value ≤ greatestInteger

theorem boundInteger_eq_ok_iff {value accepted : Int} :
    boundInteger value = .ok accepted ↔ IsStorable value ∧ accepted = value := by
  unfold boundInteger IsStorable
  split
  · grind
  · split <;> grind

private theorem isStorable_of_boundInteger {value accepted : Int}
    (h : boundInteger value = .ok accepted) :
    IsStorable accepted := by
  obtain ⟨hstorable, rfl⟩ := boundInteger_eq_ok_iff.mp h
  exact hstorable

private theorem integer_yields : integer.Yields IsStorable := by
  have hbased (mark : Char) (base : Nat) (subject : Subject) :
      (basedInteger mark base subject).Yields IsStorable :=
    ((Yields.any _).refine fun _ _ _ => isStorable_of_boundInteger).required
  have hdecimal : decimalInteger.Yields IsStorable :=
    (Yields.any _).settle fun _ _ _ => isStorable_of_boundInteger
  intro text value rest hread
  unfold integer at hread
  split at hread
  · exact hbased _ _ _ _ _ _ hread
  · exact hbased _ _ _ _ _ _ hread
  · exact hbased _ _ _ _ _ _ hread
  · exact hdecimal _ _ _ hread

/-- All integers in a value are storable. -/
inductive Value.IsRanged : Value → Prop
  | string (text : String) : IsRanged (.string text)
  | integer {value : Int} (h : IsStorable value) : IsRanged (.integer value)
  | float (value : Decimal.Binary64) : IsRanged (.float value)
  | boolean (value : Bool) : IsRanged (.boolean value)
  | moment : IsRanged .moment
  | array {items : List (Placed Value)} (h : ∀ item ∈ items, IsRanged item.value) :
      IsRanged (.array items)
  | table (origin : Origin) {entries : List (Key × Placed Value)}
      (h : ∀ entry ∈ entries, IsRanged entry.2.value) : IsRanged (.table origin entries)
  | tables {items : List (Placed Value)} (h : ∀ item ∈ items, IsRanged item.value) :
      IsRanged (.tables items)

private theorem numberOrMoment_yields : numberOrMoment.Yields Value.IsRanged :=
  (yields_bind fun _ => yields_pure .moment).orElse <|
    (yields_bind fun value => yields_pure (.float value)).orElse
      (integer_yields.bind fun _ hvalue => yields_pure (.integer hvalue))

private theorem word_yields {text : List Char} {value : Value} (h : value.IsRanged) :
    (word text value).Yields Value.IsRanged :=
  yields_bind fun _ => yields_pure h

private theorem unquoted_yields {reader : Reader Value} (h : reader.Yields Value.IsRanged) :
    (unquoted reader).Yields Value.IsRanged :=
  (h.about .string).expecting _

private theorem scalar_yields : scalar.Yields Value.IsRanged := by
  intro text value rest hread
  unfold scalar at hread
  split at hread
  · cases hread
  · dsimp only at hread
    refine Yields.ite ?_ (.ite ?_ (.ite ?_ (.ite ?_ (.ite ?_ (.ite ?_ (.ite ?_ ?_)))))) _ _ _ hread
    · exact yields_bind fun text => yields_pure (.string _)
    · exact numberOrMoment_yields
    · exact (integer_yields.expecting _).bind fun _ hvalue => yields_pure (.integer hvalue)
    · exact yields_bind fun value => yields_pure (.float value)
    · exact unquoted_yields (word_yields (.boolean true)).required
    · exact unquoted_yields (word_yields (.boolean false)).required
    · exact unquoted_yields (word_yields (.float _))
    · exact unquoted_yields (word_yields (.float _))

namespace Table

def IsRanged (table : Table) : Prop :=
  ∀ entry ∈ table.entries, entry.2.value.IsRanged

variable {table : Table}

theorem isRanged_placed_iff : table.placed.value.IsRanged ↔ table.IsRanged :=
  ⟨fun | .table _ h => h, .table _⟩

theorem isRanged_empty (origin : Origin) (span : Option Span) : IsRanged ⟨origin, [], span⟩ :=
  fun _ hentry => absurd hentry List.not_mem_nil

private theorem IsRanged.find? (h : table.IsRanged) {key : Key} {found : Placed Value}
    (hfound : table.find? key = some found) : found.value.IsRanged := by
  obtain ⟨entry, hentry, rfl⟩ := Option.map_eq_some_iff.mp hfound
  exact h entry (List.mem_of_find?_eq_some hentry)

private theorem IsRanged.remove (h : table.IsRanged) (key : Key) : (table.remove key).IsRanged :=
  fun entry hentry => h entry (List.mem_filter.mp hentry).1

private theorem IsRanged.put (h : table.IsRanged) (key : Key) {value : Placed Value}
    (hvalue : value.value.IsRanged) : (table.put key value).IsRanged := by
  intro entry hentry
  simp only [Table.put] at hentry
  split at hentry
  · obtain ⟨before, hbefore, rfl⟩ := List.mem_map.mp hentry
    split
    · exact hvalue
    · exact h before hbefore
  · exact List.forall_mem_append.mpr ⟨h, List.forall_mem_singleton.mpr hvalue⟩ entry hentry

/-- A change leaves all integers of a table storable, and its result has a property. -/
def Keeps (change : Table → Except Obstacle (α × Table)) (property : α → Prop) : Prop :=
  ∀ table result changed, table.IsRanged → change table = .ok (result, changed) →
    property result ∧ changed.IsRanged

variable {change : Table → Except Obstacle (α × Table)} {P : α → Prop}

/-- The induction is on the path; each step puts a table back where it was found. -/
theorem Keeps.alter (h : Keeps change P) (step : Origin) (passed : List String) (path : List Key) :
    Keeps (alter step change passed path) P := by
  induction path generalizing passed with
  | nil => exact h
  | cons key rest ih =>
      intro table result changed htable haltered
      unfold Table.alter at haltered
      dsimp only at haltered
      split at haltered
      · obtain ⟨⟨read, inner⟩, hinner, hresult⟩ := Except.bind_eq_ok_iff.mp haltered
        cases hresult
        obtain ⟨hread, hranged⟩ := ih _ _ _ _ (isRanged_empty step none) hinner
        exact ⟨hread, htable.put key (isRanged_placed_iff.mpr hranged)⟩
      · rename_i origin entries span hfound
        obtain ⟨_, _, haltered⟩ := Except.bind_eq_ok_iff.mp haltered
        obtain ⟨⟨read, inner⟩, hinner, hresult⟩ := Except.bind_eq_ok_iff.mp haltered
        cases hresult
        have hentries := (@isRanged_placed_iff ⟨origin, entries, span⟩).mp (htable.find? hfound)
        obtain ⟨hread, hranged⟩ := ih _ _ _ _ hentries hinner
        exact ⟨hread, htable.put key (isRanged_placed_iff.mpr hranged)⟩
      · rename_i items span hfound
        have hitems : ∀ item ∈ items, item.value.IsRanged := by
          cases htable.find? hfound
          assumption
        split at haltered
        · rename_i origin entries innerSpan hlast
          obtain ⟨⟨read, inner⟩, hinner, hresult⟩ := Except.bind_eq_ok_iff.mp haltered
          cases hresult
          have hentries := (@isRanged_placed_iff ⟨origin, entries, innerSpan⟩).mp
            (hitems _ (List.mem_of_getLast? hlast))
          obtain ⟨hread, hranged⟩ := ih _ _ _ _ hentries hinner
          refine ⟨hread, htable.put key (.tables (List.forall_mem_append.mpr ⟨?_, ?_⟩))⟩
          · exact fun item hitem => hitems item (List.dropLast_subset items hitem)
          · exact List.forall_mem_singleton.mpr (isRanged_placed_iff.mpr hranged)
        · cases haltered
      · cases haltered

private theorem IsRanged.alter (h : table.IsRanged) {step : Origin} {passed : List String}
    {path : List Key} {result : α} {altered : Table}
    (haltered : alter step change passed path table = .ok (result, altered))
    (hchange : ∀ inner result changed, inner.IsRanged → change inner = .ok (result, changed) →
      changed.IsRanged) : altered.IsRanged := by
  have hkeeps : Keeps change fun _ => True := fun inner result changed hinner hchanged =>
    ⟨trivial, hchange inner result changed hinner hchanged⟩
  exact (hkeeps.alter step passed path table result altered h haltered).2

private theorem IsRanged.add (h : table.IsRanged) {step : Origin} {path : KeyPath}
    {told : Option (List String)} {value : Placed Value} {filled : Table}
    (hvalue : value.value.IsRanged) (hfilled : table.add step path told value = .ok filled) :
    filled.IsRanged := by
  obtain ⟨⟨_, altered⟩, haltered, hresult⟩ := Except.bind_eq_ok_iff.mp hfilled
  cases hresult
  refine h.alter haltered fun inner _ changed hinner hchanged => ?_
  split at hchanged
  · cases hchanged
  · split at hchanged
    · cases hchanged
    · cases hchanged
      exact hinner.put path.key hvalue

private theorem isRanged_ofPairs {pairs : List (KeyPath × Placed Value)} {table : Table}
    (hpairs : ∀ pair ∈ pairs, pair.2.value.IsRanged) (h : ofPairs pairs = .ok table) :
    table.IsRanged :=
  Except.of_foldlM_eq_ok (isRanged_empty .inline none)
    (fun _ hcurrent pair hpair _ hnext => hcurrent.add (hpairs pair hpair) hnext) h

end Table

/-! Arrays and tables hold what was read within them, so that the bounds carry over to any depth. -/

private theorem forall_mem_getD {items? : Option (List α)} {P : α → Prop}
    (h : ∀ items ∈ items?, ∀ item ∈ items, P item) : ∀ item ∈ items?.getD [], P item := by
  cases items? with
  | none => simp
  | some items => exact h items rfl

private theorem array_yields {item : Reader (Placed Value)}
    (h : item.Yields fun placed => placed.value.IsRanged) : (array item).Yields Value.IsRanged := by
  have hitem : (arrayItem item).Yields fun placed => placed.value.IsRanged :=
    yields_bind fun _ => h.bind fun _ hvalue => yields_bind fun _ => yields_pure hvalue
  have hitems : (arrayItems item).Yields fun items => ∀ item ∈ items, item.value.IsRanged := by
    intro text items rest hread
    unfold arrayItems at hread
    split at hread
    · cases hread
      simp
    · refine (Yields.bind (Q := fun items => ∀ item ∈ items, item.value.IsRanged)
        (hitem.separated ',').maybe fun read hlisted => ?_) _ _ _ hread
      have hending : Yields (do gap; return read.getD [])
          fun items => ∀ item ∈ items, item.value.IsRanged :=
        yields_bind fun _ => yields_pure (forall_mem_getD hlisted)
      exact .ite (yields_bind fun _ => hending) hending
  exact yields_bind fun _ => hitems.required.bind fun _ hitems =>
    yields_bind fun _ => yields_pure (.array hitems)

private theorem pair_yields {value : Reader (Placed Value)}
    (h : value.Yields fun placed => placed.value.IsRanged) (ending : Reader Unit) :
    (pair value ending).Yields fun read => read.2.value.IsRanged := by
  refine yields_bind fun path => Yields.required ?_
  refine yields_bind fun _ => yields_bind fun _ => h.bind fun placed hplaced => ?_
  exact yields_bind fun _ => yields_pure hplaced

private theorem inlineTable_yields {value : Reader (Placed Value)}
    (h : value.Yields fun placed => placed.value.IsRanged) :
    (inlineTable value).Yields Value.IsRanged := by
  have hpairs : (inlinePairs value).Yields fun pairs => ∀ pair ∈ pairs, pair.2.value.IsRanged :=
    ((pair_yields h blanks).separated ',').maybe.bind fun read hlisted =>
      yields_bind fun _ => yields_pure (forall_mem_getD hlisted)
  refine yields_bind fun _ => (hpairs.refine (Q := Table.IsRanged) ?_).required.bind
    fun table htable => yields_bind fun _ => yields_pure (Table.isRanged_placed_iff.mpr htable)
  intro pairs table hpairs htable
  exact Table.isRanged_ofPairs hpairs (Except.mapError_eq_ok_iff.mp htable)

private theorem valueWith_yields {nested : Option (Reader (Placed Value))}
    (h : ∀ item ∈ nested, item.Yields fun placed => placed.value.IsRanged) :
    (valueWith nested).Yields fun placed => placed.value.IsRanged := by
  have hcontainer {reader : Reader (Placed Value) → Reader Value}
      (hreader : ∀ item, (item.Yields fun placed => placed.value.IsRanged) →
        (reader item).Yields Value.IsRanged) :
      (container reader nested).Yields Value.IsRanged := by
    cases nested with
    | none => exact yields_failed
    | some item => exact hreader item (h item rfl)
  refine Yields.bind (P := fun read => read.1.IsRanged) (Yields.spanned ?_)
    fun (value, span) hvalue => yields_pure hvalue
  intro text value rest hread
  dsimp only at hread
  split at hread
  · exact hcontainer (fun _ => array_yields) _ _ _ hread
  · exact hcontainer (fun _ => inlineTable_yields) _ _ _ hread
  · exact scalar_yields _ _ _ hread

private theorem value_yields (depth : Nat) :
    (value depth).Yields fun placed => placed.value.IsRanged := by
  induction depth with
  | zero => exact valueWith_yields (by simp)
  | succ depth ih =>
      refine valueWith_yields fun item hitem => ?_
      cases hitem
      exact ih

theorem obstructed_eq_ok_iff {result : Except Obstacle α} {value : α} :
    obstructed result = .ok value ↔ result = .ok value :=
  Except.mapError_eq_ok_iff

namespace Assembly

structure IsRanged (assembly : Assembly) : Prop where
  root : assembly.root.IsRanged
  current : assembly.current.IsRanged

variable {assembly next : Assembly}

theorem isRanged_empty : empty.IsRanged where
  root := Table.isRanged_empty _ _
  current := Table.isRanged_empty _ _

private theorem IsRanged.close (h : assembly.IsRanged) {closed : Table}
    (hclosed : assembly.close = .ok closed) : closed.IsRanged := by
  unfold Assembly.close at hclosed
  split at hclosed
  · cases hclosed
    exact h.current
  · rename_i path repeated _
    obtain ⟨⟨_, altered⟩, haltered, hresult⟩ := Except.bind_eq_ok_iff.mp hclosed
    cases hresult
    refine h.root.alter haltered fun parent _ changed hparent hchanged => ?_
    dsimp only at hchanged
    have hcurrent := Table.isRanged_placed_iff.mpr h.current
    split at hchanged
    · cases hchanged
      refine hparent.put path.key (.tables (List.forall_mem_append.mpr ⟨?_, ?_⟩))
      · split
        · rename_i items _ hfound
          cases hparent.find? hfound
          assumption
        · simp
      · exact List.forall_mem_singleton.mpr hcurrent
    · cases hchanged
      exact hparent.put path.key hcurrent

private theorem IsRanged.openTable (h : assembly.IsRanged) {path : KeyPath} {span : Span}
    (hnext : assembly.openTable path span = .ok next) : next.IsRanged := by
  obtain ⟨closed, hclosed, hopened⟩ := Except.bind_eq_ok_iff.mp hnext
  obtain ⟨⟨entries, root⟩, haltered, hresult⟩ := Except.bind_eq_ok_iff.mp hopened
  cases hresult
  have hkept := Table.Keeps.alter
    (P := fun entries : List (Key × Placed Value) => ∀ entry ∈ entries, entry.2.value.IsRanged)
    ?_ .headerStep [] path.tables _ _ _ (h.close hclosed) haltered
  · exact ⟨hkept.2, hkept.1⟩
  · intro parent entries changed hparent hchanged
    dsimp only at hchanged
    split at hchanged
    · cases hchanged
      exact ⟨by simp, hparent⟩
    · rename_i hfound
      cases hchanged
      cases hparent.find? hfound
      rename_i hentries
      exact ⟨hentries, hparent.remove path.key⟩
    · cases hchanged

private theorem IsRanged.openRepeated (h : assembly.IsRanged) {path : KeyPath} {span : Span}
    (hnext : assembly.openRepeated path span = .ok next) : next.IsRanged := by
  obtain ⟨closed, hclosed, hopened⟩ := Except.bind_eq_ok_iff.mp hnext
  obtain ⟨⟨_, root⟩, haltered, hresult⟩ := Except.bind_eq_ok_iff.mp hopened
  cases hresult
  refine ⟨(h.close hclosed).alter haltered fun parent _ changed hparent hchanged => ?_,
    Table.isRanged_empty _ _⟩
  split at hchanged
  · cases hchanged
    exact hparent.put path.key (.tables (by simp))
  · cases hchanged
    exact hparent
  · cases hchanged

private theorem IsRanged.add (h : assembly.IsRanged) {path : KeyPath} {value : Placed Value}
    (hvalue : value.value.IsRanged) (hnext : assembly.add path value = .ok next) :
    next.IsRanged := by
  obtain ⟨filled, hfilled, hresult⟩ := Except.bind_eq_ok_iff.mp hnext
  cases hresult
  have hcurrent : filled.IsRanged := h.current.add hvalue hfilled
  exact ⟨h.root, hcurrent⟩

end Assembly

private theorem line_yields {assembly : Assembly} (h : assembly.IsRanged) :
    (line assembly).Yields Assembly.IsRanged := by
  have hkey : (keyLine assembly).Yields Assembly.IsRanged :=
    (pair_yields (value_yields _) _).refine fun _ _ hpair hnext =>
      h.add hpair (obstructed_eq_ok_iff.mp hnext)
  have htable : (tableLine assembly).Yields Assembly.IsRanged :=
    (Yields.any _).refine fun _ _ _ hnext => h.openTable (obstructed_eq_ok_iff.mp hnext)
  have hrepeated : (repeatedTableLine assembly).Yields Assembly.IsRanged :=
    (Yields.any _).refine fun _ _ _ hnext => h.openRepeated (obstructed_eq_ok_iff.mp hnext)
  have hheader : (anyTableLine assembly).Yields Assembly.IsRanged := by
    refine Yields.about (fun text next rest hread => ?_) .tableHeader
    split at hread
    · exact hrepeated _ _ _ hread
    · cases hread
    · exact htable _ _ _ hread
  have hunchanged (reader : Reader Unit) :
      (do reader; return assembly : Reader Assembly).Yields Assembly.IsRanged :=
    yields_bind fun _ => yields_pure h
  intro text next rest hread
  unfold line at hread
  split at hread
  · cases hread
  · split at hread
    · exact (hunchanged commentLine).required _ _ _ hread
    · split at hread
      · exact hheader.required _ _ _ hread
      · split at hread
        · exact hunchanged newline _ _ _ hread
        · exact hkey.required _ _ _ hread

private theorem Assembly.IsRanged.lines {fuel : Nat} {assembly final : Assembly} {text : List Char}
    (h : assembly.IsRanged) (hfinal : lines fuel assembly text = .ok final) : final.IsRanged := by
  induction fuel generalizing assembly text with
  | zero =>
      cases hfinal
      exact h
  | succ fuel ih =>
      unfold Toml.lines at hfinal
      split at hfinal
      · cases hfinal
        exact h
      · split at hfinal
        · rename_i hline
          exact ih (line_yields h _ _ _ hline) hfinal
        · cases hfinal
        · cases hfinal

theorem Table.isRanged_ofText {text : List Char} {table : Table}
    (h : ofText text = .ok table) : table.IsRanged := by
  obtain ⟨assembly, hassembly, hclosed⟩ := Except.bind_eq_ok_iff.mp h
  split at hclosed
  · rename_i root hroot
    cases hclosed
    exact (Assembly.isRanged_empty.lines hassembly).close hroot
  · cases hclosed

end CitationFile.Toml
