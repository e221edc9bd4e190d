import CitationFile.Proofs.Bibtex.Reader

/-! Reading a written entry back. Where a value ends is decided by its braces alone, so that nothing
in it is taken for a delimiter; what is escaped cannot miscount them, and what is not has to be
balanced. -/

namespace CitationFile.Bibtex

open Text

/-- An entry that a reader can make out: what its values say does not matter, but for the braces of
those that stand as they are. -/
structure Entry.IsReadable (entry : Entry) : Prop extends entry.HasPlainKeys where
  verbatim : ∀ field ∈ entry.fields, isVerbatim field.key.toList → Balanced field.value.toList

private theorem openAfter_eq {c : Char} {inside : Nat} (h : ¬ (c = '}' ∧ inside = 0)) :
    (openAfter c inside : Int) = inside + braceWeight c := by
  unfold openAfter braceWeight
  split
  · simp
  · split
    · rename_i hclose
      have hpos : inside ≠ 0 := fun hzero => h ⟨hclose, hzero⟩
      omega
    · simp

theorem closeGroup?_append {inside : Nat} {value : List Char} (hopen : StaysOpen inside value)
    (hclosed : inside + depth value = 0) (rest : List Char) :
    closeGroup? inside (value ++ '}' :: rest) = some (value, rest) := by
  -- The number of open groups is the depth so far, and changes from one character to the next.
  induction value generalizing inside with
  | nil =>
      rw [List.nil_append, closeGroup?, if_pos ⟨rfl, by simpa using hclosed⟩]
  | cons c more ih =>
      rw [staysOpen_cons] at hopen
      have hstays : ¬ (c = '}' ∧ inside = 0) := by
        rintro ⟨rfl, rfl⟩
        simpa using hopen.2.start_nonneg
      rw [depth_cons, ← Int.add_assoc] at hclosed
      rw [← openAfter_eq hstays] at hopen hclosed
      rw [List.cons_append, closeGroup?, if_neg hstays, ih hopen.2 hclosed, Option.map_some]

private theorem readValue?_delimited {value : List Char} (h : Balanced value) (rest : List Char) :
    readValue? (delimited value ++ ',' :: rest) = some (value, ',' :: rest) := by
  by_cases hnumber : value ≠ [] ∧ value.all Char.isDigit
  · have hrun := List.all_eq_true.mp hnumber.2
    obtain ⟨c, more, rfl⟩ := List.exists_cons_of_ne_nil hnumber.1
    have hdigit : c ≠ '{' := (isBraceFree_of_isDigit hnumber.2 c (by simp)).1
    rw [delimited, if_pos hnumber, readValue?, List.cons_append,
      dropOpening?_cons_of_ne hdigit.symm, ← List.cons_append]
    simp only [takeWhile_append_cons hrun (by decide : Char.isDigit ',' = false),
      dropWhile_append_cons hrun (by decide : Char.isDigit ',' = false), if_neg hnumber.1]
  · have hgroup : '{' :: value ++ ['}'] ++ ',' :: rest =
        ['{'] ++ (value ++ '}' :: ',' :: rest) := by
      simp
    rw [delimited, if_neg hnumber, readValue?, dropOpening?_eq_some_iff.mpr hgroup]
    exact closeGroup?_append (h.staysOpen (Int.le_refl 0)) (by simp [h.closed]) _

private theorem trimStart_delimited (value rest : List Char) :
    trimStart (delimited value ++ rest) = delimited value ++ rest := by
  unfold delimited
  split
  · rename_i hnumber
    obtain ⟨hne, hdigits⟩ := hnumber
    obtain ⟨c, more, rfl⟩ := List.exists_cons_of_ne_nil hne
    have hdigit : c.isDigit := List.all_eq_true.mp hdigits c (by simp)
    exact trimStart_cons (isBlank_of_isAlphanum (isAlphanum_iff.mpr (.inr hdigit))) _
  · exact trimStart_cons (by decide) _

def writtenValue (field : Field) : List Char :=
  if isVerbatim field.key.toList then field.value.toList else escapeChars field.value.toList

private theorem ofText_writtenValue (field : Field) :
    Field.ofText field.key.toList (writtenValue field) = field := by
  unfold Field.ofText writtenValue
  cases isVerbatim field.key.toList <;> simp

private theorem balanced_writtenValue {field : Field}
    (h : isVerbatim field.key.toList → Balanced field.value.toList) :
    Balanced (writtenValue field) := by
  unfold writtenValue
  split
  · rename_i hverbatim
    exact h hverbatim
  · exact balanced_escapeChars _

theorem writeField_append (field : Field) (rest : List Char) :
    writeField field.key.toList field.value.toList ++ rest =
      [' ', ' ', ' ', ' '] ++ (field.key.toList ++ ' ' :: '=' :: ' ' ::
        (delimited (writtenValue field) ++ ',' :: '\n' :: rest)) := by
  have hindent : "    ".toList = [' ', ' ', ' ', ' '] := by decide
  have hequals : " = ".toList = [' ', '=', ' '] := by decide
  rw [writeField_eq, hindent, hequals, writtenValue]
  simp only [List.append_assoc, List.cons_append, List.nil_append]

private theorem trimStart_letters {word : List Char} (hne : word ≠ [])
    (hletters : ∀ c ∈ word, c.isAlpha)
    (rest : List Char) : trimStart (word ++ rest) = word ++ rest := by
  obtain ⟨c, more, rfl⟩ := List.exists_cons_of_ne_nil hne
  have hletter : c.isAlpha := hletters c (by simp)
  exact trimStart_cons (isBlank_of_isAlphanum (isAlphanum_iff.mpr (.inl hletter))) _

private theorem readField?_written {field : Field} (hne : field.key.toList ≠ [])
    (hletters : ∀ c ∈ field.key.toList, c.isAlpha)
    (hverbatim : isVerbatim field.key.toList → Balanced field.value.toList) (rest : List Char) :
    readField? (field.key.toList ++ ' ' :: '=' :: ' ' ::
      (delimited (writtenValue field) ++ ',' :: '\n' :: rest)) = some (field, '\n' :: rest) := by
  have hspace : Char.isAlpha ' ' = false := by decide
  have hblank (text : List Char) : trimStart (' ' :: text) = trimStart text :=
    trimStart_cons_of_isBlank (by decide) text
  have hequals (text : List Char) : trimStart ('=' :: text) = '=' :: text :=
    trimStart_cons (by decide) text
  have hcomma (text : List Char) : trimStart (',' :: text) = ',' :: text :=
    trimStart_cons (by decide) text
  have hvalue := readValue?_delimited (balanced_writtenValue hverbatim) ('\n' :: rest)
  unfold readField?
  rw [takeWhile_append_cons hletters hspace, dropWhile_append_cons hletters hspace, hblank, hequals,
    dropOpening?_cons]
  simp only [hne, ne_eq, not_false_eq_true, guard_true, Option.bind_eq_bind, Option.bind_some,
    hblank, trimStart_delimited, hvalue, hcomma, dropOpening?_cons, ofText_writtenValue,
    Option.pure_def]

theorem readFields?_nil (rest : List Char) :
    readFields? ('\n' :: '}' :: rest) = some ([], rest) := by
  have htrim : trimStart ('\n' :: '}' :: rest) = ['}'] ++ rest := by
    rw [trimStart_cons_of_isBlank (by decide), trimStart_cons (by decide), List.singleton_append]
  rw [readFields?, dropOpening?_eq_some_iff.mpr htrim]

theorem readFields?_cons {field : Field} (hne : field.key.toList ≠ [])
    (hletters : ∀ c ∈ field.key.toList, c.isAlpha)
    (hverbatim : isVerbatim field.key.toList → Balanced field.value.toList) (rest : List Char) :
    readFields? ('\n' :: (writeField field.key.toList field.value.toList ++ rest)) =
      (readFields? ('\n' :: rest)).map fun fields => (field :: fields.1, fields.2) := by
  have htrim : trimStart ('\n' :: (writeField field.key.toList field.value.toList ++ rest)) =
      field.key.toList ++ ' ' :: '=' :: ' ' ::
        (delimited (writtenValue field) ++ ',' :: '\n' :: rest) := by
    rw [writeField_append]
    simp only [List.cons_append, List.nil_append,
      trimStart_cons_of_isBlank (by decide : isBlank '\n'),
      trimStart_cons_of_isBlank (by decide : isBlank ' ')]
    exact trimStart_letters hne hletters _
  have hmore : dropOpening? ['}'] (field.key.toList ++ ' ' :: '=' :: ' ' ::
      (delimited (writtenValue field) ++ ',' :: '\n' :: rest)) = none := by
    obtain ⟨c, more, hkey⟩ := List.exists_cons_of_ne_nil hne
    have hbrace := (isBraceFree_of_isAlpha hletters c (by simp [hkey])).2
    rw [hkey, List.cons_append, dropOpening?_cons_of_ne hbrace.symm]
  rw [readFields?, htrim, hmore]
  dsimp only
  split
  · rename_i htaken
    rw [readField?_written hne hletters hverbatim] at htaken
    obtain ⟨rfl, rfl⟩ := Prod.mk.inj (Option.some.inj htaken)
    rfl
  · rename_i htaken
    rw [readField?_written hne hletters hverbatim] at htaken
    cases htaken

theorem readFields?_written {fields : List Field}
    (hkeys : ∀ field ∈ fields, field.key.toList ≠ [] ∧ field.key.toList.all Char.isAlpha)
    (hverbatim : ∀ field ∈ fields,
      isVerbatim field.key.toList → Balanced field.value.toList) :
    readFields? ('\n' :: (writeFields fields ++ ['}'])) = some (fields, []) := by
  induction fields with
  | nil => exact readFields?_nil []
  | cons field rest ih =>
      rw [List.forall_mem_cons] at hkeys hverbatim
      rw [writeFields, List.flatMap_cons, ← writeFields, List.append_assoc,
        readFields?_cons hkeys.1.1 (List.all_eq_true.mp hkeys.1.2) hverbatim.1,
        ih hkeys.2 hverbatim.2]
      rfl

/-- Whatever the escaped values say, they come back. -/
theorem Entry.read?_write {entry : Entry} (h : entry.IsReadable) :
    Entry.read? entry.write = some entry := by
  have hciteKey : ∀ c ∈ entry.citeKey.toList, isCiteKeyChar c := by
    intro c hc
    simpa [isCiteKeyChar, and_assoc] using h.citeKey c hc
  have hfields := readFields?_written h.fields h.verbatim
  have hbody : entry.body ++ ['}'] =
      entry.citeKey.toList ++ ',' :: '\n' :: (writeFields entry.fields ++ ['}']) := by
    simp [body]
  unfold read? readEntry?
  rw [toList_write, hbody, dropOpening?_cons]
  simp only [Option.bind_eq_bind, Option.bind_some,
    takeWhile_append_cons entry.type.isAlpha_of_mem_name (by decide : Char.isAlpha '{' = false),
    dropWhile_append_cons entry.type.isAlpha_of_mem_name (by decide : Char.isAlpha '{' = false),
    takeWhile_append_cons hciteKey (by decide : isCiteKeyChar ',' = false),
    dropWhile_append_cons hciteKey (by decide : isCiteKeyChar ',' = false),
    String.ofList_toList, EntryType.ofName?_name, dropOpening?_cons, hfields, guard_true,
    Option.pure_def]

/-- Values that look like delimiters, digits, escaped characters or fields of their own. -/
def lookalikeEntry : Entry where
  citeKey := "A \"key\" = 1"
  type := .misc
  fields := [
    ⟨"title", "\x7d,\n    note = \x7bnone\x7d,\n\x7d"⟩,
    ⟨"note", ""⟩,
    ⟨"volume", "0012"⟩,
    ⟨"journal", "\\textbraceleft\x7b\x7d \\& \\\\% 1, 2"⟩,
    ⟨"Doi", "10"⟩,
    ⟨"URL", "https://example.org/\x7ba\x7d_\x7b\x7d"⟩]

theorem lookalikeEntry_read?_write :
    lookalikeEntry.IsReadable ∧ Entry.read? lookalikeEntry.write = some lookalikeEntry := by
  have hciteKey : lookalikeEntry.citeKey.toList.all isCiteKeyChar := by decide
  have hreadable : lookalikeEntry.IsReadable := by
    refine ⟨⟨?_, by decide⟩, by decide⟩
    intro c hc
    simpa [isCiteKeyChar, and_assoc] using List.all_eq_true.mp hciteKey c hc
  exact ⟨hreadable, Entry.read?_write hreadable⟩

end CitationFile.Bibtex
