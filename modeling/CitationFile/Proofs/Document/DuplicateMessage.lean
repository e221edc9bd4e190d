import CitationFile.Document
import CitationFile.Proofs.Digits
import CitationFile.Proofs.Quoted

/-! What the reader says of a key that it finds for the second time: which key is read off this
message, and what is left of it without its place. -/

namespace CitationFile

namespace Yaml.ValuePath

/-- No key on the way has a quote in its name. -/
def IsPlain (path : ValuePath) : Prop :=
  ∀ name, .key name ∈ path → '"' ∉ name

variable {path : ValuePath}

theorem isPlain_nil : IsPlain [] :=
  fun _ hname => absurd hname List.not_mem_nil

private theorem IsPlain.tail {step : ValueStep} (h : IsPlain (step :: path)) : IsPlain path :=
  fun name hname => h name (List.mem_cons_of_mem step hname)

private theorem not_mem_opening {c : Char} (hc : c ≠ '.') (h : c ∉ text path) :
    c ∉ text.opening path := by
  cases path with
  | nil => simp [text.opening]
  | cons step outer => simpa [text.opening, hc] using h

private theorem IsPlain.quote_not_mem_text (h : IsPlain path) : '"' ∉ text path := by
  induction path with
  | nil => simp [text]
  | cons step outer ih =>
      have houter := ih h.tail
      have hopening : '"' ∉ text.opening outer := not_mem_opening (by decide) houter
      cases step with
      | item index =>
          have hindex := Text.not_mem_toDigits (c := '"') rfl index
          simp [text, houter, hindex]
      | key name =>
          have hname := h name List.mem_cons_self
          simp [text, hopening, hname]
      | unnamed => simp [text, hopening]

private theorem IsPlain.quote_not_mem_pathText (h : IsPlain path) :
    '"' ∉ (ReadError.pathText path).toList := by
  change '"' ∉ (if text path = ['.'] then "" else String.ofList (text path) ++ ": ").toList
  split
  · exact List.not_mem_nil
  · simpa using h.quote_not_mem_text

end Yaml.ValuePath

namespace Document

theorem parse_of_ofText_eq_error {source : String} {error : Yaml.ReadError}
    (h : Yaml.Value.ofText source = .error error) :
    parse source = .error ((Failure.ofReadError error).atRepetition source.toList) := by
  rw [parse, h]

/-- The key that a reader finds for the second time, and where it says so. -/
def duplicate? : Except Yaml.ReadError Yaml.Value → Option (String × Yaml.Mark)
  | .error (.fault (.duplicateKey (.string key)) [] mark) => some (key, mark)
  | _ => none

theorem duplicate?_eq_some_iff {reading : Except Yaml.ReadError Yaml.Value} {key : String}
    {mark : Yaml.Mark} :
    duplicate? reading = some (key, mark) ↔
      reading = .error (.fault (.duplicateKey (.string key)) [] mark) := by
  unfold duplicate?
  split
  · simp
  · rename_i hother
    simp only [reduceCtorEq, false_iff]
    exact hother key mark

structure DuplicateMessage where
  path : Yaml.ValuePath
  key : String
  place? : Option (Nat × Nat)

namespace DuplicateMessage

/-- The message up to the closing quote of the key. -/
def unplaced (message : DuplicateMessage) : String :=
  Yaml.ReadError.pathText message.path ++ ("duplicate entry with key " ++ Text.quote message.key)

def placeText : Option (Nat × Nat) → String
  | none => ""
  | some (line, column) => " at line " ++ line.repr ++ " column " ++ column.repr

def text (message : DuplicateMessage) : String :=
  message.unplaced ++ placeText message.place?

/-- The place is left out at the very start of a text. -/
def ofFault (path : Yaml.ValuePath) (key : String) (mark : Yaml.Mark) : DuplicateMessage where
  path := path
  key := key
  place? := if mark.isStart then none else some (mark.line + 1, mark.column + 1)

theorem text_ofFault (path : Yaml.ValuePath) (key : String) (mark : Yaml.Mark) :
    (ofFault path key mark).text =
      Yaml.ReadError.text (.fault (.duplicateKey (.string key)) path mark) := by
  -- By definition; the equations of the texts of all faults take long to state.
  have hfault : Yaml.ValueFault.text (.duplicateKey (.string key)) =
      "duplicate entry with key " ++ Text.quote key := rfl
  rw [Yaml.ReadError.text, hfault, Yaml.ReadError.atMark, text, ofFault]
  cases mark.isStart with
  | false =>
      have hplace : placeText (some (mark.line + 1, mark.column + 1)) = " at " ++ mark.text := by
        rw [placeText, Yaml.Mark.text, show " at line " = " at " ++ "line " from rfl]
        simp only [String.append_assoc]
      rw [if_neg Bool.false_ne_true, if_neg Bool.false_ne_true, hplace, ← String.append_assoc]
      rfl
  | true => simp [unplaced, placeText]

def opening : List Char :=
  "duplicate entry with key ".toList

private theorem toList_unplaced (message : DuplicateMessage) :
    message.unplaced.toList = (Yaml.ReadError.pathText message.path).toList ++
      (opening ++ '"' :: (message.key.toList.flatMap Text.quoteChar ++ ['"'])) := by
  rw [unplaced, String.toList_append, String.toList_append, Text.toList_quote]
  rfl

private theorem repeatedKey?_text {message : DuplicateMessage} (hpath : message.path.IsPlain) :
    Failure.repeatedKey? message.text.toList =
      some ((message.key.toList.flatMap Text.quoteChar).takeWhile (· != '"')) := by
  have hopening : "duplicate entry with key \"".toList = opening ++ ['"'] := by decide
  have htext : message.text.toList = (Yaml.ReadError.pathText message.path).toList ++
      (opening ++ '"' :: (message.key.toList.flatMap Text.quoteChar ++
        '"' :: (placeText message.place?).toList)) := by
    rw [text, String.toList_append, toList_unplaced]
    simp only [List.append_assoc, List.cons_append, List.nil_append]
  have hmark := Text.cutAtFirst?_concat hpath.quote_not_mem_pathText
    (show '"' ∉ opening by decide)
    (message.key.toList.flatMap Text.quoteChar ++ '"' :: (placeText message.place?).toList)
  obtain ⟨behind, hkey⟩ := Text.exists_cutAtFirst?_char '"'
    (message.key.toList.flatMap Text.quoteChar) (placeText message.place?).toList
  rw [Failure.repeatedKey?, hopening, htext, hmark]
  simp [hkey]

theorem repeatedKey?_text_eq_some_key_iff {message : DuplicateMessage}
    (hpath : message.path.IsPlain) :
    Failure.repeatedKey? message.text.toList = some message.key.toList ↔
      ∀ c ∈ message.key.toList, Text.quoteChar c = [c] := by
  rw [repeatedKey?_text hpath, Option.some_inj, Text.takeWhile_flatMap_quoteChar_eq_self_iff]

/-! Where the message is cut to leave out its place. -/

def placeMark : List Char :=
  " at line ".toList

private theorem toList_placeText (line column : Nat) :
    (placeText (some (line, column))).toList =
      placeMark ++ (line.repr ++ " column " ++ column.repr).toList := by
  have htext : placeText (some (line, column)) =
      " at line " ++ (line.repr ++ " column " ++ column.repr) := by
    simp only [placeText, String.append_assoc]
  rw [htext, String.toList_append]
  exact congrArg (· ++ _) rfl

/-- No second place begins within a place: the letter that is third in the mark stands second there,
and never again. -/
theorem not_placeMark_infix_place (line column : Nat) :
    ¬ placeMark <:+: placeMark.tail ++ (line.repr ++ " column " ++ column.repr).toList := by
  have hletter : 't' ∈ placeMark := by decide
  have hrest : 't' ∉ " line ".toList ++ (line.repr ++ " column " ++ column.repr).toList := by
    simp [Text.not_mem_toDigits (c := 't') rfl]
  have htail : placeMark.tail = 'a' :: 't' :: " line ".toList := rfl
  rw [htail, List.cons_append, List.cons_append, List.infix_cons_iff, List.infix_cons_iff]
  rintro (hopens | hopens | hlater)
  · exact absurd (List.cons_prefix_cons.mp hopens).1 (by decide)
  · exact absurd (List.cons_prefix_cons.mp hopens).1 (by decide)
  · exact hrest (hlater.mem hletter)

private theorem withoutPlace_eq (text : List Char) :
    Failure.withoutPlace text = (Text.beforeLast? placeMark text).getD text := rfl

theorem withoutPlace_eq_self_iff {text : List Char} :
    Failure.withoutPlace text = text ↔ ¬ placeMark <:+: text := by
  have hmark : placeMark ≠ [] := by decide
  rw [withoutPlace_eq, ← Text.beforeLast?_eq_none_iff hmark]
  cases hbefore : Text.beforeLast? placeMark text with
  | none => simp
  | some before =>
      obtain ⟨behind, htext⟩ := Text.beforeLast?_sound hbefore
      have hlength := congrArg List.length htext
      have hpos := List.length_pos_iff.mpr hmark
      simp only [List.length_append] at hlength
      simp only [Option.getD_some, reduceCtorEq, iff_false]
      rintro rfl
      omega

private theorem withoutPlace_text_of_place? {message : DuplicateMessage} {line column : Nat}
    (h : message.place? = some (line, column)) :
    Failure.withoutPlace message.text.toList = message.unplaced.toList := by
  have hmark : placeMark ≠ [] := by decide
  have hbefore := @Text.beforeLast?_append_eq_some _ message.unplaced.toList _ hmark
    (not_placeMark_infix_place line column)
  rw [withoutPlace_eq, text, h, String.toList_append, toList_placeText, hbefore, Option.getD_some]

theorem placeMark_infix_unplaced_iff (message : DuplicateMessage) :
    placeMark <:+: message.unplaced.toList ↔
      placeMark <:+: (Yaml.ReadError.pathText message.path).toList ∨
        placeMark <:+: message.key.toList := by
  have hplain : ∀ c ∈ placeMark, Text.quoteChar c = [c] :=
    Text.flatMap_quoteChar_eq_self_iff.mp (by decide)
  have hwords : ¬ placeMark <:+: "uplicate entry with key ".toList := by decide
  have hend : ¬ placeMark <:+: [] := by decide
  have hquote : '"' ∉ placeMark := by decide
  have hopening : opening = 'd' :: "uplicate entry with key ".toList := rfl
  rw [toList_unplaced, hopening, List.cons_append, Text.infix_append_cons_iff (by decide),
    Text.infix_append_cons_iff hquote, Text.infix_append_cons_iff hquote, or_iff_right hwords,
    or_iff_left hend]
  exact or_congr_right (Text.quoteChar_isEscaping.infix_flatMap_iff (by decide) hplain)

theorem message_atRepetition_eq_unplaced_iff {message : DuplicateMessage}
    (hpath : message.path.IsPlain) (line column : Option Nat) (source : List Char) :
    ((⟨line, column, message.text⟩ : Failure).atRepetition source).message = message.unplaced ↔
      message.place?.isSome ∨
        ¬ placeMark <:+: (Yaml.ReadError.pathText message.path).toList ∧
          ¬ placeMark <:+: message.key.toList := by
  have hmessage : ((⟨line, column, message.text⟩ : Failure).atRepetition source).message =
      String.ofList (Failure.withoutPlace message.text.toList) := by
    rw [Failure.atRepetition, repeatedKey?_text hpath]
  rw [hmessage, ← String.toList_inj, String.toList_ofList]
  cases hplace : message.place? with
  | none =>
      have htext : message.text = message.unplaced := by simp [text, hplace, placeText]
      rw [htext, withoutPlace_eq_self_iff, placeMark_infix_unplaced_iff, not_or]
      simp
  | some place => simp [withoutPlace_text_of_place? hplace]

/-- A key comes back from the message exactly if nothing in it is escaped, and the message is cut at
its closing quote exactly if a place follows, or the words that open one stand nowhere. -/
theorem key_and_unplaced_iff {message : DuplicateMessage} (hpath : message.path.IsPlain) :
    (Failure.repeatedKey? message.text.toList = some message.key.toList ↔
      ∀ c ∈ message.key.toList, Text.quoteChar c = [c]) ∧
    ∀ line column source,
      ((⟨line, column, message.text⟩ : Failure).atRepetition source).message = message.unplaced ↔
        message.place?.isSome ∨
          ¬ placeMark <:+: (Yaml.ReadError.pathText message.path).toList ∧
            ¬ placeMark <:+: message.key.toList :=
  ⟨repeatedKey?_text_eq_some_key_iff hpath, message_atRepetition_eq_unplaced_iff hpath⟩

/-- A place that stands behind a key with the same words. -/
def placedMessage : DuplicateMessage where
  path := [.item 0, .key "authors".toList]
  key := "see at line 3"
  place? := some (2, 5)

theorem placedMessage_key_and_unplaced :
    placedMessage.path.IsPlain ∧
      Failure.repeatedKey? placedMessage.text.toList = some "see at line 3".toList ∧
      ((⟨some 2, some 5, placedMessage.text⟩ : Failure).atRepetition []).message =
        "authors[0]: duplicate entry with key \"see at line 3\"" := by
  have hpath : placedMessage.path.IsPlain := by
    intro name hname
    have hkey : name = "authors".toList := by simpa [placedMessage] using hname
    rw [hkey]
    decide
  have hpathText : Yaml.ReadError.pathText placedMessage.path = "authors[0]: " := by
    have htext : Yaml.ValuePath.text placedMessage.path = "authors[0]".toList := by
      simp [placedMessage, Yaml.ValuePath.text, Yaml.ValuePath.text.opening]
    rw [Yaml.ReadError.pathText, htext]
    decide
  have hboth := key_and_unplaced_iff hpath
  refine ⟨hpath, hboth.1.mpr (Text.flatMap_quoteChar_eq_self_iff.mp (by decide)), ?_⟩
  rw [(hboth.2 (some 2) (some 5) []).mpr (.inl rfl), unplaced, hpathText]
  decide

end DuplicateMessage

/-- A key with a backslash and with the words that open a place, named twice from the start on. -/
def slashedText : String := "a\\ at line b: 1\na\\ at line b: 2\n"

def slashedMessage : DuplicateMessage where
  path := []
  key := "a\\ at line b"
  place? := none

theorem slashedText_not_intact :
    ∃ error failure, Yaml.Value.ofText slashedText = .error error ∧
      error.text = slashedMessage.text ∧ parse slashedText = .error failure ∧
      Failure.repeatedKey? slashedMessage.text.toList ≠ some slashedMessage.key.toList ∧
      failure.message ≠ slashedMessage.unplaced := by
  have hread : Yaml.Value.ofText slashedText =
      .error (.fault (.duplicateKey (.string slashedMessage.key)) [] {}) :=
    duplicate?_eq_some_iff.mp (by decide +kernel)
  have htext := DuplicateMessage.text_ofFault [] slashedMessage.key {}
  have hpath : slashedMessage.path.IsPlain := Yaml.ValuePath.isPlain_nil
  refine ⟨_, _, hread, htext.symm, parse_of_ofText_eq_error hread, ?_, ?_⟩
  · rw [Ne, DuplicateMessage.repeatedKey?_text_eq_some_key_iff hpath,
      ← Text.flatMap_quoteChar_eq_self_iff]
    decide
  · have hkey : DuplicateMessage.placeMark <:+: slashedMessage.key.toList := by decide
    rw [Failure.ofReadError, ← htext]
    intro hmessage
    rcases (DuplicateMessage.message_atRepetition_eq_unplaced_iff hpath _ _ _).mp hmessage with
      hplace | ⟨-, hfree⟩
    · exact absurd hplace (by decide)
    · exact hfree hkey

end Document

end CitationFile
