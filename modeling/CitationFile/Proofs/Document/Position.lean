import CitationFile.Proofs.Document.DuplicateMessage
import CitationFile.Proofs.Document.Repetition

/-! Where failures are located. A place that the reader tells is kept, unless the reader calls a key
a duplicate: then the failure is located exactly if the lines of the text name this key again. -/

namespace CitationFile.Document

namespace Failure

/-- Line and column are told, counted from one. -/
def IsLocated (failure : Failure) : Prop :=
  ∃ line column, failure.line = some line ∧ failure.column = some column ∧ 1 ≤ line ∧ 1 ≤ column

theorem isLocated_ofReadError {error : Yaml.ReadError} {mark : Yaml.Mark}
    (h : error.mark? = some mark) : (ofReadError error).IsLocated := by
  refine ⟨mark.line + 1, mark.column + 1, ?_, ?_, Nat.le_add_left 1 _, Nat.le_add_left 1 _⟩
  · rw [ofReadError, h]
    rfl
  · rw [ofReadError, h]
    rfl

theorem isLocated_atRepetition_iff {failure : Failure} (h : failure.IsLocated)
    (source : List Char) :
    (failure.atRepetition source).IsLocated ↔
      ∀ key, repeatedKey? failure.message.toList = some key → NamesAgain source key := by
  unfold atRepetition
  cases hkey : repeatedKey? failure.message.toList with
  | none => simpa using h
  | some key =>
      simp only [Option.some.injEq, forall_eq', ← repetition?_isSome_iff]
      cases hplace : repetition? source key with
      | none => simp [IsLocated]
      | some place =>
          have hpos := pos_of_repetition?_eq_some hplace
          simpa [IsLocated] using hpos

end Failure

theorem repeatedKey?_text_duplicateKey {key : String}
    (hplain : ∀ c ∈ key.toList, Text.quoteChar c = [c]) (mark : Yaml.Mark) :
    Failure.repeatedKey?
      (Yaml.ReadError.text (.fault (.duplicateKey (.string key)) [] mark)).toList =
        some key.toList := by
  rw [← DuplicateMessage.text_ofFault]
  exact (DuplicateMessage.repeatedKey?_text_eq_some_key_iff Yaml.ValuePath.isPlain_nil).mpr hplain

/-- The place that the reader tells is lost exactly for a key that the reader calls a duplicate and
that no line of the text names again within one mapping. -/
theorem parse_isLocated_iff {source : String} {error : Yaml.ReadError} {mark : Yaml.Mark}
    (hread : Yaml.Value.ofText source = .error error) (hmark : error.mark? = some mark) :
    ∃ failure, parse source = .error failure ∧
      (failure.IsLocated ↔ ∀ key, Failure.repeatedKey? error.text.toList = some key →
        NamesAgain source.toList key) :=
  ⟨_, parse_of_ofText_eq_error hread,
    Failure.isLocated_atRepetition_iff (Failure.isLocated_ofReadError hmark) source.toList⟩

theorem repeatedText_isLocated :
    ∃ failure, parse "a: 1\na: 2\n" = .error failure ∧ failure.IsLocated := by
  have hread : Yaml.Value.ofText "a: 1\na: 2\n" =
      .error (.fault (.duplicateKey (.string "a")) [] {}) :=
    duplicate?_eq_some_iff.mp (by decide +kernel)
  obtain ⟨failure, hparse, hlocated⟩ := parse_isLocated_iff hread rfl
  refine ⟨failure, hparse, hlocated.mpr ?_⟩
  intro key hkey
  rw [@repeatedKey?_text_duplicateKey "a" (List.forall_mem_singleton.mpr rfl) {}] at hkey
  cases hkey
  exact repetition?_isSome_iff.mp (by decide +kernel)

/-- Both keys of a mapping in braces stand on one line, which does not begin with a key. -/
def bracedText : String := "{a: 1, a: 2}"

theorem bracedText_not_isLocated :
    ∃ error mark failure, Yaml.Value.ofText bracedText = .error error ∧
      error.mark? = some mark ∧ parse bracedText = .error failure ∧ ¬ failure.IsLocated := by
  have hread : Yaml.Value.ofText bracedText =
      .error (.fault (.duplicateKey (.string "a")) [] {}) :=
    duplicate?_eq_some_iff.mp (by decide +kernel)
  refine ⟨_, _, _, hread, rfl, parse_of_ofText_eq_error hread, ?_⟩
  rw [Failure.isLocated_atRepetition_iff (Failure.isLocated_ofReadError rfl)]
  intro hagain
  have hkey := @repeatedKey?_text_duplicateKey "a" (List.forall_mem_singleton.mpr rfl) {}
  have hfound := repetition?_isSome_iff.mpr (hagain _ hkey)
  exact absurd hfound (by decide +kernel)

end CitationFile.Document
