import CitationFile.Issue
import CitationFile.Schema.Path

/-! The text of a path tells the path: a key ends where a dot or a bracket begins, and an index at
its closing bracket. So a text is anchored below another exactly if its path leads through the
other. -/

namespace CitationFile

namespace Schema

def isMark (c : Char) : Bool :=
  c = '.' || c = '['

/-- Keys are told apart as long as they have no marks of their own. -/
def Step.IsPlain : Step → Prop
  | .key name => ∀ c ∈ name.toList, ¬ isMark c
  | .item _ => True

instance (step : Step) : Decidable step.IsPlain :=
  match step with
  | .key name => List.decidableBAll (fun c => ¬ isMark c) name.toList
  | .item _ => .isTrue trivial

def Step.chars (step : Step) : List Char :=
  (Path.stepText step).toList

def OpensWithMark (text : List Char) : Prop :=
  ∀ c ∈ text.head?, isMark c

@[simp] theorem Step.chars_key (name : String) : (Step.key name).chars = '.' :: name.toList := by
  simp [chars, Path.stepText]

@[simp] theorem Step.chars_item (index : Nat) :
    (Step.item index).chars = '[' :: (index.repr.toList ++ [']']) := by
  simp [chars, Path.stepText]

private theorem Step.opensWithMark_chars (step : Step) (tail : List Char) :
    OpensWithMark (step.chars ++ tail) := by
  cases step <;> simp [OpensWithMark, isMark]

theorem opensWithMark_flatMap {steps : List Step} {tail : List Char} (h : OpensWithMark tail) :
    OpensWithMark (steps.flatMap Step.chars ++ tail) := by
  cases steps with
  | nil => exact h
  | cons step rest =>
      rw [List.flatMap_cons, List.append_assoc]
      exact step.opensWithMark_chars _

theorem opensWithMark_nil : OpensWithMark [] := by
  simp [OpensWithMark]

private theorem opensWithMark_steps (steps : List Step) :
    OpensWithMark (steps.flatMap Step.chars) := by
  rw [← List.append_nil (steps.flatMap Step.chars)]
  exact opensWithMark_flatMap opensWithMark_nil

private theorem append_inj_of_class (class? : Char → Bool)
    {left right leftTail rightTail : List Char}
    (hleft : ∀ c ∈ left, class? c) (hright : ∀ c ∈ right, class? c)
    (hleftTail : ∀ c ∈ leftTail.head?, ¬ class? c) (hrightTail : ∀ c ∈ rightTail.head?, ¬ class? c)
    (h : left ++ leftTail = right ++ rightTail) : left = right ∧ leftTail = rightTail := by
  have hends : ∀ {tail : List Char}, (∀ c ∈ tail.head?, ¬ class? c) →
      tail.takeWhile class? = [] := by
    intro tail htail
    cases tail with
    | nil => rfl
    | cons c rest => exact List.takeWhile_cons_of_neg (htail c rfl)
  have heq : left = right := by
    simpa [List.takeWhile_append_of_pos hleft, List.takeWhile_append_of_pos hright,
      hends hleftTail, hends hrightTail] using congrArg (List.takeWhile class?) h
  subst right
  exact ⟨rfl, List.append_cancel_left h⟩

private theorem key_append_inj {left right : String} {leftTail rightTail : List Char}
    (hleft : (Step.key left).IsPlain) (hright : (Step.key right).IsPlain)
    (hleftTail : OpensWithMark leftTail) (hrightTail : OpensWithMark rightTail)
    (h : left.toList ++ leftTail = right.toList ++ rightTail) :
    left = right ∧ leftTail = rightTail := by
  obtain ⟨hkey, htail⟩ := append_inj_of_class (fun c => !isMark c)
    (by simpa [Step.IsPlain] using hleft) (by simpa [Step.IsPlain] using hright)
    (by simpa [OpensWithMark] using hleftTail) (by simpa [OpensWithMark] using hrightTail) h
  exact ⟨String.toList_inj.mp hkey, htail⟩

private theorem index_append_inj {left right : Nat} {leftTail rightTail : List Char}
    (h : left.repr.toList ++ ']' :: leftTail = right.repr.toList ++ ']' :: rightTail) :
    left = right ∧ leftTail = rightTail := by
  have hdigits : ∀ (index : Nat), ∀ c ∈ index.repr.toList, c.isDigit := by
    intro index c hc
    rw [Nat.toList_repr] at hc
    exact Nat.isDigit_of_mem_toDigits (by decide) (by decide) hc
  have hbracket : ¬ (']').isDigit := by decide
  obtain ⟨hindex, htail⟩ := append_inj_of_class Char.isDigit (hdigits left) (hdigits right)
    (by simp [hbracket]) (by simp [hbracket]) h
  have hvalue : left = right := by
    simpa [Nat.toList_repr] using congrArg (Nat.ofDigitChars 10 · 0) hindex
  exact ⟨hvalue, (List.cons.inj htail).2⟩

private theorem Step.chars_append_inj {left right : Step} {leftTail rightTail : List Char}
    (hleft : left.IsPlain) (hright : right.IsPlain)
    (hleftTail : OpensWithMark leftTail) (hrightTail : OpensWithMark rightTail)
    (h : left.chars ++ leftTail = right.chars ++ rightTail) :
    left = right ∧ leftTail = rightTail := by
  cases left with
  | key left =>
      cases right with
      | key right =>
          simp only [chars_key, List.cons_append, List.cons.injEq, true_and] at h
          obtain ⟨rfl, htail⟩ := key_append_inj hleft hright hleftTail hrightTail h
          exact ⟨rfl, htail⟩
      | item index => simp at h
  | item left =>
      cases right with
      | key name => simp at h
      | item right =>
          simp only [chars_item, List.cons_append, List.append_assoc, List.nil_append,
            List.cons.injEq, true_and] at h
          obtain ⟨rfl, htail⟩ := index_append_inj h
          exact ⟨rfl, htail⟩

private theorem isPrefix_of_flatMap_chars {left right : List Step} {tail : List Char}
    (hleft : ∀ step ∈ left, step.IsPlain) (hright : ∀ step ∈ right, step.IsPlain)
    (htail : OpensWithMark tail)
    (h : left.flatMap Step.chars ++ tail = right.flatMap Step.chars) : left <+: right := by
  -- Steps are read off the text one by one, since behind each of them comes a mark or nothing.
  induction left generalizing right with
  | nil => exact List.nil_prefix
  | cons step rest ih =>
      cases right with
      | nil => cases step <;> simp at h
      | cons other others =>
          rw [List.flatMap_cons, List.flatMap_cons, List.append_assoc] at h
          rw [List.forall_mem_cons] at hleft hright
          obtain ⟨rfl, hrest⟩ := Step.chars_append_inj hleft.1 hright.1
            (opensWithMark_flatMap htail) (opensWithMark_steps others) h
          exact List.cons_prefix_cons.mpr ⟨rfl, ih hleft.2 hright.2 hrest⟩

/-- A path from a key of the document on, by plain steps. -/
def Path.IsAddress : Path → Prop
  | .key name :: rest => ∀ step ∈ Step.key name :: rest, step.IsPlain
  | _ => False

instance : DecidablePred Path.IsAddress
  | .key name :: rest =>
      inferInstanceAs (Decidable (∀ step ∈ Step.key name :: rest, step.IsPlain))
  | [] => .isFalse id
  | .item _ :: _ => .isFalse id

private theorem Path.toList_join_stepText (steps : List Step) :
    (String.join (steps.map stepText)).toList = steps.flatMap Step.chars := by
  rw [String.toList_join, List.flatMap_map]
  rfl

theorem Path.toList_text_key (name : String) (rest : Path) :
    (text (.key name :: rest)).toList = name.toList ++ rest.flatMap Step.chars := by
  rw [text, String.toList_append, toList_join_stepText]

theorem Path.toList_text_append {path : Path} (hpath : path ≠ []) (rest : Path) :
    (text (path ++ rest)).toList = path.text.toList ++ rest.flatMap Step.chars := by
  match path with
  | .key name :: inner => simp [toList_text_key]
  | .item index :: inner =>
      change (String.join ((.item index :: inner ++ rest).map stepText)).toList =
        (String.join ((.item index :: inner).map stepText)).toList ++ _
      rw [toList_join_stepText, toList_join_stepText, List.flatMap_append]

end Schema

namespace Issue

theorem isBelow_iff {issue : Issue} {path : String} :
    issue.isBelow path ↔
      ∃ tail, Schema.OpensWithMark tail ∧ path.toList ++ tail = issue.path.toList := by
  simp only [isBelow, Bool.or_eq_true, decide_eq_true_eq, List.isPrefixOf_iff_prefix]
  constructor
  · rintro ((heq | ⟨rest, heq⟩) | ⟨rest, heq⟩)
    · exact ⟨[], Schema.opensWithMark_nil, by simp [heq]⟩
    · exact ⟨'.' :: rest, by simp [Schema.OpensWithMark, Schema.isMark], by simpa using heq⟩
    · exact ⟨'[' :: rest, by simp [Schema.OpensWithMark, Schema.isMark], by simpa using heq⟩
  · rintro ⟨tail, htail, heq⟩
    cases tail with
    | nil => exact .inl (.inl (by simpa using heq.symm))
    | cons c rest =>
        have hmark : c = '.' ∨ c = '[' := by
          simpa [Schema.OpensWithMark, Schema.isMark] using htail
        rcases hmark with rfl | rfl
        · exact .inl (.inr ⟨rest, by simpa using heq⟩)
        · exact .inr ⟨rest, by simpa using heq⟩

end Issue

namespace Schema

variable {issue : Issue} {path above : Path}

theorem isBelow_of_isPrefix (hpath : issue.path = path.text) (habove : above ≠ [])
    (h : above <+: path) : issue.isBelow above.text := by
  obtain ⟨rest, rfl⟩ := h
  rw [Issue.isBelow_iff, hpath]
  exact ⟨rest.flatMap Step.chars, opensWithMark_steps rest,
    (Path.toList_text_append habove rest).symm⟩

theorem isBelow_text_iff (hpath : issue.path = path.text) (haddress : path.IsAddress)
    (habove : above.IsAddress) : issue.isBelow above.text ↔ above <+: path := by
  constructor
  · intro h
    obtain ⟨tail, htail, heq⟩ := Issue.isBelow_iff.mp h
    rw [hpath] at heq
    match above, path, habove, haddress with
    | .key outer :: above, .key inner :: path, habove, haddress =>
        simp only [Path.toList_text_key, List.append_assoc] at heq
        simp only [Path.IsAddress, List.forall_mem_cons] at habove haddress
        obtain ⟨rfl, hsteps⟩ := key_append_inj habove.1 haddress.1
          (opensWithMark_flatMap htail) (opensWithMark_steps path) heq
        exact List.cons_prefix_cons.mpr
          ⟨rfl, isPrefix_of_flatMap_chars habove.2 haddress.2 htail hsteps⟩
  · intro h
    refine isBelow_of_isPrefix hpath ?_ h
    rintro rfl
    exact habove

theorem Path.text_inj {left right : Path} (hleft : left.IsAddress) (hright : right.IsAddress)
    (h : left.text = right.text) : left = right := by
  have hbelow : ∀ {path other : Path}, path.IsAddress → other.IsAddress →
      path.text = other.text → other <+: path := by
    intro path other hpath hother heq
    have hiff : (⟨path.text, "", .error⟩ : Issue).isBelow other.text ↔ other <+: path :=
      isBelow_text_iff rfl hpath hother
    rw [← hiff, Issue.isBelow_iff]
    exact ⟨[], opensWithMark_nil, by simp [heq]⟩
  exact (hbelow hright hleft h.symm).eq_of_length_le (hbelow hleft hright h).length_le

end Schema

end CitationFile
