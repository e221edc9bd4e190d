import CitationFile.Proofs.Digits
import CitationFile.Text.Blank
import CitationFile.Toml.Value.Reading

namespace CitationFile.Toml

namespace Reader

def Misses (reader : Reader α) (text : List Char) : Prop :=
  ∃ flaw rest, reader text = .missed flaw rest

variable {reader first second : Reader α} {text : List Char}

theorem Misses.bind (h : reader.Misses text) (next : α → Reader β) :
    (reader >>= next).Misses text := by
  obtain ⟨flaw, rest, hmissed⟩ := h
  exact ⟨flaw, rest, by rw [bind_apply, hmissed]⟩

private theorem misses_bind_of_done {next : α → Reader β} {value : α} {behind : List Char}
    (h : reader text = .done value behind) (hnext : (next value).Misses behind) :
    (reader >>= next).Misses text := by
  obtain ⟨flaw, rest, hmissed⟩ := hnext
  refine ⟨flaw, rest, ?_⟩
  rw [bind_apply, h]
  exact hmissed

private theorem Misses.orElse_eq (h : first.Misses text) :
    first.orElse second text = second text := by
  obtain ⟨flaw, rest, hmissed⟩ := h
  rw [orElse, hmissed]

private theorem Misses.orElse (h : first.Misses text) (hsecond : second.Misses text) :
    (first.orElse second).Misses text := by
  rwa [Misses, h.orElse_eq]

private theorem orElse_of_done {value : α} {behind : List Char}
    (h : first text = .done value behind) :
    first.orElse second text = .done value behind := by
  rw [orElse, h]

private theorem Misses.about (h : reader.Misses text) (subject : Subject) :
    (about subject reader).Misses text := by
  obtain ⟨flaw, rest, hmissed⟩ := h
  exact ⟨flaw.about subject, rest, by rw [Reader.about, hmissed, Outcome.mapFlaw]⟩

private theorem Misses.settle (h : reader.Misses text) (accept : α → Except Flaw β) :
    (reader.settle accept).Misses text := by
  obtain ⟨flaw, rest, hmissed⟩ := h
  exact ⟨flaw, rest, by rw [Reader.settle, hmissed]⟩

theorem Misses.many_eq (h : reader.Misses text) : reader.many text = .done [] text := by
  obtain ⟨flaw, rest, hmissed⟩ := h
  unfold many
  cases text.length with
  | zero => rfl
  | succ fuel => simp only [atMost, hmissed]

theorem symbol_cons_self (c : Char) (rest : List Char) : symbol c (c :: rest) = .done c rest := by
  simp [symbol, satisfying]

theorem misses_satisfying {p : Char → Bool} (h : ∀ c ∈ text.head?, p c = false) :
    (satisfying p).Misses text := by
  cases text with
  | nil => exact ⟨{}, [], rfl⟩
  | cons c rest => exact ⟨{}, c :: rest, by simp [satisfying, h c rfl]⟩

private theorem misses_literal {c d : Char} (h : c ≠ d) {mark rest : List Char} :
    (literal (c :: mark)).Misses (d :: rest) :=
  ⟨{}, d :: rest, by simp [literal, h]⟩

end Reader

open Reader

/-- The text of a value is read as the value, up to the end of its line. -/
def IsWrittenAs (text : List Char) (value : Value) : Prop :=
  ∀ rest, scalar (text ++ '\n' :: rest) = .done value ('\n' :: rest)

theorem boolean_isWrittenAs (value : Bool) :
    IsWrittenAs (toString value).toList (.boolean value) := by
  intro rest
  cases value <;> rfl

theorem basicBody_append {content : List Char} (h : ∀ c ∈ content, isBasicChar c)
    (behind : List Char) : basicBody 0 (content ++ '"' :: behind) = .done content behind := by
  induction content with
  | nil => simp [basicBody]
  | cons c content ih =>
      obtain ⟨hc, hcontent⟩ := List.forall_mem_cons.mp h
      have hquote : c ≠ '"' := Text.ne_of_class hc (by decide)
      have hescape : c ≠ '\\' := Text.ne_of_class hc (by decide)
      simp [basicBody, hquote, hescape, hc, ih hcontent, Outcome.map]

theorem string_isWrittenAs {content : List Char} (h : ∀ c ∈ content, isBasicChar c) :
    IsWrittenAs ('"' :: (content ++ ['"'])) (.string (String.ofList content)) := by
  intro rest
  have htext : '"' :: (content ++ ['"']) ++ '\n' :: rest =
      '"' :: (content ++ '"' :: '\n' :: rest) := by
    simp
  rw [htext]
  have hmultiline : multilineBasicString.Misses ('"' :: (content ++ '"' :: '\n' :: rest)) := by
    refine Misses.bind ⟨{}, _, if_neg ?_⟩ _
    cases content with
    | nil => simp
    | cons c content =>
        have hquote : c ≠ '"' := Text.ne_of_class (h c List.mem_cons_self) (by decide)
        simp [hquote.symm]
  have hbasic : basicString ('"' :: (content ++ '"' :: '\n' :: rest)) =
      .done content ('\n' :: rest) :=
    bind_eq_done_iff.mpr ⟨_, _, symbol_cons_self _ _, basicBody_append h _⟩
  have hquoted : quotedString ('"' :: (content ++ '"' :: '\n' :: rest)) =
      .done content ('\n' :: rest) := by
    rw [quotedString, hmultiline.orElse_eq, orElse_of_done hbasic]
  exact bind_eq_done_iff.mpr ⟨_, _, hquoted, rfl⟩

/-! The readers that are tried before that of integers all miss a natural number. -/

def IsDigitLine (text : List Char) : Prop :=
  ∃ digits rest, (∀ c ∈ digits, c.isDigit) ∧ text = digits ++ '\n' :: rest

private theorem IsDigitLine.of_mem_head? {text : List Char} (h : IsDigitLine text) :
    ∀ c ∈ text.head?, c.isDigit ∨ c = '\n' := by
  obtain ⟨digits, rest, hdigits, rfl⟩ := h
  cases digits with
  | nil => simp
  | cons d digits => simpa using Or.inl (hdigits d List.mem_cons_self)

private theorem IsDigitLine.misses_satisfying {p : Char → Bool}
    (hdigit : ∀ c, c.isDigit → p c = false)
    (hnewline : p '\n' = false) {text : List Char} (h : IsDigitLine text) :
    (satisfying p).Misses text := by
  refine Reader.misses_satisfying fun c hc => ?_
  obtain hc | rfl := h.of_mem_head? c hc
  · exact hdigit c hc
  · exact hnewline

private theorem IsDigitLine.misses_symbol {c : Char} (hdigit : c.isDigit = false)
    (hnewline : c ≠ '\n') {text : List Char} (h : IsDigitLine text) : (symbol c).Misses text := by
  refine h.misses_satisfying (fun d hd => ?_) (by simpa using hnewline.symm)
  exact decide_eq_false (Text.ne_of_class hd hdigit)

/-- Whatever is read off a line of digits leaves digits behind. -/
def ReadsDigits (reader : Reader α) : Prop :=
  ∀ text, IsDigitLine text → reader.Misses text ∨
    ∃ value behind, reader text = .done value behind ∧ IsDigitLine behind

private theorem readsDigits_digits (number : Nat) : ReadsDigits (digits number) := by
  rintro text ⟨run, rest, hrun, rfl⟩
  have htaken : (run ++ '\n' :: rest).takeWhile Char.isDigit = run :=
    Text.takeWhile_append_cons hrun (by decide) rest
  have hread : digits number (run ++ '\n' :: rest) =
      if (run.take number).length < number then .missed {} (run ++ '\n' :: rest)
      else .done (run.take number) ((run ++ '\n' :: rest).drop (run.take number).length) := by
    simp only [digits, count, Option.elim_some, htaken]
  by_cases hshort : (run.take number).length < number
  · exact .inl ⟨{}, _, hread.trans (if_pos hshort)⟩
  · have hdone := hread.trans (if_neg hshort)
    refine .inr ⟨_, _, hdone, run.drop (run.take number).length, rest, ?_, ?_⟩
    · exact fun c hc => hrun c (List.mem_of_mem_drop hc)
    · exact List.drop_append_of_le_length (List.length_take_le' _ _)

private theorem ReadsDigits.refine {reader : Reader α} (h : ReadsDigits reader)
    (accept : α → Except Flaw β) : ReadsDigits (reader.refine accept) := by
  intro text htext
  obtain ⟨flaw, rest, hmissed⟩ | ⟨value, behind, hdone, hbehind⟩ := h text htext
  · exact .inl ⟨flaw, rest, by rw [Reader.refine, hmissed]⟩
  · cases haccept : accept value with
    | error flaw => exact .inl ⟨flaw, text, by simp only [Reader.refine, hdone, haccept]⟩
    | ok accepted =>
        exact .inr ⟨accepted, behind, by simp only [Reader.refine, hdone, haccept], hbehind⟩

private theorem ReadsDigits.misses_bind {reader : Reader α} {next : α → Reader β}
    (h : ReadsDigits reader) (hnext : ∀ value text, IsDigitLine text → (next value).Misses text)
    {text : List Char} (htext : IsDigitLine text) : (reader >>= next).Misses text := by
  obtain hmissed | ⟨value, behind, hdone, hbehind⟩ := h text htext
  · exact hmissed.bind next
  · exact misses_bind_of_done hdone (hnext value behind hbehind)

private theorem IsDigitLine.misses_moment {text : List Char} (h : IsDigitLine text) :
    moment.Misses text := by
  have hdate : date.Misses text :=
    (readsDigits_digits 4).misses_bind
      (fun _ _ hbehind => (hbehind.misses_symbol (by decide) (by decide)).bind _) h
  have htime : time.Misses text :=
    ((readsDigits_digits 2).refine _).misses_bind
      (fun _ _ hbehind => (hbehind.misses_symbol (by decide) (by decide)).bind _) h
  exact ((hdate.bind _).about .dateTime).orElse (htime.about .time)

private theorem scalar_of_isDigit {d : Char} (h : d.isDigit) (rest : List Char) :
    scalar (d :: rest) = numberOrMoment (d :: rest) := by
  have hdouble : d ≠ '"' := Text.ne_of_class h (by decide)
  have hsingle : d ≠ '\'' := Text.ne_of_class h (by decide)
  simp [scalar, hdouble, hsingle, h]

structure IsDecimal (digits : List Char) : Prop where
  isDigit : ∀ c ∈ digits, c.isDigit
  ne_nil : digits ≠ []
  unpadded : digits.head? = some '0' → digits = ['0']

theorem furtherDigits_append {digits : List Char} (h : ∀ c ∈ digits, c.isDigit)
    (rest : List Char) :
    furtherDigits Char.isDigit (digits ++ '\n' :: rest) = .done digits ('\n' :: rest) := by
  induction digits with
  | nil => rfl
  | cons d digits ih =>
      obtain ⟨hd, hdigits⟩ := List.forall_mem_cons.mp h
      have hunderscore : d ≠ '_' := Text.ne_of_class hd (by decide)
      simp [furtherDigits, hunderscore, hd, ih hdigits, Outcome.map]

theorem IsDecimal.minus_append {digits : List Char} (h : IsDecimal digits) (behind : List Char) :
    minus (digits ++ behind) = .done false (digits ++ behind) := by
  obtain ⟨d, digits, rfl⟩ := List.exists_cons_of_ne_nil h.ne_nil
  have hd := h.isDigit d List.mem_cons_self
  unfold minus
  split
  · simp_all
  · simp_all
  · rfl

theorem IsDecimal.wholeNumber_append {digits : List Char} (h : IsDecimal digits)
    (rest : List Char) :
    wholeNumber (digits ++ '\n' :: rest) = .done (false, digits) ('\n' :: rest) := by
  refine about_eq_done_iff.mpr (bind_eq_done_iff.mpr ⟨_, _, h.minus_append _, ?_⟩)
  obtain ⟨d, digits, rfl⟩ := List.exists_cons_of_ne_nil h.ne_nil
  obtain ⟨hd, hdigits⟩ := List.forall_mem_cons.mp h.isDigit
  refine bind_eq_done_iff.mpr ⟨d, digits ++ '\n' :: rest, by simp [Reader.satisfying, hd], ?_⟩
  by_cases hzero : d = '0'
  · obtain rfl : digits = [] := by simpa [hzero] using h.unpadded
    simp [hzero]
  · rw [if_neg hzero]
    exact bind_eq_done_iff.mpr ⟨_, _, furtherDigits_append hdigits rest, rfl⟩

private theorem IsDecimal.misses_float {digits : List Char} (h : IsDecimal digits)
    (rest : List Char) :
    float.Misses (digits ++ '\n' :: rest) := by
  have hexponent : exponentText.Misses ('\n' :: rest) :=
    (Reader.misses_satisfying (by simp)).bind _
  have hfraction : fractionAndExponent.Misses ('\n' :: rest) :=
    ((Reader.misses_satisfying (by simp)).bind _).bind _
  have hdecimal : decimalFloat.Misses (digits ++ '\n' :: rest) :=
    (misses_bind_of_done (h.wholeNumber_append rest)
      ((hexponent.orElse hfraction).bind _)).settle _
  have hspecial : specialFloat.Misses (digits ++ '\n' :: rest) := by
    refine misses_bind_of_done (h.minus_append _) ?_
    obtain ⟨d, digits, rfl⟩ := List.exists_cons_of_ne_nil h.ne_nil
    have hd := h.isDigit d List.mem_cons_self
    have hinfinity : infinity.Misses (d :: digits ++ '\n' :: rest) :=
      misses_literal (Text.ne_of_class hd (by decide)).symm
    have hnotANumber : notANumber.Misses (d :: digits ++ '\n' :: rest) :=
      misses_literal (Text.ne_of_class hd (by decide)).symm
    exact (hinfinity.bind _).orElse (hnotANumber.bind _)
  exact (hdecimal.orElse hspecial).about .float

theorem IsDecimal.integer_append {digits : List Char} (h : IsDecimal digits)
    (hbound : (Text.digitsValue digits : Int) ≤ greatestInteger) (rest : List Char) :
    integer (digits ++ '\n' :: rest) = .done (Text.digitsValue digits : Int) ('\n' :: rest) := by
  have hdecimal : decimalInteger (digits ++ '\n' :: rest) =
      .done (Text.digitsValue digits : Int) ('\n' :: rest) := by
    refine settle_eq_done_iff.mpr ⟨_, h.wholeNumber_append rest, ?_⟩
    have hleast : leastInteger ≤ (Text.digitsValue digits : Int) := by
      unfold leastInteger
      omega
    simp [boundInteger, Int.not_lt.mpr hbound, Int.not_lt.mpr hleast]
  -- A mark of another base would follow a zero, which is the only digit.
  have hunmarked (mark : Char) (behind : List Char) (hmark : mark ≠ '\n') :
      digits ++ '\n' :: rest ≠ '0' :: mark :: behind := by
    intro heq
    obtain ⟨d, digits, rfl⟩ := List.exists_cons_of_ne_nil h.ne_nil
    obtain ⟨rfl, hbehind⟩ := List.cons_eq_cons.mp heq
    obtain rfl : digits = [] := by simpa using h.unpadded rfl
    exact hmark (List.cons_eq_cons.mp hbehind).1.symm
  rw [← hdecimal]
  unfold integer
  split
  · rename_i heq
    exact absurd heq (hunmarked _ _ (by decide))
  · rename_i heq
    exact absurd heq (hunmarked _ _ (by decide))
  · rename_i heq
    exact absurd heq (hunmarked _ _ (by decide))
  · rfl

private theorem isDecimal_toDigits (number : Nat) : IsDecimal (Nat.toDigits 10 number) where
  isDigit _ hc := Nat.isDigit_of_mem_toDigits (by decide) (by decide) hc
  ne_nil := Nat.toDigits_ne_nil
  unpadded h := by
    rcases number.eq_zero_or_pos with rfl | hpositive
    · rfl
    · obtain ⟨first, rest, hdigits, -, hnonzero⟩ := Text.exists_toDigits_eq_cons hpositive
      exact absurd (by simpa [hdigits] using h) hnonzero

theorem natural_isWrittenAs {number : Nat} (h : (number : Int) ≤ greatestInteger) :
    IsWrittenAs number.repr.toList (.integer number) := by
  intro rest
  rw [Nat.toList_repr]
  have hdecimal := isDecimal_toDigits number
  have hinteger := hdecimal.integer_append (by rwa [Text.digitsValue_toDigits]) rest
  rw [Text.digitsValue_toDigits] at hinteger
  have hmoment : moment.Misses (Nat.toDigits 10 number ++ '\n' :: rest) :=
    IsDigitLine.misses_moment ⟨_, rest, hdecimal.isDigit, rfl⟩
  have hnumber : numberOrMoment (Nat.toDigits 10 number ++ '\n' :: rest) =
      .done (.integer number) ('\n' :: rest) := by
    rw [numberOrMoment, (hmoment.bind _).orElse_eq,
      ((hdecimal.misses_float rest).bind _).orElse_eq]
    exact bind_eq_done_iff.mpr ⟨_, _, hinteger, rfl⟩
  rw [← hnumber]
  obtain ⟨d, digits, hdigits⟩ := List.exists_cons_of_ne_nil hdecimal.ne_nil
  have hd := hdecimal.isDigit d (by simp [hdigits])
  rw [hdigits]
  exact scalar_of_isDigit hd _

end CitationFile.Toml
