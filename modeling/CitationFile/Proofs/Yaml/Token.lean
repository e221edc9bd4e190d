import CitationFile.Proofs.Yaml.Cursor
import CitationFile.Yaml.Token.Stream
import Mathlib.Data.List.InsertIdx

/-! Plain scalars without gaps are copied from the text, character by character, and the marks of
their tokens tell where they stand. -/

namespace CitationFile.Yaml

/-- A text without gaps stands at the beginning of another one. -/
def IsCopied (text source : List Char) : Prop :=
  IsGapless text → text <+: source

namespace Gap

structure IsPlain (gap : Gap) : Prop where
  apart : gap.joined = false
  blanks : ∀ c ∈ gap.blanks, isGap c
  breaks : ∀ c ∈ gap.breaks, isGap c

def Begins (gap : Gap) : Prop :=
  gap.blanks ≠ [] ∨ gap.breaks ≠ []

namespace IsPlain

variable {gap : Gap} {c : Char}

private theorem empty : ({} : Gap).IsPlain :=
  ⟨rfl, by simp, by simp⟩

private theorem addBlank (hplain : gap.IsPlain) (hspace : isSpace c) :
    { gap with blanks := gap.blanks ++ [c] : Gap }.IsPlain where
  apart := hplain.apart
  blanks := List.forall_mem_append.mpr ⟨hplain.blanks, by simp [isGap, hspace]⟩
  breaks := hplain.breaks

private theorem addBreak (hplain : gap.IsPlain) (hbreak : isBreak c) :
    { gap with breaks := gap.breaks ++ [breakChar c] : Gap }.IsPlain where
  apart := hplain.apart
  blanks := hplain.blanks
  breaks := by
    have hgap : isGap c := by simp [isGap, hbreak]
    exact List.forall_mem_append.mpr ⟨hplain.breaks, by simp [isGap_breakChar hgap]⟩

private theorem exists_isGap (hplain : gap.IsPlain) (hbegins : gap.Begins) :
    ∃ c ∈ gap.fold, isGap c := by
  unfold fold
  rw [if_neg (by rw [hplain.apart]; exact Bool.false_ne_true)]
  split
  case h_1 hnoBreaks =>
    have hblanks := hbegins.resolve_right (not_not.mpr hnoBreaks)
    obtain ⟨c, hmem⟩ := List.exists_mem_of_ne_nil _ hblanks
    exact ⟨c, hmem, hplain.blanks c hmem⟩
  case h_2 => exact ⟨' ', List.mem_singleton_self _, rfl⟩
  case h_3 more hother heq =>
    cases more with
    | nil => exact absurd rfl hother
    | cons c more => exact ⟨c, List.mem_cons_self, hplain.breaks c (by rw [heq]; simp)⟩
  case h_4 breaks hnoBreaks _ _ =>
    obtain ⟨c, hmem⟩ := List.exists_mem_of_ne_nil gap.breaks (hnoBreaks ·)
    exact ⟨c, hmem, hplain.breaks c hmem⟩

end IsPlain

end Gap

private theorem readGap_isPlain {indent : Nat} {tabsIndent : Bool} (fuel : Nat) {gap : Gap}
    (hplain : gap.IsPlain) (cursor : Cursor) :
    (readGap indent tabsIndent fuel gap cursor).Ensures fun read =>
      read.1.IsPlain ∧ (gap.Begins → read.1.Begins) := by
  induction fuel generalizing gap cursor with
  | zero => exact Except.ensures_ok ⟨hplain, id⟩
  | succ fuel ih =>
      unfold readGap
      split
      · exact Except.ensures_ok ⟨hplain, id⟩
      · split
        case isTrue hspace =>
          split
          · intro read heq
            obtain ⟨hplain, hbegins⟩ := ih (hplain.addBlank hspace) _ read heq
            exact ⟨hplain, fun _ => hbegins (.inl (by simp))⟩
          · split
            · exact Except.ensures_error
            · exact ih hplain _
        · split
          case isTrue hbreak =>
            intro read heq
            obtain ⟨hplain, hbegins⟩ := ih (hplain.addBreak hbreak) _ read heq
            exact ⟨hplain, fun _ => hbegins (.inr (by simp))⟩
          case isFalse => exact Except.ensures_ok ⟨hplain, id⟩

private theorem readGap_exists_isGap {indent : Nat} {tabsIndent : Bool} {cursor : Cursor}
    (hhere : cursor.peek?.any isGap) :
    (readGap indent tabsIndent cursor.rest.length {} cursor).Ensures fun read =>
      ∃ c ∈ read.1.fold, isGap c := by
  obtain ⟨c, hpeek, hgapHere⟩ := (Option.any_eq_true _ _).mp hhere
  obtain ⟨rest, hrest⟩ := List.head?_eq_some_iff.mp hpeek
  rw [hrest, List.length_cons]
  unfold readGap
  rw [hpeek]
  dsimp only
  intro read heq
  split at heq
  case isTrue hspace =>
    obtain ⟨hplain, hbegins⟩ := readGap_isPlain _ (Gap.IsPlain.empty.addBlank hspace) _ read heq
    exact hplain.exists_isGap (hbegins (.inl (by simp)))
  case isFalse hnoSpace =>
    have hbreak : isBreak c := by simpa [isGap, hnoSpace] using hgapHere
    rw [if_pos hbreak] at heq
    obtain ⟨hplain, hbegins⟩ := readGap_isPlain _ (Gap.IsPlain.empty.addBreak hbreak) _ read heq
    exact hplain.exists_isGap (hbegins (.inr (by simp)))

private theorem plainWord_spec (inFlow : Bool) (fuel : Nat) (word : List Char) (cursor : Cursor) :
    (plainWord inFlow fuel word cursor).Ensures fun read =>
      cursor.Reaches read.2 ∧ ∃ more, read.1 = word ++ more ∧ more <+: cursor.rest := by
  induction fuel generalizing word cursor with
  | zero => exact Except.ensures_ok ⟨.refl cursor, [], by simp⟩
  | succ fuel ih =>
      have hstay : cursor.Reaches cursor ∧ ∃ more, word = word ++ more ∧ more <+: cursor.rest :=
        ⟨.refl cursor, [], by simp⟩
      unfold plainWord
      split
      · exact Except.ensures_ok hstay
      case h_2 c hpeek =>
        split
        · exact Except.ensures_ok hstay
        · split
          · exact Except.ensures_error
          · split
            · exact Except.ensures_ok hstay
            · intro read heq
              obtain ⟨hreaches, more, hread, hcopied⟩ := ih _ _ read heq
              obtain ⟨rest, hrest⟩ := List.head?_eq_some_iff.mp hpeek
              refine ⟨((Cursor.Reaches.refl cursor).skip 1).trans hreaches, c :: more, ?_, ?_⟩
              · rw [hread, List.append_assoc, List.singleton_append]
              · rw [hrest, List.cons_prefix_cons]
                simpa [Cursor.skip, hrest] using hcopied

/-- What further words make of a text: a first one is copied behind the gap, and with a second one
there is a gap in the text. -/
inductive Continues (text : List Char) (gap : Gap) (rest : List Char) : List Char → Prop
  | same : Continues text gap rest text
  | word {word : List Char} (hcopied : word <+: rest) :
      Continues text gap rest (text ++ gap.fold ++ word)
  | gapped {read : List Char} (hhere : ∃ c ∈ read, isGap c) : Continues text gap rest read

theorem Continues.trans {text read final rest behind : List Char} {gap next : Gap}
    (hfirst : Continues text gap rest read) (hhere : ∃ c ∈ next.fold, isGap c)
    (hsecond : Continues read next behind final) : Continues text gap rest final := by
  cases hsecond with
  | same => exact hfirst
  | word hcopied =>
      obtain ⟨c, hmem, hgapHere⟩ := hhere
      exact .gapped
        ⟨c, List.mem_append_left _ (List.mem_append_right _ hmem), hgapHere⟩
  | gapped hhere => exact .gapped hhere

private theorem plainWords_spec (inFlow : Bool) (indent : Nat) (start : Mark) (fuel : Nat)
    (text : List Char) (gap : Gap) (finish : Mark) (cursor : Cursor) :
    (plainWords inFlow indent start fuel text gap finish cursor).Ensures fun read =>
      cursor.Reaches read.cursor ∧ Continues text gap cursor.rest read.text := by
  have hself := Cursor.Reaches.refl cursor
  induction fuel generalizing text gap finish cursor with
  | zero => exact Except.ensures_ok ⟨hself, .same⟩
  | succ fuel ih =>
      unfold plainWords
      refine Except.ensures_bind fun _ => ?_
      split
      · exact Except.ensures_ok ⟨hself, .same⟩
      · split
        · exact Except.ensures_bind fun _ => Except.ensures_error
        case h_2 word behind heq =>
          obtain ⟨hreaches, more, hword, hcopied⟩ := plainWord_spec _ _ _ _ _ heq
          rw [List.nil_append] at hword
          subst hword
          have hwhole : Continues text gap cursor.rest
              (if word = [] then text else text ++ gap.fold ++ word) := by
            split
            · exact .same
            · exact .word hcopied
          refine Except.ensures_bind fun _ => ?_
          generalize (if word = [] then text else text ++ gap.fold ++ word) = read at hwhole ⊢
          dsimp only
          split
          · exact Except.ensures_ok ⟨hreaches, hwhole⟩
          case isFalse hatGap =>
            split
            · exact Except.ensures_bind fun _ => Except.ensures_error
            case h_2 next after hgap =>
              refine Except.ensures_bind fun _ => ?_
              have hhere := readGap_exists_isGap (by simpa using hatGap) _ hgap
              have hfurther := hreaches.trans ((readGap_reaches _ _ _ _ _).1 _ hgap)
              split
              · exact Except.ensures_ok ⟨hfurther, hwhole⟩
              · intro last hfound
                obtain ⟨hfinal, hcontinues⟩ := ih _ _ _ _ (.refl after) last hfound
                exact ⟨hfurther.trans hfinal, hwhole.trans hhere hcontinues⟩

private theorem plainScalar_spec (inFlow : Bool) (indent : Nat) (cursor : Cursor) :
    (plainScalar inFlow indent cursor).Ensures fun read =>
      cursor.Reaches read.cursor ∧ IsCopied read.text cursor.rest := by
  intro read heq
  obtain ⟨hreaches, hcontent⟩ := plainWords_spec _ _ _ _ _ _ _ _ read heq
  refine ⟨hreaches, fun hgapless => ?_⟩
  generalize read.text = text at hcontent hgapless ⊢
  cases hcontent with
  | same => exact List.nil_prefix
  | word hcopied => exact hcopied
  | gapped hhere =>
      obtain ⟨c, hmem, hgapHere⟩ := hhere
      rw [hgapless c hmem] at hgapHere
      cases hgapHere

/-- If it is a plain scalar without gaps, its text stands in the source at its mark. -/
def Token.IsWritten (source : List Char) (token : Token) : Prop :=
  ∀ text, token.kind = .scalar text .plain → IsCopied text (source.drop token.start.index)

/-- The text behind a cursor is what follows its mark, and of the tokens held back those that are
plain scalars are written in the source. -/
structure Tokenizer.Follows (source : List Char) (t : Tokenizer) : Prop where
  place : Cursor.Reaches { rest := source } t.cursor
  held : ∀ token ∈ t.held, token.IsWritten source

namespace Tokenizer

variable {source : List Char} {t : Tokenizer}

namespace Follows

section Changes

variable (hfollows : t.Follows source)
include hfollows

private theorem rest_eq : t.cursor.rest = source.drop t.cursor.mark.index := by
  obtain ⟨count, hrest, hindex⟩ := hfollows.place
  rw [hrest, hindex, Nat.zero_add]

private theorem append {token : Token} (hwritten : token.IsWritten source) :
    (t.append token).Follows source where
  place := hfollows.place
  held := List.forall_mem_append.mpr ⟨hfollows.held, by simpa using hwritten⟩

private theorem insert (number : Nat) {token : Token} (hwritten : token.IsWritten source) :
    (t.insert number token).Follows source where
  place := hfollows.place
  held := by
    intro other hmem
    rcases List.eq_or_mem_of_mem_insertIdx hmem with rfl | hmem
    · exact hwritten
    · exact hfollows.held other hmem

private theorem appendMark (kind : Token.Kind) (hother : ∀ text, kind ≠ .scalar text .plain)
    (length : Nat) : (t.appendMark kind length).Follows source where
  place := hfollows.place.skip length
  held := (hfollows.append fun text heq => absurd heq (hother text)).held

private theorem openBlock (kind : Token.Kind) (hother : ∀ text, kind ≠ .scalar text .plain)
    (column number : Nat) (mark : Mark) :
    (t.openBlock column number kind mark).Follows source := by
  unfold Tokenizer.openBlock
  split
  · exact ⟨hfollows.place, (hfollows.insert _ fun text heq => absurd heq (hother text)).held⟩
  · exact hfollows

private theorem closeBlocks (column : Int) : (t.closeBlocks column).Follows source := by
  unfold Tokenizer.closeBlocks
  split
  · exact hfollows
  · refine ⟨hfollows.place, List.forall_mem_append.mpr ⟨hfollows.held, fun token hmem => ?_⟩⟩
    rw [List.eq_of_mem_replicate hmem]
    exact fun text heq => nomatch heq

private theorem dropCandidate : t.dropCandidate.Ensures (·.Follows source) := by
  unfold Tokenizer.dropCandidate
  split
  · split
    · exact Except.ensures_error
    · exact Except.ensures_ok ⟨hfollows.place, hfollows.held⟩
  · exact Except.ensures_ok hfollows

private theorem saveCandidate : t.saveCandidate.Ensures (·.Follows source) := by
  unfold Tokenizer.saveCandidate
  dsimp only
  split
  · intro next heq
    cases hdropped : t.dropCandidate with
    | error flaw =>
        rw [hdropped] at heq
        cases heq
    | ok between =>
        rw [hdropped] at heq
        cases heq
        obtain ⟨hplace, hheld⟩ := hfollows.dropCandidate between hdropped
        exact ⟨hplace, hheld⟩
  · exact Except.ensures_ok hfollows

private theorem dropStale : t.dropStale.Ensures (·.Follows source) :=
  Except.ensures_bind fun _ => Except.ensures_bind fun _ =>
    Except.ensures_ok ⟨hfollows.place, hfollows.held⟩

end Changes

private theorem skipGaps (fuel : Nat) (hfollows : t.Follows source) :
    (Tokenizer.skipGaps fuel t).Follows source := by
  induction fuel generalizing t with
  | zero => exact hfollows
  | succ fuel ih =>
      have hplace : Cursor.Reaches { rest := source }
          (if t.cursor.mark.index = 0 && t.cursor.isAt '\ufeff' then t.cursor.skip
            else t.cursor) := by
        split
        · exact hfollows.place.skip 1
        · exact hfollows.place
      unfold Tokenizer.skipGaps
      dsimp only
      generalize (if t.cursor.mark.index = 0 && t.cursor.isAt '\ufeff' then t.cursor.skip
        else t.cursor) = start at hplace ⊢
      have hplace := (hplace.skipWhile t.isGapHere).skipComment
      split
      · exact ih ⟨hplace.skipBreak, hfollows.held⟩
      · exact ⟨hplace, hfollows.held⟩

end Follows

section Takes

variable (hfollows : t.Follows source)
include hfollows

private theorem takeEnd_follows : t.takeEnd.Ensures (·.Follows source) := by
  have hended (mark : Mark) (hindex : mark.index = t.cursor.mark.index) :
      { t with cursor := { t.cursor with mark } : Tokenizer }.Follows source := by
    obtain ⟨count, hrest, hindexEq⟩ := hfollows.place
    exact ⟨⟨count, hrest, hindex.trans hindexEq⟩, hfollows.held⟩
  unfold takeEnd
  dsimp only
  generalize hmark : (if t.cursor.mark.column = 0 then t.cursor.mark
    else t.cursor.mark.newLine 0) = mark
  have hindex : mark.index = t.cursor.mark.index := by
    rw [← hmark]
    split
    · rfl
    · rfl
  refine Except.Ensures.bind ((hended mark hindex).closeBlocks _).dropCandidate ?_
  intro next hfollows
  obtain ⟨hplace, hheld⟩ := hfollows.append (fun text heq => nomatch heq :
    (⟨.streamEnd, mark, mark⟩ : Token).IsWritten source)
  exact Except.ensures_ok ⟨hplace, hheld⟩

private theorem takeDirective_follows : t.takeDirective.Ensures (·.Follows source) := by
  refine Except.Ensures.bind (hfollows.closeBlocks _).dropCandidate fun next hfollows => ?_
  refine Except.Ensures.bind ((readDirective_advances _).and (readDirective_other _)) ?_
  intro read hspec
  refine Except.ensures_ok ⟨hfollows.place.trans hspec.1, ?_⟩
  exact (hfollows.append fun text heq => absurd heq (hspec.2 text .plain)).held

private theorem takeDocumentMark_follows (kind : Token.Kind)
    (hother : ∀ text, kind ≠ .scalar text .plain) :
    (t.takeDocumentMark kind).Ensures (·.Follows source) := by
  refine Except.Ensures.bind (hfollows.closeBlocks _).dropCandidate fun next hfollows => ?_
  obtain ⟨hplace, hheld⟩ := hfollows.appendMark kind hother 3
  exact Except.ensures_ok ⟨hplace, hheld⟩

private theorem takeCollectionStart_follows (kind : Token.Kind)
    (hother : ∀ text, kind ≠ .scalar text .plain) :
    (t.takeCollectionStart kind).Ensures (·.Follows source) := by
  refine Except.Ensures.bind hfollows.saveCandidate fun next hfollows => ?_
  obtain ⟨hplace, hheld⟩ := hfollows.appendMark kind hother 1
  exact Except.ensures_ok ⟨hplace, hheld⟩

private theorem takeCollectionEnd_follows (kind : Token.Kind)
    (hother : ∀ text, kind ≠ .scalar text .plain) :
    (t.takeCollectionEnd kind).Ensures (·.Follows source) := by
  refine Except.Ensures.bind hfollows.dropCandidate fun next hfollows => ?_
  obtain ⟨hplace, hheld⟩ := hfollows.appendMark kind hother 1
  dsimp only
  split
  · exact Except.ensures_ok ⟨hplace, hheld⟩
  · exact Except.ensures_ok ⟨hplace, hheld⟩

private theorem takeFlowEntry_follows : t.takeFlowEntry.Ensures (·.Follows source) := by
  refine Except.Ensures.bind hfollows.dropCandidate fun next hfollows => ?_
  obtain ⟨hplace, hheld⟩ := hfollows.appendMark .flowEntry (fun _ => nofun) 1
  exact Except.ensures_ok ⟨hplace, hheld⟩

private theorem takeBlockEntry_follows : t.takeBlockEntry.Ensures (·.Follows source) := by
  have hopened := hfollows.openBlock .blockSequenceStart (fun _ => nofun)
    t.cursor.mark.column t.nextNumber t.cursor.mark
  unfold takeBlockEntry
  dsimp only
  split
  · exact Except.ensures_error
  · refine Except.Ensures.bind hopened.dropCandidate fun next hfollows => ?_
    obtain ⟨hplace, hheld⟩ := hfollows.appendMark .blockEntry (fun _ => nofun) 1
    exact Except.ensures_ok ⟨hplace, hheld⟩

private theorem takeKey_follows : t.takeKey.Ensures (·.Follows source) := by
  have hopened := hfollows.openBlock .blockMappingStart (fun _ => nofun)
    t.cursor.mark.column t.nextNumber t.cursor.mark
  unfold takeKey
  dsimp only
  split
  · exact Except.ensures_error
  · refine Except.Ensures.bind hopened.dropCandidate fun next hfollows => ?_
    obtain ⟨hplace, hheld⟩ := hfollows.appendMark .key (fun _ => nofun) 1
    exact Except.ensures_ok ⟨hplace, hheld⟩

private theorem takeValue_follows : t.takeValue.Ensures (·.Follows source) := by
  unfold takeValue
  split
  case h_1 key hfound =>
    have hkeyed := hfollows.insert key.tokenNumber (fun text heq => nomatch heq :
      (⟨.key, key.mark, key.mark⟩ : Token).IsWritten source)
    have hopened := hkeyed.openBlock .blockMappingStart (fun _ => nofun) key.mark.column
      key.tokenNumber key.mark
    obtain ⟨hplace, hheld⟩ := hopened.appendMark .value (fun _ => nofun) 1
    exact Except.ensures_ok ⟨hplace, hheld⟩
  case h_2 =>
    split
    · exact Except.ensures_error
    · have hopened := hfollows.openBlock .blockMappingStart (fun _ => nofun)
        t.cursor.mark.column t.nextNumber t.cursor.mark
      obtain ⟨hplace, hheld⟩ := hopened.appendMark .value (fun _ => nofun) 1
      exact Except.ensures_ok ⟨hplace, hheld⟩

private theorem takeName_follows (activity : Activity) {kind : List Char → Token.Kind}
    (hother : ∀ name text, kind name ≠ .scalar text .plain) :
    (t.takeName activity kind).Ensures (·.Follows source) := by
  refine Except.Ensures.bind hfollows.saveCandidate fun next hfollows => ?_
  refine Except.Ensures.bind (readName_advances _ _) fun read hreaches => ?_
  refine Except.ensures_ok ⟨hfollows.place.trans hreaches, ?_⟩
  exact (hfollows.append fun text heq => absurd heq (hother _ text)).held

private theorem takeTag_follows : t.takeTag.Ensures (·.Follows source) := by
  refine Except.Ensures.bind hfollows.saveCandidate fun next hfollows => ?_
  refine Except.Ensures.bind ((readTag_advances _ _).and (readTag_other _ _)) fun read hspec => ?_
  refine Except.ensures_ok ⟨hfollows.place.trans hspec.1, ?_⟩
  exact (hfollows.append fun text heq => absurd heq (hspec.2 text .plain)).held

private theorem takeBlockScalar_follows {style : ScalarStyle} (hother : style ≠ .plain) :
    (t.takeBlockScalar style).Ensures (·.Follows source) := by
  refine Except.Ensures.bind hfollows.dropCandidate fun next hfollows => ?_
  refine Except.Ensures.bind (blockScalar_reaches _ _ _) fun read hreaches => ?_
  refine Except.ensures_ok ⟨hfollows.place.trans hreaches, ?_⟩
  refine (hfollows.append fun text heq => ?_).held
  exact absurd (Token.Kind.scalar.inj heq).2 hother

private theorem takeQuotedScalar_follows (quote : Char) {style : ScalarStyle}
    (hother : style ≠ .plain) :
    (t.takeQuotedScalar quote style).Ensures (·.Follows source) := by
  refine Except.Ensures.bind hfollows.saveCandidate fun next hfollows => ?_
  refine Except.Ensures.bind (quotedWords_reaches _ _ _ _ _) fun read hreaches => ?_
  refine Except.ensures_ok ⟨(hfollows.place.skip 1).trans hreaches, ?_⟩
  refine (hfollows.append fun text heq => ?_).held
  exact absurd (Token.Kind.scalar.inj heq).2 hother

private theorem takePlainScalar_follows : t.takePlainScalar.Ensures (·.Follows source) := by
  refine Except.Ensures.bind hfollows.saveCandidate fun next hfollows => ?_
  refine Except.Ensures.bind (plainScalar_spec _ _ _) fun read hspec => ?_
  obtain ⟨hreaches, hcopied⟩ := hspec
  refine Except.ensures_ok ⟨hfollows.place.trans hreaches, ?_⟩
  refine (hfollows.append fun text heq => ?_).held
  rw [← (Token.Kind.scalar.inj heq).1]
  exact hfollows.rest_eq ▸ hcopied

private theorem takeToken_follows : t.takeToken.Ensures (·.Follows source) := by
  unfold takeToken
  dsimp only
  cases t.cursor.peek? with
  | none => exact takeEnd_follows hfollows
  | some c =>
      refine .ite (takeDirective_follows hfollows) ?_
      refine .ite (takeDocumentMark_follows hfollows .documentStart fun _ => nofun) ?_
      refine .ite (takeDocumentMark_follows hfollows .documentEnd fun _ => nofun) ?_
      refine .ite (takeCollectionStart_follows hfollows .flowSequenceStart fun _ => nofun) ?_
      refine .ite (takeCollectionStart_follows hfollows .flowMappingStart fun _ => nofun) ?_
      refine .ite (takeCollectionEnd_follows hfollows .flowSequenceEnd fun _ => nofun) ?_
      refine .ite (takeCollectionEnd_follows hfollows .flowMappingEnd fun _ => nofun) ?_
      refine .ite (takeFlowEntry_follows hfollows) ?_
      refine .ite (takeBlockEntry_follows hfollows) ?_
      refine .ite (takeKey_follows hfollows) ?_
      refine .ite (takeValue_follows hfollows) ?_
      refine .ite (takeName_follows hfollows .aliasName fun _ _ => nofun) ?_
      refine .ite (takeName_follows hfollows .anchorName fun _ _ => nofun) ?_
      refine .ite (takeTag_follows hfollows) ?_
      refine .ite (takeBlockScalar_follows hfollows nofun) ?_
      refine .ite (takeBlockScalar_follows hfollows nofun) ?_
      refine .ite (takeQuotedScalar_follows hfollows '\'' nofun) ?_
      refine .ite (takeQuotedScalar_follows hfollows '"' nofun) ?_
      exact .ite (takePlainScalar_follows hfollows) Except.ensures_error

private theorem takeNext_follows : t.takeNext.Ensures (·.Follows source) := by
  refine Except.ensures_bind fun _ => ?_
  refine Except.Ensures.bind (hfollows.skipGaps _).dropStale fun next hfollows => ?_
  refine Except.ensures_bind fun _ => ?_
  refine Except.Ensures.bind (takeToken_follows (hfollows.closeBlocks _)) fun next hfollows => ?_
  exact hfollows.dropStale

end Takes

private theorem isWritten_of_mem_run (fuel : Nat) (hfollows : t.Follows source) :
    ∀ token ∈ (run fuel t).items, token.IsWritten source := by
  induction fuel generalizing t with
  | zero => exact hfollows.held
  | succ fuel ih =>
      unfold run
      split
      · simp
      case h_2 next htaken =>
        have hfollows := takeNext_follows hfollows next htaken
        have hreleased : ∀ token ∈ next.released.1, token.IsWritten source :=
          fun token hmem => hfollows.held token (List.mem_of_mem_take hmem)
        have hkept : next.released.2.Follows source :=
          ⟨hfollows.place, fun token hmem => hfollows.held token (List.mem_of_mem_drop hmem)⟩
        dsimp only
        split
        · exact List.forall_mem_append.mpr ⟨hreleased, hkept.held⟩
        · exact List.forall_mem_append.mpr ⟨hreleased, ih hkept⟩

end Tokenizer

theorem Token.isWritten_of_mem_ofText {source : List Char} :
    ∀ token ∈ (Token.ofText source).items, token.IsWritten source := by
  intro token hmem
  rcases List.mem_cons.mp hmem with rfl | hmem
  · exact fun text heq => nomatch heq
  · refine Tokenizer.isWritten_of_mem_run _ ⟨?_, by simp⟩ token hmem
    exact ⟨0, rfl, rfl⟩

end CitationFile.Yaml
