import CitationFile.Proofs.Result
import CitationFile.Yaml.Token.Scalar
import CitationFile.Yaml.Token.Tag

namespace CitationFile.Yaml

def IsGapless (text : List Char) : Prop :=
  ∀ c ∈ text, isGap c = false

def gapChars : List Char :=
  [' ', '\t', '\n', '\r', '\u0085', '\u2028', '\u2029']

private theorem mem_gapChars {c : Char} (hgap : isGap c) : c ∈ gapChars := by
  simpa [gapChars, isGap, isSpace, isBreak, or_assoc] using hgap

theorem isGap_breakChar {c : Char} (hgap : isGap c) : isGap (breakChar c) := by
  have hall : gapChars.all fun c => isGap (breakChar c) := by decide
  exact List.all_eq_true.mp hall c (mem_gapChars hgap)

theorem isGapless_of_class {text : List Char} {p : Char → Bool} (hall : text.all p)
    (hnone : gapChars.all (!p ·)) : IsGapless text := by
  intro c hmem
  refine Bool.eq_false_iff.mpr fun hgap => ?_
  have hother := List.all_eq_true.mp hnone c (mem_gapChars hgap)
  rw [List.all_eq_true.mp hall c hmem] at hother
  cases hother

theorem isGapless_cons {c : Char} {text : List Char} (hfirst : isGap c = false)
    (hrest : IsGapless text) : IsGapless (c :: text) :=
  List.forall_mem_cons.mpr ⟨hfirst, hrest⟩

/-! Every reader of a part of a text stops further on in the same text. -/

namespace Cursor

/-- The other cursor is further on in the same text. -/
def Reaches (cursor behind : Cursor) : Prop :=
  ∃ count, behind.rest = cursor.rest.drop count ∧ behind.mark.index = cursor.mark.index + count

namespace Reaches

variable {cursor behind final : Cursor}

theorem refl (cursor : Cursor) : cursor.Reaches cursor :=
  ⟨0, rfl, rfl⟩

theorem trans (hfirst : cursor.Reaches behind) (hlast : behind.Reaches final) :
    cursor.Reaches final := by
  obtain ⟨count, hrest, hindex⟩ := hfirst
  obtain ⟨more, hrestMore, hindexMore⟩ := hlast
  refine ⟨count + more, ?_, ?_⟩
  · rw [hrestMore, hrest, List.drop_drop]
  · rw [hindexMore, hindex, Nat.add_assoc]

variable (hreaches : cursor.Reaches behind)
include hreaches

theorem skip (count : Nat) : cursor.Reaches (behind.skip count) :=
  hreaches.trans ⟨count, rfl, rfl⟩

theorem skipBreak : cursor.Reaches behind.skipBreak := by
  refine hreaches.trans ?_
  unfold Cursor.skipBreak
  split
  case h_1 rest heq => exact ⟨2, by rw [heq]; rfl, rfl⟩
  case h_2 first rest hother heq => exact ⟨1, by rw [heq]; rfl, rfl⟩
  case h_3 => exact .refl _

private theorem takeWhile (belongs : Char → Bool) : cursor.Reaches (behind.takeWhile belongs).2 :=
  hreaches.skip _

theorem skipWhile (belongs : Char → Bool) : cursor.Reaches (behind.skipWhile belongs) :=
  hreaches.takeWhile belongs

private theorem skipSpaces : cursor.Reaches behind.skipSpaces :=
  hreaches.skipWhile isSpace

theorem skipComment : cursor.Reaches behind.skipComment := by
  unfold Cursor.skipComment
  split
  · exact hreaches.skipWhile _
  · exact hreaches

end Reaches

end Cursor

/-- A reader that does not fail stops further on. -/
def Advances (cursor : Cursor) (result : Except ε (α × Cursor)) : Prop :=
  result.Ensures fun read => cursor.Reaches read.2

section Advances

variable {cursor behind : Cursor}

private theorem advances_ok {value : α} (hreaches : cursor.Reaches behind) :
    Advances cursor (.ok (value, behind) : Except ε (α × Cursor)) :=
  Except.ensures_ok hreaches

private theorem advances_error {flaw : ε} : Advances cursor (.error flaw : Except ε (α × Cursor)) :=
  Except.ensures_error

private theorem Advances.bind {result : Except ε (α × Cursor)}
    {next : α × Cursor → Except ε (β × Cursor)} (hreaches : cursor.Reaches behind)
    (hfirst : Advances behind result)
    (hlast : ∀ value middle, cursor.Reaches middle → Advances cursor (next (value, middle))) :
    Advances cursor (result >>= next) :=
  Except.Ensures.bind hfirst fun read hfurther => hlast read.1 read.2 (hreaches.trans hfurther)

end Advances

theorem readName_advances (activity : Activity) (cursor : Cursor) :
    Advances cursor (readName activity cursor) := by
  refine Except.ensures_bind fun _ => ?_
  split
  · exact advances_error
  · exact advances_ok (((Cursor.Reaches.refl cursor).skip 1).takeWhile _)

private theorem readTrailingOctets_advances (activity : Activity) (start : Mark) (count : Nat)
    (octets : List Nat) (cursor : Cursor) :
    Advances cursor (readTrailingOctets activity start count octets cursor) := by
  induction count generalizing octets cursor with
  | zero => exact advances_ok (.refl cursor)
  | succ count ih =>
      unfold readTrailingOctets
      refine Except.ensures_bind fun _ => ?_
      split
      · exact advances_error
      · split
        · exact fun read heq => ((Cursor.Reaches.refl cursor).skip 3).trans (ih _ _ read heq)
        · exact advances_error

private theorem readUriEscape_advances (activity : Activity) (start : Mark) (cursor : Cursor) :
    Advances cursor (readUriEscape activity start cursor) := by
  unfold readUriEscape
  refine Except.ensures_bind fun _ => ?_
  split
  · exact advances_error
  · split
    · exact advances_error
    · exact Advances.bind ((Cursor.Reaches.refl cursor).skip 3)
        (readTrailingOctets_advances _ _ _ _ _) fun _ _ hreaches => advances_ok hreaches

private theorem readUriChars_advances (verbatim : Bool) (activity : Activity) (start : Mark)
    (fuel : Nat) (uri : List Char) (cursor : Cursor) :
    Advances cursor (readUriChars verbatim activity start fuel uri cursor) := by
  have hself := Cursor.Reaches.refl cursor
  induction fuel generalizing uri cursor with
  | zero => exact advances_ok hself
  | succ fuel ih =>
      unfold readUriChars
      split
      · exact advances_ok hself
      · split
        · exact advances_ok hself
        · split
          · split
            · exact advances_error
            case h_2 chars behind heq =>
              exact fun read hfound => (readUriEscape_advances _ _ _ _ heq).trans
                (ih _ _ (.refl behind) read hfound)
          · exact fun read hfound => (hself.skip 1).trans (ih _ _ (.refl _) read hfound)

private theorem readUri_advances (verbatim : Bool) (activity : Activity) (opening : List Char)
    (start : Mark) (cursor : Cursor) :
    Advances cursor (readUri verbatim activity opening start cursor) := by
  refine Advances.bind (.refl cursor) (readUriChars_advances _ _ _ _ _ _) ?_
  intro uri behind hreaches
  refine Except.ensures_bind fun _ => ?_
  split
  · exact advances_error
  · exact advances_ok hreaches

private theorem readHandle_reaches (cursor : Cursor) : cursor.Reaches (readHandle cursor).2 := by
  have hname := ((Cursor.Reaches.refl cursor).skip 1).takeWhile isNameChar
  unfold readHandle
  dsimp only
  split
  · exact hname.skip 1
  · exact hname

private theorem readTagParts_advances (cursor : Cursor) :
    Advances cursor (readTagParts cursor) := by
  unfold readTagParts
  dsimp only
  split
  · refine Advances.bind ((Cursor.Reaches.refl cursor).skip 2) (readUri_advances _ _ _ _ _) ?_
    intro uri behind hreaches
    dsimp only
    split
    · exact advances_ok (hreaches.skip 1)
    · exact advances_error
  · split
    · refine Advances.bind (readHandle_reaches cursor) (readUri_advances _ _ _ _ _) ?_
      exact fun ending behind hreaches => advances_ok hreaches
    · refine Advances.bind (readHandle_reaches cursor) (readUri_advances _ _ _ _ _) ?_
      exact fun ending behind hreaches => advances_ok hreaches

theorem readTag_advances (inFlow : Bool) (cursor : Cursor) :
    Advances cursor (readTag inFlow cursor) := by
  refine Advances.bind (.refl cursor) (readTagParts_advances cursor) ?_
  intro parts behind hreaches
  refine Except.ensures_bind fun _ => ?_
  split
  · exact advances_ok hreaches
  · exact advances_error

private theorem readVersionNumber_advances (start : Mark) (cursor : Cursor) :
    Advances cursor (readVersionNumber start cursor) := by
  refine Except.ensures_bind fun _ => ?_
  split
  · exact advances_error
  · split
    · exact advances_error
    · exact advances_ok ((Cursor.Reaches.refl cursor).skip _)

private theorem readVersion_advances (start : Mark) (cursor : Cursor) :
    Advances cursor (readVersion start cursor) := by
  refine Advances.bind (Cursor.Reaches.refl cursor).skipSpaces (readVersionNumber_advances _ _) ?_
  intro major behind hreaches
  dsimp only
  split
  · exact advances_error
  · refine Advances.bind (hreaches.skip 1) (readVersionNumber_advances _ _) ?_
    exact fun minor behind hreaches => advances_ok hreaches

private theorem readDirectiveHandle_advances (start : Mark) (cursor : Cursor) :
    Advances cursor (readDirectiveHandle start cursor) := by
  refine Except.ensures_bind fun _ => ?_
  split
  · exact advances_error
  · refine Except.ensures_bind fun _ => ?_
    split
    · exact advances_ok (readHandle_reaches cursor)
    · exact advances_error

private theorem readTagDirective_advances (start : Mark) (cursor : Cursor) :
    Advances cursor (readTagDirective start cursor) := by
  refine Advances.bind (Cursor.Reaches.refl cursor).skipSpaces
    (readDirectiveHandle_advances _ _) ?_
  intro handle behind hreaches
  dsimp only
  split
  · exact advances_error
  · refine Advances.bind hreaches.skipSpaces (readUri_advances _ _ _ _ _) ?_
    intro uri behind hreaches
    dsimp only
    split
    · exact advances_ok hreaches
    · exact advances_error

theorem readDirective_advances (cursor : Cursor) : Advances cursor (readDirective cursor) := by
  have hname := ((Cursor.Reaches.refl cursor).skip 1).takeWhile isNameChar
  refine Except.ensures_bind fun _ => ?_
  split
  · exact advances_error
  · split
    · exact advances_error
    · refine Advances.bind hname ?_ ?_
      · unfold readDirectiveValue
        split
        · exact readVersion_advances _ _
        · split
          · exact readTagDirective_advances _ _
          · exact advances_error
      · intro kind behind hreaches
        refine Except.ensures_bind fun _ => ?_
        split
        · exact Except.ensures_bind fun _ =>
            advances_ok hreaches.skipSpaces.skipComment.skipBreak
        · exact advances_error

/-! None of these readers makes a scalar. -/

theorem readTag_other (inFlow : Bool) (cursor : Cursor) :
    (readTag inFlow cursor).Ensures fun read => ∀ text style, read.1 ≠ .scalar text style := by
  refine Except.ensures_bind fun parts => Except.ensures_bind fun _ => ?_
  split
  · exact Except.ensures_ok fun _ _ => nofun
  · exact Except.ensures_error

private theorem readVersion_other (start : Mark) (cursor : Cursor) :
    (readVersion start cursor).Ensures fun read => ∀ text style, read.1 ≠ .scalar text style := by
  refine Except.ensures_bind fun major => ?_
  dsimp only
  split
  · exact Except.ensures_error
  · exact Except.ensures_bind fun minor => Except.ensures_ok fun _ _ => nofun

private theorem readTagDirective_other (start : Mark) (cursor : Cursor) :
    (readTagDirective start cursor).Ensures fun read =>
      ∀ text style, read.1 ≠ .scalar text style := by
  refine Except.ensures_bind fun handle => ?_
  dsimp only
  split
  · exact Except.ensures_error
  · refine Except.ensures_bind fun uri => ?_
    split
    · exact Except.ensures_ok fun _ _ => nofun
    · exact Except.ensures_error

private theorem readDirectiveValue_other (name : List Char) (start : Mark) (cursor : Cursor) :
    (readDirectiveValue name start cursor).Ensures fun read =>
      ∀ text style, read.1 ≠ .scalar text style := by
  unfold readDirectiveValue
  split
  · exact readVersion_other start cursor
  · split
    · exact readTagDirective_other start cursor
    · exact Except.ensures_error

theorem readDirective_other (cursor : Cursor) :
    (readDirective cursor).Ensures fun read => ∀ text style, read.1.kind ≠ .scalar text style := by
  refine Except.ensures_bind fun _ => ?_
  split
  · exact Except.ensures_error
  · split
    · exact Except.ensures_error
    · refine Except.Ensures.bind (readDirectiveValue_other _ _ _) fun read hother => ?_
      refine Except.ensures_bind fun _ => ?_
      split
      · exact Except.ensures_bind fun _ => Except.ensures_ok hother
      · exact Except.ensures_error

section Gaps

variable (indent : Nat) (tabsIndent : Bool)

theorem readGap_reaches (fuel : Nat) (gap : Gap) (cursor : Cursor) :
    Advances cursor (readGap indent tabsIndent fuel gap cursor) ∧
      ∀ place, readGap indent tabsIndent fuel gap cursor = .error place →
        cursor.Reaches place := by
  have hself := Cursor.Reaches.refl cursor
  induction fuel generalizing gap cursor with
  | zero => exact ⟨advances_ok hself, fun _ heq => nomatch heq⟩
  | succ fuel ih =>
      have hfurther (next : Gap) {behind : Cursor} (hreaches : cursor.Reaches behind) :
          Advances cursor (readGap indent tabsIndent fuel next behind) ∧
            ∀ place, readGap indent tabsIndent fuel next behind = .error place →
              cursor.Reaches place := by
        obtain ⟨hreads, hrefuses⟩ := ih next behind (.refl behind)
        exact ⟨fun read heq => hreaches.trans (hreads read heq),
          fun place heq => hreaches.trans (hrefuses place heq)⟩
      unfold readGap
      split
      · exact ⟨advances_ok hself, fun _ heq => nomatch heq⟩
      · split
        · split
          · exact hfurther _ (hself.skip 1)
          · split
            · refine ⟨advances_error, fun place heq => ?_⟩
              cases heq
              exact hself
            · exact hfurther _ (hself.skip 1)
        · split
          · exact hfurther _ hself.skipBreak
          · exact ⟨advances_ok hself, fun _ heq => nomatch heq⟩

end Gaps

private theorem readEscape_advances (start : Mark) (cursor : Cursor) :
    Advances cursor (readEscape start cursor) := by
  have hself := Cursor.Reaches.refl cursor
  refine Except.ensures_bind fun _ => ?_
  split
  · exact advances_ok (hself.skip 2)
  · refine Except.ensures_bind fun _ => ?_
    split
    · exact advances_error
    · split
      · exact advances_ok ((hself.skip 2).skip _)
      · exact advances_error
  · exact advances_error

private theorem quotedWord_reaches (quote : Char) (start : Mark) (fuel : Nat) (word : List Char)
    (cursor : Cursor) :
    (quotedWord quote start fuel word cursor).Ensures fun read => cursor.Reaches read.cursor := by
  have hself := Cursor.Reaches.refl cursor
  induction fuel generalizing word cursor with
  | zero => exact Except.ensures_ok hself
  | succ fuel ih =>
      have hfurther (next : List Char) {behind : Cursor} (hreaches : cursor.Reaches behind) :
          (quotedWord quote start fuel next behind).Ensures fun read =>
            cursor.Reaches read.cursor :=
        fun read heq => hreaches.trans (ih next behind (.refl behind) read heq)
      unfold quotedWord
      split
      · exact Except.ensures_ok hself
      · split
        · exact Except.ensures_ok hself
        · split
          · exact hfurther _ (hself.skip 2)
          · split
            · exact Except.ensures_ok hself
            · split
              · split
                · exact Except.ensures_ok (hself.skip 1).skipBreak
                · split
                  · exact Except.ensures_error
                  case h_2 escaped behind heq =>
                    exact hfurther _ (readEscape_advances _ _ _ heq)
              · exact hfurther _ (hself.skip 1)

theorem quotedWords_reaches (quote : Char) (start : Mark) (fuel : Nat) (text : List Char)
    (cursor : Cursor) :
    (quotedWords quote start fuel text cursor).Ensures fun read => cursor.Reaches read.cursor := by
  have hself := Cursor.Reaches.refl cursor
  induction fuel generalizing text cursor with
  | zero => exact Except.ensures_ok hself
  | succ fuel ih =>
      unfold quotedWords
      refine Except.ensures_bind fun _ => ?_
      split
      · exact Except.ensures_error
      · split
        · exact Except.ensures_error
        · refine Except.Ensures.bind (quotedWord_reaches _ _ _ _ _) fun word hreaches => ?_
          refine Except.ensures_bind fun _ => ?_
          split
          · exact Except.ensures_ok (hreaches.skip 1)
          · obtain ⟨hreads, hrefuses⟩ := readGap_reaches 0 true word.cursor.rest.length
              { joined := word.joins } word.cursor
            split
            case h_1 place hrefused =>
              exact Except.ensures_ok (hreaches.trans (hrefuses _ hrefused))
            case h_2 gap behind hread =>
              exact fun last hfound =>
                (hreaches.trans (hreads _ hread)).trans (ih _ _ (.refl behind) last hfound)

private theorem readChomping_reaches (header : BlockHeader) (cursor : Cursor) :
    cursor.Reaches (readChomping header cursor).2 := by
  unfold readChomping
  split
  · exact (Cursor.Reaches.refl cursor).skip 1
  · exact .refl cursor

private theorem readIncrement_advances (start : Mark) (header : BlockHeader) (cursor : Cursor) :
    Advances cursor (readIncrement start header cursor) := by
  have hself := Cursor.Reaches.refl cursor
  refine Except.ensures_bind fun _ => ?_
  split
  · split
    · exact advances_error
    · split
      · exact advances_ok (hself.skip 1)
      · exact advances_ok hself
  · exact advances_ok hself

private theorem readBlockHeader_advances (start : Mark) (cursor : Cursor) :
    Advances cursor (readBlockHeader start cursor) := by
  have hopening := readChomping_reaches {} cursor
  unfold readBlockHeader
  generalize readChomping {} cursor = first at hopening ⊢
  refine Advances.bind hopening (readIncrement_advances _ _ _) ?_
  intro second behind hreaches
  dsimp only
  have hending : cursor.Reaches (if first.1.chomping = .clip ∧ second.increment.isSome then
      readChomping second behind else (second, behind)).2 := by
    split
    · exact hreaches.trans (readChomping_reaches second behind)
    · exact hreaches
  generalize (if first.1.chomping = .clip ∧ second.increment.isSome then
    readChomping second behind else (second, behind)) = last at hending ⊢
  refine Except.ensures_bind fun _ => ?_
  split
  · exact advances_error
  · exact advances_ok hending.skipSpaces.skipComment.skipBreak

private theorem skipIndentation_reaches (indent : Option Nat) (fuel : Nat) (cursor : Cursor) :
    cursor.Reaches (skipIndentation indent fuel cursor) := by
  induction fuel generalizing cursor with
  | zero => exact .refl cursor
  | succ fuel ih =>
      unfold skipIndentation
      split
      · exact ((Cursor.Reaches.refl cursor).skip 1).trans (ih _)
      · exact .refl cursor

private theorem readEmptyLines_reaches (indent : Option Nat) (start : Mark) (fuel : Nat)
    (lines : EmptyLines) :
    (readEmptyLines indent start fuel lines).Ensures fun read =>
      lines.cursor.Reaches read.cursor := by
  induction fuel generalizing lines with
  | zero => exact Except.ensures_ok (.refl _)
  | succ fuel ih =>
      have hreaches := skipIndentation_reaches indent lines.cursor.rest.length lines.cursor
      unfold readEmptyLines
      refine Except.ensures_bind fun _ => ?_
      split
      · exact Except.ensures_error
      · split
        · split
          · exact fun read heq => hreaches.skipBreak.trans (ih _ read heq)
          · exact Except.ensures_ok hreaches
        · exact Except.ensures_ok hreaches

private theorem readBlockLines_reaches (folds : Bool) (indent : Nat) (start : Mark) (fuel : Nat)
    (lines : BlockLines) :
    (readBlockLines folds indent start fuel lines).Ensures fun read =>
      lines.cursor.Reaches read.cursor := by
  have hself := Cursor.Reaches.refl lines.cursor
  induction fuel generalizing lines with
  | zero => exact Except.ensures_ok hself
  | succ fuel ih =>
      unfold readBlockLines
      split
      · exact Except.ensures_ok hself
      · split
        · exact Except.ensures_ok hself
        · dsimp only
          split
          · exact Except.ensures_error
          case h_2 next heq =>
            have hreaches := readEmptyLines_reaches _ _ _ _ _ heq
            exact fun read hfound => ((hself.takeWhile _).skipBreak.trans hreaches).trans
              (ih _ (.refl _) read hfound)

theorem blockScalar_reaches (folds : Bool) (parent : Int) (cursor : Cursor) :
    (blockScalar folds parent cursor).Ensures fun read => cursor.Reaches read.cursor := by
  refine Except.Ensures.bind (readBlockHeader_advances _ _) fun header hreaches => ?_
  refine Except.Ensures.bind (readEmptyLines_reaches _ _ _ _) fun leading hfurther => ?_
  refine Except.Ensures.bind (readBlockLines_reaches _ _ _ _ _) fun lines hfinal => ?_
  exact Except.ensures_ok
    ((((Cursor.Reaches.refl cursor).skip 1).trans hreaches).trans (hfurther.trans hfinal))

end CitationFile.Yaml
