namespace CitationFile.Text

def cutAtFirst? (mark : List Char) : List Char → Option (List Char × List Char)
  | [] => if mark = [] then some ([], []) else none
  | c :: rest =>
      if mark.isPrefixOf (c :: rest) then some ([], (c :: rest).drop mark.length)
      else (cutAtFirst? mark rest).map fun cut => (c :: cut.1, cut.2)

def beforeLast? (mark : List Char) : List Char → Option (List Char)
  | [] => if mark = [] then some [] else none
  | c :: rest =>
      match beforeLast? mark rest with
      | some before => some (c :: before)
      | none => if mark.isPrefixOf (c :: rest) then some [] else none

theorem cutAtFirst?_mark_append (c : Char) (mark behind : List Char) :
    cutAtFirst? (c :: mark) (c :: mark ++ behind) = some ([], behind) := by
  simp [cutAtFirst?, List.isPrefixOf_iff_prefix]

theorem cutAtFirst?_char {c : Char} {before : List Char} (h : c ∉ before) (behind : List Char) :
    cutAtFirst? [c] (before ++ c :: behind) = some (before, behind) := by
  induction before with
  | nil => exact cutAtFirst?_mark_append c [] behind
  | cons other before ih =>
      rw [List.mem_cons, not_or] at h
      simp [cutAtFirst?, h.1, ih h.2]

end CitationFile.Text
