import Questionnaire.Document.Piece
import Mathlib.Data.List.Basic

/-
  What indentation does to the text that is shown in a step.

  Key definitions include:
    * `startsLine`
    * `broken`
    * `Unbroken`

  The blanks that indent a line go into all that is written,
  so they become part of a value with line breaks in it
  (`indentLines_append_indent`).  A value is spared exactly if
  it is `Unbroken` (`broken_eq_iff`).
-/

------------------------------------------------------------
-- Pieces One by One
------------------------------------------------------------

namespace Questionnaire.Document

/- Whether a line begins after a piece. -/
def startsLine
    (atStart : Bool)
    (piece : List Char) : Bool :=
  match piece.getLast? with
  | some last => endsLine last
  | none => atStart

/- The blanks before a piece. -/
def indentBefore
    (atStart : Bool)
    (piece : List Char) : List Char :=
  match piece.head? with
  | some first =>
      if atStart && !endsLine first then indent else []
  | none => []

/- A piece as it is written, with the blanks before it. -/
def indentedPiece
    (atStart : Bool)
    (piece : List Char) : List Char :=
  indentBefore atStart piece ++ indentLines piece

/- Whether a line begins after some pieces. -/
def startsLineAfter
    (atStart : Bool)
    (pieces : List (List Char)) : Bool :=
  pieces.foldl startsLine atStart

/- Pieces are indented one by one. -/
theorem indentedFrom_cons
    (atStart : Bool)
    (piece : List Char)
    (pieces : List (List Char)) :
    indentedFrom atStart (piece :: pieces) =
      indentedPiece atStart piece
        ++ indentedFrom (startsLine atStart piece) pieces := by
  cases piece with
  | nil => rfl
  | cons first rest =>
      have hLast :
          (first :: rest).getLast? =
            some ((first :: rest).getLast (by simp)) :=
        List.getLast?_eq_some_getLast _
      simp only [indentedFrom, indentedPiece, indentBefore,
        startsLine, hLast, List.head?_cons]

/- Pieces are indented in one go or in two. -/
theorem indentedFrom_append
    (atStart : Bool)
    (pieces more : List (List Char)) :
    indentedFrom atStart (pieces ++ more) =
      indentedFrom atStart pieces
        ++ indentedFrom (startsLineAfter atStart pieces) more := by
  induction pieces generalizing atStart with
  | nil => rfl
  | cons piece pieces ih =>
      rw [List.cons_append, indentedFrom_cons,
        indentedFrom_cons, ih, List.append_assoc]
      rfl

/- One piece is indented by itself. -/
theorem indentedFrom_singleton
    (atStart : Bool)
    (piece : List Char) :
    indentedFrom atStart [piece] = indentedPiece atStart piece := by
  rw [indentedFrom_cons]
  exact List.append_nil _

/- A piece comes after nothing but blanks. -/
theorem eq_of_mem_indentBefore
    {atStart : Bool}
    {piece : List Char}
    {c : Char}
    (hMem : c ∈ indentBefore atStart piece) :
    c = ' ' := by
  unfold indentBefore at hMem
  split at hMem
  · split at hMem
    · exact List.eq_of_mem_replicate (n := 4) hMem
    · exact absurd hMem List.not_mem_nil
  · exact absurd hMem List.not_mem_nil

end Questionnaire.Document

------------------------------------------------------------
-- Lines One by One
------------------------------------------------------------

namespace Questionnaire.Document

/- What does not end a line is followed by what followed it. -/
theorem indentLines_cons
    {c : Char}
    (hChar : c ≠ '\n')
    (text : List Char) :
    indentLines (c :: text) = c :: indentLines text := by
  cases text with
  | nil => rfl
  | cons d text =>
      rw [indentLines, beq_false_of_ne hChar]
      · rfl
      · exact List.cons_ne_nil d text

/- The next line is indented. -/
theorem indentLines_break
    (c : Char)
    (text : List Char) :
    indentLines ('\n' :: c :: text) =
      '\n' :: indent ++ indentLines (c :: text) :=
  rfl

end Questionnaire.Document

------------------------------------------------------------
-- Broken Values
------------------------------------------------------------

namespace Questionnaire.Document

/- A character of a value, with the blanks after a break. -/
def brokenChar
    (c : Char) : List Char :=
  if c == '\n' then c :: indent else [c]

/-
  A value with the blanks that get into it: after each line
  break, and before the mark that ends it when the value ends
  with a carriage return.
-/
def broken
    (text : List Char) : List Char :=
  text.flatMap brokenChar
    ++ (if text.getLast? == some '\r' then indent else [])

/- No blanks get into a text. -/
def Unbroken
    (text : String) : Prop :=
  '\n' ∉ text.toList ∧ text.toList.getLast? ≠ some '\r'

instance (text : String) : Decidable (Unbroken text) := by
  unfold Unbroken
  infer_instance

/- Indenting a value leaves out only the blanks at its end. -/
theorem indentLines_append
    (text : List Char) :
    indentLines text
        ++ (if text.getLast? == some '\n' then indent else []) =
      text.flatMap brokenChar := by
  induction text with
  | nil => rfl
  | cons c rest ih =>
      cases rest with
      | nil =>
          by_cases hBreak : c = '\n'
          · rw [hBreak]
            rfl
          · simp [indentLines, brokenChar, hBreak]
      | cons next rest =>
          rw [List.getLast?_cons_cons, List.flatMap_cons, ← ih]
          by_cases hBreak : c = '\n'
          · simp [indentLines, brokenChar, hBreak]
          · simp [indentLines, brokenChar, hBreak]

/- The mark that ends a value comes after a broken value. -/
theorem indentLines_append_indent
    (text : List Char) :
    indentLines text
        ++ (if startsLine false text then indent else []) =
      broken text := by
  unfold broken startsLine
  rw [← indentLines_append, List.append_assoc]
  congr 1
  cases text.getLast? with
  | none => rfl
  | some last =>
      by_cases hBreak : last = '\n'
      · rw [hBreak]
        rfl
      · by_cases hReturn : last = '\r'
        · rw [hReturn]
          rfl
        · simp [endsLine, hBreak, hReturn]

end Questionnaire.Document

------------------------------------------------------------
-- Broken Values and Escapes
------------------------------------------------------------

namespace Questionnaire.Document

/- No quotation mark is left in an escaped text. -/
theorem quote_not_mem_escaped
    (text : List Char) :
    '"' ∉ text.flatMap escapedChar := by
  intro hMem
  rcases List.mem_flatMap.mp hMem with ⟨c, _, hChar⟩
  exact not_special_escaped c '"' (by simp) hChar

/- No tag begins in an escaped text. -/
theorem less_not_mem_escaped
    (text : List Char) :
    '<' ∉ text.flatMap escapedChar := by
  intro hMem
  rcases List.mem_flatMap.mp hMem with ⟨c, _, hChar⟩
  exact not_special_escaped c '<' (by simp) hChar

/- A character is escaped and broken in either order. -/
theorem brokenChar_escapedChar
    (c : Char) :
    (escapedChar c).flatMap brokenChar =
      (brokenChar c).flatMap escapedChar := by
  by_cases hBreak : c = '\n'
  · rw [hBreak]
    rfl
  · have hChar : brokenChar c = [c] := by
      simp [brokenChar, hBreak]
    rw [hChar, List.flatMap_singleton]
    unfold escapedChar
    split
    case h_8 =>
      rw [List.flatMap_singleton, hChar]
    all_goals rfl

/- An escape ends with a carriage return only if it is one. -/
theorem getLast?_escapedChar
    (c : Char) :
    (escapedChar c).getLast? = some '\r' ↔ c = '\r' := by
  unfold escapedChar
  split
  case h_8 => simp
  all_goals decide

/- Escaping keeps a carriage return at the end, and adds none. -/
theorem getLast?_escaped
    (text : List Char) :
    (text.flatMap escapedChar).getLast? = some '\r' ↔
      text.getLast? = some '\r' := by
  rcases List.eq_nil_or_concat text with hNil | ⟨front, c, hConcat⟩
  · rw [hNil]
    rfl
  · have hEscape : (escapedChar c).getLast?.isSome := by
      unfold escapedChar
      split <;> rfl
    rw [hConcat, List.concat_eq_append, List.flatMap_append,
      List.flatMap_singleton,
      List.getLast?_append, Option.or_of_isSome hEscape,
      getLast?_escapedChar]
    simp

/- A text is escaped and broken in either order. -/
theorem broken_escaped
    (text : List Char) :
    broken (text.flatMap escapedChar) =
      (broken text).flatMap escapedChar := by
  unfold broken
  rw [List.flatMap_append, List.flatMap_assoc,
    List.flatMap_assoc]
  congr 1
  · congr 1
    funext c
    exact brokenChar_escapedChar c
  · by_cases hReturn : text.getLast? = some '\r'
    · rw [if_pos (by simp [getLast?_escaped, hReturn]),
        if_pos (by simp [hReturn])]
      rfl
    · rw [if_neg (by simp [getLast?_escaped, hReturn]),
        if_neg (by simp [hReturn])]
      rfl

end Questionnaire.Document

------------------------------------------------------------
-- Unbroken Values
------------------------------------------------------------

namespace Questionnaire.Document

/- A line break makes a value longer. -/
theorem length_flatMap_brokenChar
    (text : List Char) :
    (text.flatMap brokenChar).length =
      text.length + 4 * text.count '\n' := by
  induction text with
  | nil => rfl
  | cons c rest ih =>
      rw [List.flatMap_cons, List.length_append, ih,
        List.length_cons, List.count_cons]
      by_cases hBreak : c = '\n'
      · rw [hBreak]
        simp [brokenChar, indent]
        omega
      · simp [brokenChar, hBreak]
        omega

/- A value is spared exactly if no blanks get into it. -/
theorem broken_eq_iff
    (text : String) :
    broken text.toList = text.toList ↔ Unbroken text := by
  constructor
  · intro hEq
    have hLength := congrArg List.length hEq
    unfold broken at hLength
    rw [List.length_append, length_flatMap_brokenChar]
      at hLength
    constructor
    · intro hBreak
      have hCount := List.count_pos_iff.mpr hBreak
      omega
    · intro hReturn
      rw [if_pos (by simp [hReturn])] at hLength
      simp [indent] at hLength
      omega
  · rintro ⟨hBreak, hReturn⟩
    have hChars :
        ∀ c ∈ text.toList, brokenChar c = [c] := by
      intro c hMem
      have hChar : c ≠ '\n' := fun hEq => hBreak (hEq ▸ hMem)
      simp [brokenChar, hChar]
    unfold broken
    rw [if_neg (by simp [hReturn]), List.append_nil,
      List.flatMap_congr hChars]
    exact List.flatMap_singleton' text.toList

end Questionnaire.Document
