/-
  Cutting a text at marks, and putting pieces together again
  around one mark.

  Key definitions include:
    * `split`
    * `joinWith`
    * `runs`
    * `occursIn`

  Cutting at one character and joining around it give the text
  back (`joinWith_split`).
-/

------------------------------------------------------------
-- Cutting and Joining
------------------------------------------------------------

namespace Questionnaire.Text

/-
  The pieces between the marks, in order.  There is one piece
  more than there are marks, so the pieces of the empty text
  are one empty piece.
-/
def split
    (isMark : Char → Bool) : List Char → List (List Char)
  | [] => [[]]
  | c :: rest =>
      if isMark c then
        [] :: split isMark rest
      else
        match split isMark rest with
        | [] => [[c]]
        | piece :: pieces => (c :: piece) :: pieces

/- The pieces in order, with the mark between neighbours. -/
def joinWith
    (mark : Char) : List (List Char) → List Char
  | [] => []
  | [piece] => piece
  | piece :: next :: pieces =>
      piece ++ mark :: joinWith mark (next :: pieces)

/- The longest runs of wanted characters, in order. -/
def runs
    (wanted : Char → Bool)
    (text : List Char) : List (List Char) :=
  (split (fun c => !wanted c) text).filter (fun run => !run.isEmpty)

/- Whether the sought text stands somewhere in the other. -/
def occursIn
    (sought : List Char) : List Char → Bool
  | [] => sought.isEmpty
  | c :: rest =>
      sought.isPrefixOf (c :: rest) || occursIn sought rest

end Questionnaire.Text

------------------------------------------------------------
-- Small Facts
------------------------------------------------------------

namespace Questionnaire.Text

/- There is always a piece. -/
theorem split_ne_nil
    (isMark : Char → Bool)
    (text : List Char) :
    split isMark text ≠ [] := by
  cases text with
  | nil => simp [split]
  | cons c rest =>
      simp only [split]
      split
      · simp
      · split <;> simp

/- Joining around the mark undoes cutting at it. -/
theorem joinWith_split
    (mark : Char)
    (text : List Char) :
    joinWith mark (split (fun c => c == mark) text) = text := by
  induction text with
  | nil => rfl
  | cons c rest ih =>
      cases hPieces : split (fun c => c == mark) rest with
      | nil => exact absurd hPieces (split_ne_nil _ _)
      | cons piece pieces =>
          rw [hPieces] at ih
          by_cases h : c = mark
          · simp [split, hPieces, h, joinWith, ih]
          · cases pieces with
            | nil => simpa [split, hPieces, h, joinWith] using ih
            | cons next more =>
                simpa [split, hPieces, h, joinWith] using ih

end Questionnaire.Text
