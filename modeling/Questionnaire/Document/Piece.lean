/-
  Pieces of a page: markup that stands as it is, and text that
  is shown.

  Key definitions include:
    * `Piece`
    * `escapedChar`
    * `Piece.written`
    * `written`
    * `indented`

  Shown text is escaped, so that no character of it can end a
  tag, an attribute or a text (`not_special_escaped`).
-/

------------------------------------------------------------
-- Pieces
------------------------------------------------------------

namespace Questionnaire.Document

/- A piece of a page. -/
inductive Piece where
  | markup (text : String)
  | shown (text : String)
  deriving DecidableEq, Repr

/- How a character of shown text is written. -/
def escapedChar
    (c : Char) : List Char :=
  match c with
  | '&' => ['&', 'a', 'm', 'p', ';']
  | '<' => ['&', 'l', 't', ';']
  | '>' => ['&', 'g', 't', ';']
  | '"' => ['&', 'q', 'u', 'o', 't', ';']
  | '\x27' => ['&', '#', 'x', '2', '7', ';']
  | '\x60' => ['&', '#', 'x', '6', '0', ';']
  | '=' => ['&', '#', 'x', '3', 'D', ';']
  | c => [c]

/- A piece as it stands in the page. -/
def Piece.written : Piece → List Char
  | .markup text => text.toList
  | .shown text => text.toList.flatMap escapedChar

/- The pieces that are there when something is. -/
def whenTrue
    (condition : Bool)
    (pieces : List Piece) : List Piece :=
  if condition then pieces else []

/- The characters of some pieces, one after another. -/
def written
    (pieces : List Piece) : List Char :=
  pieces.flatMap Piece.written

/- No special character is left in shown text. -/
theorem not_special_escaped
    (c : Char) :
    ∀ special ∈ ['<', '>', '"'], special ∉ escapedChar c := by
  intro special hSpecial
  have hCases : special = '<' ∨ special = '>' ∨ special = '"' := by
    simpa using hSpecial
  unfold escapedChar
  split
  case h_8 =>
    rename_i hLt hGt hQuote _ _ _
    rcases hCases with h | h | h <;> subst h <;>
      simp only [List.mem_singleton] <;> intro hEq
    · exact hLt hEq.symm
    · exact hGt hEq.symm
    · exact hQuote hEq.symm
  all_goals rcases hCases with h | h | h <;> subst h <;> decide

end Questionnaire.Document

------------------------------------------------------------
-- Indentation
------------------------------------------------------------

namespace Questionnaire.Document

/- The blanks before an indented line. -/
def indent : List Char :=
  [' ', ' ', ' ', ' ']

/- Whether a character ends a line. -/
def endsLine
    (c : Char) : Bool :=
  c == '\n' || c == '\r'

/- Indent after each line break but one at the very end. -/
def indentLines : List Char → List Char
  | [] => []
  | [c] => [c]
  | c :: rest =>
      if c == '\n' then
        c :: indent ++ indentLines rest
      else
        c :: indentLines rest

/-
  Write pieces one after another, indented.  A piece that comes
  after the end of a line begins a line, unless it begins with
  a line break itself; an empty piece changes nothing.
-/
def indentedFrom : Bool → List (List Char) → List Char
  | _, [] => []
  | atStart, piece :: pieces =>
      match piece.head?, piece.getLast? with
      | some first, some last =>
          (if atStart && !endsLine first then indent else [])
            ++ indentLines piece
            ++ indentedFrom (endsLine last) pieces
      | _, _ => indentedFrom atStart pieces

/- Some pieces, indented from their first line on. -/
def indented
    (pieces : List Piece) : List Char :=
  indentedFrom true (pieces.map Piece.written)

end Questionnaire.Document
