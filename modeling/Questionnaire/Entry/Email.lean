import Questionnaire.Text.Blank

/-
  E-mail addresses, as far as a form can judge them.

  Key definitions include:
    * `Email.isPlain`
    * `Email.hasInnerDot`
    * `Email.accepts`
-/

------------------------------------------------------------
-- E-mail Addresses
------------------------------------------------------------

namespace Questionnaire

namespace Email

/- A character that neither ends a part of an address nor text. -/
def isPlain
    (c : Char) : Bool :=
  !Text.isSpace c && c != '@'

/- A dot stands between two characters. -/
def hasInnerDot
    (text : List Char) : Bool :=
  (text.drop 1).dropLast.contains '.'

end Email

/-
  Plain characters, an at sign, and plain characters with an
  inner dot.
-/
def Email.accepts
    (text : String) : Bool :=
  let chars := text.toList
  match chars.dropWhile Email.isPlain with
  | '@' :: host =>
      !(chars.takeWhile Email.isPlain).isEmpty
        && host.all Email.isPlain && Email.hasInnerDot host
  | _ => false

end Questionnaire
