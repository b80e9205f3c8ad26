import Questionnaire.Text.Blank

/-
  Addresses on the web.

  Key definitions include:
    * `Url.isAbsolute`
    * `Url.usable?`

  The scheme is matched without regard to case.  In Unicode the
  long s has the same folding as s, so it counts as one.
-/

------------------------------------------------------------
-- Absolute Addresses
------------------------------------------------------------

namespace Questionnaire.Url

/- Whether a character is the small letter in either case. -/
def isLetter
    (letter : Char)
    (c : Char) : Bool :=
  c == letter || c == letter.toUpper || (letter == 's' && c == 'ſ')

/- What follows letters at the beginning of a text. -/
def dropLetters? : List Char → List Char → Option (List Char)
  | [], text => some text
  | letter :: letters, c :: rest =>
      if isLetter letter c then dropLetters? letters rest else none
  | _ :: _, [] => none

/- A character that can begin the name of a host. -/
def beginsHost
    (c : Char) : Bool :=
  !Text.isSpace c && c != '/' && c != '?' && c != '#'

/- What follows the letters of the scheme. -/
def afterScheme?
    (text : List Char) : Option (List Char) :=
  match dropLetters? ['h', 't', 't', 'p'] text with
  | some (c :: rest) =>
      some (if isLetter 's' c then rest else c :: rest)
  | other => other

/- Whether a text begins with a web scheme and a host. -/
def isAbsolute
    (text : String) : Bool :=
  match afterScheme? text.toList with
  | some (':' :: '/' :: '/' :: c :: _) => beginsHost c
  | _ => false

/- The trimmed text, if it is an absolute address. -/
def usable?
    (text : String) : Option String :=
  let trimmed := Text.trim text
  if isAbsolute trimmed then some trimmed else none

end Questionnaire.Url
