import Questionnaire.Json.Value

/-
  Writing JSON values, on one line or indented, and making a
  written value fit for a script element.

  Key definitions include:
    * `Json.escapedChar`
    * `Json.writtenString`
    * `Json.compact`
    * `Json.pretty`
    * `Json.embedded`

  Strings escape the quote, the backslash and the controls;
  every other character stands for itself.
-/

------------------------------------------------------------
-- Strings
------------------------------------------------------------

namespace Questionnaire

namespace Json

/- The small hexadecimal digit of a number below sixteen. -/
def hexDigit
    (n : Nat) : Char :=
  if n < 10 then
    Char.ofNat ('0'.toNat + n)
  else
    Char.ofNat ('a'.toNat + (n - 10))

/- A character spelled by its number of four digits. -/
def spelled
    (c : Char) : List Char :=
  let n := c.toNat
  ['\\', 'u', hexDigit (n / 0x1000 % 16), hexDigit (n / 0x100 % 16),
    hexDigit (n / 0x10 % 16), hexDigit (n % 16)]

/- How a character is written in a string. -/
def escapedChar
    (c : Char) : List Char :=
  match c with
  | '"' => ['\\', '"']
  | '\\' => ['\\', '\\']
  | '\x08' => ['\\', 'b']
  | '\t' => ['\\', 't']
  | '\n' => ['\\', 'n']
  | '\x0c' => ['\\', 'f']
  | '\r' => ['\\', 'r']
  | c => if c.toNat < 0x20 then spelled c else [c]

/- A string between its quotes. -/
def writtenString
    (text : String) : List Char :=
  '"' :: text.toList.flatMap escapedChar ++ ['"']

end Json

end Questionnaire

------------------------------------------------------------
-- On One Line
------------------------------------------------------------

namespace Questionnaire

namespace Json

mutual

/- A value without blanks. -/
def compactChars : Json → List Char
  | .null => ['n', 'u', 'l', 'l']
  | .bool true => ['t', 'r', 'u', 'e']
  | .bool false => ['f', 'a', 'l', 's', 'e']
  | .number value => value.text.toList
  | .string value => writtenString value
  | .array items => '[' :: compactItems items ++ [']']
  | .object members => '\x7b' :: compactMembers members ++ ['\x7d']

/- Values with a comma between neighbours. -/
def compactItems : List Json → List Char
  | [] => []
  | [item] => compactChars item
  | item :: next :: items =>
      compactChars item ++ ',' :: compactItems (next :: items)

/- Members with a comma between neighbours. -/
def compactMembers : List (String × Json) → List Char
  | [] => []
  | [(name, value)] => writtenString name ++ ':' :: compactChars value
  | (name, value) :: next :: members =>
      writtenString name ++ ':' :: compactChars value
        ++ ',' :: compactMembers (next :: members)

end

/- The text of a value, on one line and without blanks. -/
def compact
    (value : Json) : String :=
  String.ofList (compactChars value)

end Json

end Questionnaire

------------------------------------------------------------
-- Indented
------------------------------------------------------------

namespace Questionnaire

namespace Json

/- A new line that is indented two blanks for each level. -/
def newLine
    (level : Nat) : List Char :=
  '\n' :: List.replicate (2 * level) ' '

mutual

/- A value whose items and members stand on their own lines. -/
def prettyChars
    (level : Nat) : Json → List Char
  | .array [] => ['[', ']']
  | .object [] => ['\x7b', '\x7d']
  | .array items =>
      '[' :: prettyItems (level + 1) items ++ newLine level ++ [']']
  | .object members =>
      '\x7b' :: prettyMembers (level + 1) members ++ newLine level
        ++ ['\x7d']
  | .null => ['n', 'u', 'l', 'l']
  | .bool true => ['t', 'r', 'u', 'e']
  | .bool false => ['f', 'a', 'l', 's', 'e']
  | .number value => value.text.toList
  | .string value => writtenString value

/- Values on lines of their own, with a comma between them. -/
def prettyItems
    (level : Nat) : List Json → List Char
  | [] => []
  | [item] => newLine level ++ prettyChars level item
  | item :: next :: items =>
      newLine level ++ prettyChars level item
        ++ ',' :: prettyItems level (next :: items)

/- Members on lines of their own, with a comma between them. -/
def prettyMembers
    (level : Nat) : List (String × Json) → List Char
  | [] => []
  | [(name, value)] =>
      newLine level ++ writtenString name ++ ':' :: ' '
        :: prettyChars level value
  | (name, value) :: next :: members =>
      newLine level ++ writtenString name ++ ':' :: ' '
        :: prettyChars level value
        ++ ',' :: prettyMembers level (next :: members)

end

/- The text of a value, indented by two blanks a level. -/
def pretty
    (value : Json) : String :=
  String.ofList (prettyChars 0 value)

end Json

end Questionnaire

------------------------------------------------------------
-- Inside a Script Element
------------------------------------------------------------

namespace Questionnaire

namespace Json

/-
  Whether a character could end a script element, begin another
  one, or break a line of a script.
-/
def isUnsafe
    (c : Char) : Bool :=
  c == '<' || c == '>' || c == '&' || c == '\u2028' || c == '\u2029'

/-
  A JSON text without such characters.  Outside of strings a
  JSON text has none, and inside they may be spelled, so that
  the text keeps its value.
-/
def embedded
    (text : String) : String :=
  String.ofList
    (text.toList.flatMap
      (fun c => if isUnsafe c then spelled c else [c]))

end Json

end Questionnaire
