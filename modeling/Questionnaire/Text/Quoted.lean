import Questionnaire.Text.Unseen

/-
  Quoted text for messages: between quotes, with a backslash
  before what would end or hide it.

  Key definitions include:
    * `hexDigits`
    * `quotedChar`
    * `quoted`
-/

------------------------------------------------------------
-- Quoted Text
------------------------------------------------------------

namespace Questionnaire.Text

/- The small hexadecimal digits of a number. -/
def hexDigits
    (n : Nat) : List Char :=
  Nat.toDigits 16 n

/- How a character is written between quotes. -/
def quotedChar
    (c : Char) : List Char :=
  match c with
  | '"' => ['\\', '"']
  | '\\' => ['\\', '\\']
  | '\n' => ['\\', 'n']
  | '\r' => ['\\', 'r']
  | '\t' => ['\\', 't']
  | '\x00' => ['\\', '0']
  | c =>
      if isUnseen c then
        ['\\', 'u', '\x7b'] ++ hexDigits c.toNat ++ ['\x7d']
      else
        [c]

/- The text between quotes, each character seen. -/
def quoted
    (text : String) : String :=
  String.ofList ('"' :: text.toList.flatMap quotedChar ++ ['"'])

end Questionnaire.Text
