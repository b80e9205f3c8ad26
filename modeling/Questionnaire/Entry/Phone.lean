/-
  Telephone numbers: an area code of two digits, and up to nine
  digits of the line.

  Key definitions include:
    * `Phone.digits`
    * `Phone.layOut`
    * `Phone.format`
-/

------------------------------------------------------------
-- Telephone Numbers
------------------------------------------------------------

namespace Questionnaire.Phone

/- The digits of a national number. -/
def maxDigits : Nat := 11

/- The fewest digits that make a number. -/
def minDigits : Nat := 10

/- The characters of a number that is laid out in full. -/
def maxLength : Nat := 15

/- The digits of an entry, as many as a number can have. -/
def digits
    (entry : List Char) : List Char :=
  (entry.filter Char.isDigit).take maxDigits

/- Digits laid out as `(DD) DDDDD-DDDD`, as far as they go. -/
def layOut
    (digits : List Char) : List Char :=
  if digits.isEmpty then
    []
  else
    '(' :: digits.take 2
      ++ (if 2 < digits.length then
            [')', ' '] ++ (digits.drop 2).take 5
          else [])
      ++ (if 7 < digits.length then '-' :: digits.drop 7 else [])

/- An entry as it is shown and stored. -/
def format
    (entry : String) : String :=
  String.ofList (layOut (digits entry.toList))

end Questionnaire.Phone
