import Questionnaire.Json.Value
import Questionnaire.Text.Quoted

/-
  Why a JSON text, or a JSON value, is not what a reader
  wanted, and where in the text that shows.

  Key definitions include:
    * `Mismatch`
    * `Mismatch.message`
    * `Cause`
    * `Fault`
    * `Place.ofOffset`
    * `Json.Refusal`

  While it reads, a reader knows what is left of the text; a
  fault therefore counts the bytes that follow it.  Its line
  and column are worked out at the end, from the whole text.
-/

------------------------------------------------------------
-- Values of the Wrong Shape
------------------------------------------------------------

namespace Questionnaire

/- A value that is well formed, but not of the wanted shape. -/
inductive Mismatch where
  | invalidType (found : Found) (wanted : String)
  | invalidValue (found : Found) (wanted : String)
  | invalidLength (length : Nat) (wanted : String)
  | missingField (name : String)
  | duplicateField (name : String)
  | unknownVariant (name : String) (known : List String)
  deriving DecidableEq, Repr

/- How a message names what was met. -/
def Found.text : Found → String
  | .null => "null"
  | .bool value => "boolean `" ++ toString value ++ "`"
  | .number (.integer value) => "integer `" ++ toString value ++ "`"
  | .number (.double bits) =>
      "floating point `" ++ Double.text bits ++ "`"
  | .string value => "string " ++ Text.quoted value
  | .list => "sequence"
  | .object => "map"

/- The message for a value of the wrong shape. -/
def Mismatch.message : Mismatch → String
  | .invalidType found wanted =>
      "invalid type: " ++ found.text ++ ", expected " ++ wanted
  | .invalidValue found wanted =>
      "invalid value: " ++ found.text ++ ", expected " ++ wanted
  | .invalidLength length wanted =>
      "invalid length " ++ toString length ++ ", expected " ++ wanted
  | .missingField name => "missing field `" ++ name ++ "`"
  | .duplicateField name => "duplicate field `" ++ name ++ "`"
  | .unknownVariant name known =>
      "unknown variant `" ++ name ++ "`, expected one of "
        ++ ", ".intercalate (known.map (fun k => "`" ++ k ++ "`"))

end Questionnaire

------------------------------------------------------------
-- Causes of a Fault
------------------------------------------------------------

namespace Questionnaire

/- Why reading a text stopped. -/
inductive Cause where
  | endInValue
  | endInList
  | endInObject
  | endInString
  | valueWanted
  | wordBroken
  | badNumber
  | numberTooLarge
  | controlCharacter
  | badEscape
  | halfPairAlone
  | halfPairOpen
  | colonWanted
  | listSeparatorWanted
  | objectSeparatorWanted
  | keyWanted
  | trailingComma
  | trailingText
  | tooDeep
  | mismatch (mismatch : Mismatch)
  deriving DecidableEq, Repr

/- The message for a cause. -/
def Cause.message : Cause → String
  | .endInValue => "EOF while parsing a value"
  | .endInList => "EOF while parsing a list"
  | .endInObject => "EOF while parsing an object"
  | .endInString => "EOF while parsing a string"
  | .valueWanted => "expected value"
  | .wordBroken => "expected ident"
  | .badNumber => "invalid number"
  | .numberTooLarge => "number out of range"
  | .controlCharacter =>
      "control character (\\u0000-\\u001F) found while parsing a string"
  | .badEscape => "invalid escape"
  | .halfPairAlone => "lone leading surrogate in hex escape"
  | .halfPairOpen => "unexpected end of hex escape"
  | .colonWanted => "expected `:`"
  | .listSeparatorWanted => "expected `,` or `]`"
  | .objectSeparatorWanted => "expected `,` or `\x7d`"
  | .keyWanted => "key must be a string"
  | .trailingComma => "trailing comma"
  | .trailingText => "trailing characters"
  | .tooDeep => "recursion limit exceeded"
  | .mismatch m => m.message

end Questionnaire

------------------------------------------------------------
-- Places in a Text
------------------------------------------------------------

namespace Questionnaire

/- A line, from one, and the bytes of it that lie before. -/
structure Place where
  line : Nat
  column : Nat
  deriving DecidableEq, Repr

/- The number of bytes of a text. -/
def byteLength
    (text : List Char) : Nat :=
  text.foldl (fun n c => n + c.utf8Size) 0

/- Go on from a place over some bytes of a text. -/
def Place.advance
    (place : Place) : List Char → Nat → Place
  | [], _ => place
  | c :: rest, bytes =>
      if bytes == 0 then
        place
      else if c == '\n' then
        advance ⟨place.line + 1, 0⟩ rest (bytes - 1)
      else if bytes < c.utf8Size then
        ⟨place.line, place.column + bytes⟩
      else
        advance ⟨place.line, place.column + c.utf8Size⟩ rest
          (bytes - c.utf8Size)

/- The place after some bytes of a text. -/
def Place.ofOffset
    (text : List Char)
    (offset : Nat) : Place :=
  Place.advance ⟨1, 0⟩ text offset

/- A cause, and the number of bytes that follow its place. -/
structure Fault where
  cause : Cause
  left : Nat
  deriving DecidableEq, Repr

/- A fault before the rest of the text. -/
def Fault.here
    (cause : Cause)
    (rest : List Char) : Fault :=
  ⟨cause, byteLength rest⟩

/- A fault after the next byte of the text, if there is one. -/
def Fault.next
    (cause : Cause)
    (rest : List Char) : Fault :=
  ⟨cause, byteLength rest - 1⟩

end Questionnaire

------------------------------------------------------------
-- Refusals
------------------------------------------------------------

namespace Questionnaire

/- Why an input was refused, with the place if it was a text. -/
structure Json.Refusal where
  cause : Cause
  place : Option Place
  deriving DecidableEq, Repr

/- A fault with its place in the whole text. -/
def Fault.refusal
    (fault : Fault)
    (source : List Char) : Json.Refusal :=
  ⟨fault.cause,
    some (Place.ofOffset source (byteLength source - fault.left))⟩

/- A value that was refused has no place. -/
def Mismatch.refusal
    (mismatch : Mismatch) : Json.Refusal :=
  ⟨.mismatch mismatch, none⟩

/- The message of a refusal, with its place. -/
def Json.Refusal.message
    (refusal : Json.Refusal) : String :=
  match refusal.place with
  | some place =>
      refusal.cause.message ++ " at line " ++ toString place.line
        ++ " column " ++ toString place.column
  | none => refusal.cause.message

end Questionnaire
