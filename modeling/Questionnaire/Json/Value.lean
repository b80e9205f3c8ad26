import Questionnaire.Double.Shortest

/-
  JSON values, and how one is named in a message.

  Key definitions include:
    * `Number`
    * `Json`
    * `Json.get?`
    * `Found`
    * `Json.found`

  The members of an object stand in the order in which they
  are to be written.
-/

------------------------------------------------------------
-- Values
------------------------------------------------------------

namespace Questionnaire

/-
  A number: an integer of at most sixty-four bits, or a double
  by its interchange form.
-/
inductive Number where
  | integer (value : Int)
  | double (bits : UInt64)
  deriving DecidableEq, Repr

/- A JSON value. -/
inductive Json where
  | null
  | bool (value : Bool)
  | number (value : Number)
  | string (value : String)
  | array (items : List Json)
  | object (members : List (String × Json))
  deriving Repr, Inhabited

/- The text of a number. -/
def Number.text : Number → String
  | .integer value => toString value
  | .double bits => Double.text bits

namespace Json

/- The value of an object's member. -/
def get?
    (value : Json)
    (name : String) : Option Json :=
  match value with
  | .object members => members.lookup name
  | _ => none

/- The text that a value is. -/
def text? : Json → Option String
  | .string value => some value
  | _ => none

/- The items of an array. -/
def items? : Json → Option (List Json)
  | .array items => some items
  | _ => none

end Json

end Questionnaire

------------------------------------------------------------
-- Kinds of Values
------------------------------------------------------------

namespace Questionnaire

/- What was met where something else was wanted. -/
inductive Found where
  | null
  | bool (value : Bool)
  | number (value : Number)
  | string (value : String)
  | list
  | object
  deriving DecidableEq, Repr

/- What a value is when it is not what was wanted. -/
def Json.found : Json → Found
  | .null => .null
  | .bool value => .bool value
  | .number value => .number value
  | .string value => .string value
  | .array _ => .list
  | .object _ => .object

end Questionnaire
