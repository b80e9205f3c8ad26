import Questionnaire.Json.Bracket
import Questionnaire.Table

/-
  Reading any JSON value, and passing over one.

  Key definitions include:
    * `Json.inKeyOrder`
    * `Reader.value`
    * `Json.parse`
    * `Reader.skipValue`

  The members of an object that was read ascend by their names,
  and of members with one name the last counts.  A value that
  is only passed over may be nested without a limit, and the
  size of its numbers does not matter.
-/

------------------------------------------------------------
-- The Order of Members
------------------------------------------------------------

namespace Questionnaire

mutual

/- A value with the members of its objects in order. -/
def Json.inKeyOrder : Json → Json
  | .array items => .array (itemsInKeyOrder items)
  | .object members =>
      .object (Table.ofList (membersInKeyOrder members)).rows
  | other => other

/- Items with the members of their objects in order. -/
def itemsInKeyOrder : List Json → List Json
  | [] => []
  | item :: items => item.inKeyOrder :: itemsInKeyOrder items

/- Members with the members of their objects in order. -/
def membersInKeyOrder : List (String × Json) → List (String × Json)
  | [] => []
  | (name, value) :: members =>
      (name, value.inKeyOrder) :: membersInKeyOrder members

end

/- All items are put in order, one by one. -/
theorem itemsInKeyOrder_eq_map
    (items : List Json) :
    itemsInKeyOrder items = items.map Json.inKeyOrder := by
  induction items with
  | nil => rfl
  | cons item items ih => rw [itemsInKeyOrder, ih, List.map_cons]

theorem membersInKeyOrder_eq_map
    (members : List (String × Json)) :
    membersInKeyOrder members =
      members.map
        (fun member => (member.1, member.2.inKeyOrder)) := by
  induction members with
  | nil => rfl
  | cons member members ih =>
      rw [membersInKeyOrder, ih, List.map_cons]

end Questionnaire

------------------------------------------------------------
-- Reading a Value
------------------------------------------------------------

namespace Questionnaire

namespace Reader

/- Read the members of an object, after its opening bracket. -/
def members
    (value : Reader Json) : Reader Json :=
  loop
    (fun (sofar : Bool × Table Json) => do
      match ← nextKey sofar.1 with
      | none => return .inr (.object sofar.2.rows)
      | some name =>
          colon
          return .inl (false, sofar.2.insert name (← value)))
    (true, .empty)

/-
  Read a value, and the values in its brackets as told.  When
  nothing is told, brackets are refused.
-/
def valueWith
    (inner : Option (Reader Json)) : Reader Json := do
  match ← peek with
  | none => failNext .endInValue
  | some 'n' =>
      word ['n', 'u', 'l', 'l']
      pure .null
  | some 't' =>
      word ['t', 'r', 'u', 'e']
      pure (.bool true)
  | some 'f' =>
      word ['f', 'a', 'l', 's', 'e']
      pure (.bool false)
  | some '"' =>
      skip
      return .string (← string)
  | some '[' =>
      match inner with
      | none => failNext .tooDeep
      | some inner =>
          skip
          return .array (← listItems inner)
  | some '\x7b' =>
      match inner with
      | none => failNext .tooDeep
      | some inner =>
          skip
          members inner
  | some c =>
      if c == '-' || c.isDigit then
        return .number (← number)
      else
        failNext .valueWanted

/- Read a value whose brackets are nested at most so deep. -/
def value : Nat → Reader Json
  | 0 => valueWith none
  | depth + 1 => valueWith (some (value depth))

end Reader

/- The deepest nesting of brackets that is read. -/
def Json.depthLimit : Nat := 127

/- The value that a text spells. -/
def Json.parse
    (source : String) : Except Json.Refusal Json :=
  (Reader.value Json.depthLimit).finish source

end Questionnaire

------------------------------------------------------------
-- Passing over Strings and Numbers
------------------------------------------------------------

namespace Questionnaire

namespace Reader

/- Pass over one character of a string, or over its end. -/
def skipStringStep
    (_ : Unit) : Reader (Unit ⊕ Unit) := do
  match ← get with
  | [] => failHere .endInString
  | '"' :: rest =>
      set rest
      pure (.inr ())
  | '\\' :: rest =>
      set rest
      match rest with
      | [] => failHere .endInString
      | c :: rest =>
          if c == 'u' then
            set rest
            let _ ← hexUnit
            pure (.inl ())
          else if (escapes.lookup c).isSome then
            set rest
            pure (.inl ())
          else
            failNext .badEscape
  | c :: rest =>
      if c.toNat < 0x20 then
        failHere .controlCharacter
      else
        set rest
        pure (.inl ())

/- Pass over a string, after the quote that opens it. -/
def skipString : Reader Unit :=
  loop skipStringStep ()

/- Pass over one digit or more. -/
def skipDigits
    (refuse : Reader Unit) : Reader Unit := do
  if (← digits).isEmpty then
    refuse

/- Pass over the exponent of a number, if there is one. -/
def skipExponent : Reader Unit := do
  match ← get with
  | c :: rest =>
      if c == 'e' || c == 'E' then
        set rest
        match rest with
        | s :: _ =>
            if s == '+' || s == '-' then
              skip
        | [] => pure ()
        skipDigits (failNext .badNumber)
  | [] => pure ()

/- Pass over a number that begins here. -/
def skipNumber : Reader Unit := do
  if (← get).head? == some '-' then
    skip
  match ← get with
  | '0' :: rest =>
      set rest
      if (rest.head?.map Char.isDigit).getD false then
        failNext .badNumber
  | _ => skipDigits (failNext .badNumber)
  match ← get with
  | '.' :: rest =>
      set rest
      skipDigits (failNext .badNumber)
  | _ => pure ()
  skipExponent

end Reader

end Questionnaire

------------------------------------------------------------
-- Passing over a Value
------------------------------------------------------------

namespace Questionnaire

namespace Reader

/- A bracket that is open. -/
inductive Bracket where
  | list
  | object
  deriving DecidableEq

/- The character that ends a bracket. -/
def Bracket.close : Bracket → Char
  | .list => ']'
  | .object => '\x7d'

/- The fault of a text that ends inside a bracket. -/
def Bracket.endCause : Bracket → Cause
  | .list => .endInList
  | .object => .endInObject

/- The fault of an item that nothing separates from the next. -/
def Bracket.separatorCause : Bracket → Cause
  | .list => .listSeparatorWanted
  | .object => .objectSeparatorWanted

/- Pass over what comes before a value in the bracket. -/
def Bracket.skipKey : Bracket → Reader Unit
  | .list => pure ()
  | .object => do
      match ← peek with
      | none => failNext .endInObject
      | some '"' =>
          skip
          skipString
          colon
      | some _ => failNext .keyWanted

/-
  Pass over what follows a value, out of the brackets that end
  there, up to the next value or out of the last bracket.
-/
def skipEnds : List Bracket → Reader (List Bracket ⊕ Unit)
  | [] => pure (.inr ())
  | bracket :: outer => do
      match ← peek with
      | none => failNext bracket.endCause
      | some c =>
          if c == ',' then
            skip
            bracket.skipKey
            pure (.inl (bracket :: outer))
          else if c == bracket.close then
            skip
            skipEnds outer
          else
            failNext bracket.separatorCause

/- Pass over the opening of a bracket, up to its first value. -/
def skipOpening
    (bracket : Bracket)
    (outer : List Bracket) : Reader (List Bracket ⊕ Unit) := do
  skip
  match ← peek with
  | none => failNext bracket.endCause
  | some c =>
      if c == bracket.close then
        skip
        skipEnds outer
      else
        bracket.skipKey
        pure (.inl (bracket :: outer))

/- Pass over one value or opening inside some brackets. -/
def skipStep
    (outer : List Bracket) : Reader (List Bracket ⊕ Unit) := do
  match ← peek with
  | none => failNext .endInValue
  | some 'n' =>
      word ['n', 'u', 'l', 'l']
      skipEnds outer
  | some 't' =>
      word ['t', 'r', 'u', 'e']
      skipEnds outer
  | some 'f' =>
      word ['f', 'a', 'l', 's', 'e']
      skipEnds outer
  | some '"' =>
      skip
      skipString
      skipEnds outer
  | some '[' => skipOpening .list outer
  | some '\x7b' => skipOpening .object outer
  | some c =>
      if c == '-' || c.isDigit then
        skipNumber
        skipEnds outer
      else
        failNext .valueWanted

/- Pass over a value. -/
def skipValue : Reader Unit :=
  loop skipStep []

end Reader

end Questionnaire
