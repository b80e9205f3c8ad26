import Questionnaire.Json.Reader

/-
  The separators and ends of bracketed JSON texts.

  Key definitions include:
    * `Reader.nextItem`
    * `Reader.listItems`
    * `Reader.closeList`
    * `Reader.nextKey`
    * `Reader.colon`
    * `Reader.finish`

  A bracket is read item by item: a reader first asks whether
  there is a next one, which passes over the comma before it or
  over the end of the bracket.
-/

------------------------------------------------------------
-- Lists
------------------------------------------------------------

namespace Questionnaire

namespace Reader

variable {α : Type}

/- Go to the next item of a list, or past the list's end. -/
def nextItem
    (isFirst : Bool) : Reader Bool := do
  match ← peek with
  | none => failNext .endInList
  | some ']' =>
      skip
      pure false
  | some c =>
      if isFirst then
        pure true
      else if c == ',' then
        skip
        match ← peek with
        | none => failNext .endInValue
        | some ']' => failNext .trailingComma
        | some _ => pure true
      else
        failNext .listSeparatorWanted

/- Read the items of a list, after the bracket that opens it. -/
def listItems
    (item : Reader α) : Reader (List α) :=
  loop
    (fun sofar => do
      if ← nextItem sofar.isEmpty then
        return .inl ((← item) :: sofar)
      else
        return .inr sofar.reverse)
    []

/- Read the end of a list that can have no further item. -/
def closeList : Reader Unit := do
  match ← peek with
  | none => failNext .endInList
  | some ']' => skip
  | some ',' =>
      skip
      match ← peek with
      | some ']' => failNext .trailingComma
      | _ => failNext .trailingText
  | some _ => failNext .trailingText

end Reader

end Questionnaire

------------------------------------------------------------
-- Objects
------------------------------------------------------------

namespace Questionnaire

namespace Reader

/- Read the next key of an object, or pass its end. -/
def nextKey
    (isFirst : Bool) : Reader (Option String) := do
  match ← peek with
  | none => failNext .endInObject
  | some '\x7d' =>
      skip
      pure none
  | some c =>
      if isFirst then
        key c
      else if c == ',' then
        skip
        match ← peek with
        | none => failNext .endInValue
        | some '\x7d' => failNext .trailingComma
        | some c => key c
      else
        failNext .objectSeparatorWanted
where
  key (c : Char) : Reader (Option String) := do
    if c == '"' then
      skip
      return some (← string)
    else
      failNext .keyWanted

/- Read the colon after a key. -/
def colon : Reader Unit := do
  match ← peek with
  | none => failNext .endInObject
  | some ':' => skip
  | some _ => failNext .colonWanted

end Reader

end Questionnaire

------------------------------------------------------------
-- The End of a Text
------------------------------------------------------------

namespace Questionnaire

namespace Reader

variable {α : Type}

/- Read a whole text: nothing but blanks may follow. -/
def wholly
    (reader : Reader α) : Reader α := do
  let result ← reader
  match ← peek with
  | none => pure result
  | some _ => failNext .trailingText

/- What a reader makes of a whole text. -/
def finish
    (reader : Reader α)
    (source : String) : Except Json.Refusal α :=
  match wholly reader source.toList with
  | .ok (result, _) => .ok result
  | .error fault => .error (fault.refusal source.toList)

end Reader

end Questionnaire
