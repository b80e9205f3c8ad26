import Questionnaire.Json.Parse
import Questionnaire.Json.Print

/-
  Formats: how the values of a type are written as JSON, and
  how they are read, either straight from a text or from a
  value that was read before.

  Key definitions include:
    * `Format`
    * `Fields`
    * `Format.toJson`
    * `Format.convert`
    * `Format.read`
    * `Format.parse`

  One description serves the writer, both readers and the
  published schema, so these cannot drift apart.  A record is
  an object whose members may come in any order; members that
  are not known are ignored.  A record may also be the list of
  its fields.
-/

------------------------------------------------------------
-- Descriptions
------------------------------------------------------------

namespace Questionnaire

mutual

/- How values of a type stand in JSON. -/
inductive Format : Type → Type 1 where
  /- A string. -/
  | text : Format String
  /- Either truth value. -/
  | flag : Format Bool
  /- An integer of sixty-four bits with a sign. -/
  | integer : Format Int
  /- An integer of sixty-four bits without a sign. -/
  | natural (kind : String) : Format Nat
  /- One of some names; a value may have other names too. -/
  | choice {α : Type} (title : String) (names : List (String × α))
      (known : List String) (nameOf : α → String) : Format α
  /- A value, or nothing. -/
  | optional {α : Type} (format : Format α) : Format (Option α)
  /- Values in order. -/
  | list {α : Type} (format : Format α) : Format (List α)
  /- A record of named fields. -/
  | record {α β σ : Type} (title : String) (fields : Fields β σ)
      (build : β → α) (parts : α → β) : Format α

/-
  The fields of a record, in their written order: the type of
  all their values, and the type of the slots that hold what is
  known of them while a record is being read.
-/
inductive Fields : Type → Type → Type 1 where
  /- No further field. -/
  | done : Fields Unit Unit
  /- A field, with its value when it is absent, if it may be. -/
  | field {α β σ : Type} (name : String) (format : Format α)
      (absent : Option α) (isOmitted : α → Bool) (rest : Fields β σ) :
      Fields (α × β) (Option α × σ)

end

namespace Fields

variable {α β σ : Type}

/- A field that has to be present. -/
def required
    (name : String)
    (format : Format α)
    (rest : Fields β σ) : Fields (α × β) (Option α × σ) :=
  .field name format none (fun _ => false) rest

/- A field that has a value when it is absent. -/
def withDefault
    (name : String)
    (format : Format α)
    (absent : α)
    (rest : Fields β σ) : Fields (α × β) (Option α × σ) :=
  .field name format (some absent) (fun _ => false) rest

/- A field that is left out when there is nothing in it. -/
def omitted
    (name : String)
    (format : Format α)
    (absent : α)
    (isOmitted : α → Bool)
    (rest : Fields β σ) : Fields (α × β) (Option α × σ) :=
  .field name format (some absent) isOmitted rest

/- The number of fields. -/
def count : {α σ : Type} → Fields α σ → Nat
  | _, _, .done => 0
  | _, _, .field _ _ _ _ rest => rest.count + 1

end Fields

end Questionnaire

------------------------------------------------------------
-- Writing
------------------------------------------------------------

namespace Questionnaire

mutual

/- The JSON value of a value. -/
def Format.toJson : {α : Type} → Format α → α → Json
  | _, .text, value => .string value
  | _, .flag, value => .bool value
  | _, .integer, value => .number (.integer value)
  | _, .natural _, value => .number (.integer value)
  | _, .choice _ _ _ nameOf, value => .string (nameOf value)
  | _, .optional _, none => .null
  | _, .optional format, some value => format.toJson value
  | _, .list format, values => .array (values.map format.toJson)
  | _, .record _ fields _ parts, value =>
      .object (fields.toMembers (parts value))

/- The members of a record, without those that are left out. -/
def Fields.toMembers :
    {α σ : Type} → Fields α σ → α → List (String × Json)
  | _, _, .done, () => []
  | _, _, .field name format _ isOmitted rest, (value, more) =>
      if isOmitted value then
        rest.toMembers more
      else
        (name, format.toJson value) :: rest.toMembers more

end

end Questionnaire

------------------------------------------------------------
-- Slots
------------------------------------------------------------

namespace Questionnaire

namespace Fields

/- Nothing is known yet. -/
def vacant : {α σ : Type} → Fields α σ → σ
  | _, _, .done => ()
  | _, _, .field _ _ _ _ rest => (none, rest.vacant)

/- The record, once no further member can come. -/
def fill : {α σ : Type} → Fields α σ → σ → Except Mismatch α
  | _, _, .done, () => .ok ()
  | _, _, .field name _ absent _ rest, (slot, slots) => do
      match slot <|> absent with
      | none => throw (.missingField name)
      | some value => return (value, ← rest.fill slots)

/- The record whose fields from some place on are absent. -/
def fillAbsent
    (wanted : String) :
    {α σ : Type} → Fields α σ → Nat → Except Mismatch α
  | _, _, .done, _ => .ok ()
  | _, _, .field _ _ absent _ rest, index => do
      match absent with
      | none => throw (.invalidLength index wanted)
      | some value =>
          return (value, ← rest.fillAbsent wanted (index + 1))

end Fields

/- What the message for a record calls it. -/
def recordName
    (title : String) : String :=
  "struct " ++ title

/- What the message for a list that is too short calls it. -/
def recordOfCount
    (title : String)
    (count : Nat) : String :=
  recordName title ++ " with " ++ toString count
    ++ (if count == 1 then " element" else " elements")

end Questionnaire

------------------------------------------------------------
-- From a Value
------------------------------------------------------------

namespace Questionnaire

/- How a list with more items than a record has fields is named. -/
inductive Surplus where
  | fewerWanted
  | exactWanted

/- The mismatch of a list that is too long. -/
def Surplus.mismatch
    (surplus : Surplus)
    (length : Nat)
    (count : Nat) : Mismatch :=
  match surplus with
  | .fewerWanted => .invalidLength length "fewer elements in array"
  | .exactWanted =>
      .invalidLength length
        (toString count
          ++ (if count == 1 then " element" else " elements")
          ++ " in sequence")

/- The value that a name stands for. -/
def choiceOf
    {α : Type}
    (names : List (String × α))
    (known : List String)
    (name : String) : Except Mismatch α :=
  match names.lookup name with
  | some value => .ok value
  | none => .error (.unknownVariant name known)

/- The value of a number without a sign. -/
def naturalOf
    (kind : String) : Number → Except Mismatch Nat
  | .integer value =>
      if value < 0 then
        .error (.invalidValue (.number (.integer value)) kind)
      else
        .ok value.toNat
  | .double bits =>
      .error (.invalidType (.number (.double bits)) kind)

/- What a message calls the integers with a sign. -/
def integerKind : String := "i64"

/- The value of a number with a sign. -/
def integerOf : Number → Except Mismatch Int
  | .integer value =>
      if value < Int.pow 2 63 then
        .ok value
      else
        .error (.invalidValue (.number (.integer value)) integerKind)
  | .double bits =>
      .error (.invalidType (.number (.double bits)) integerKind)

mutual

/- The value that a JSON value stands for. -/
def Format.convert
    (surplus : Surplus) :
    {α : Type} → Format α → Json → Except Mismatch α
  | _, .text, value =>
      match value with
      | .string text => .ok text
      | other => .error (.invalidType other.found "a string")
  | _, .flag, value =>
      match value with
      | .bool flag => .ok flag
      | other => .error (.invalidType other.found "a boolean")
  | _, .integer, value =>
      match value with
      | .number number => integerOf number
      | other => .error (.invalidType other.found integerKind)
  | _, .natural kind, value =>
      match value with
      | .number number => naturalOf kind number
      | other => .error (.invalidType other.found kind)
  | _, .choice _ names known _, value =>
      match value with
      | .string name => choiceOf names known name
      | .object [(name, content)] => do
          let choice ← choiceOf names known name
          match content with
          | .null => return choice
          | other => throw (.invalidType other.found "unit")
      | .object _ =>
          .error (.invalidValue .object "map with a single key")
      | other => .error (.invalidType other.found "string or map")
  | _, .optional format, value =>
      match value with
      | .null => .ok none
      | value => (format.convert surplus value).map some
  | _, .list format, value =>
      match value with
      | .array items => items.mapM (format.convert surplus)
      | other => .error (.invalidType other.found "a sequence")
  | _, .record title fields build _, value =>
      match value with
      | .object members => do
          let slots ← members.foldlM
            (fun slots (name, value) =>
              fields.convertInto surplus name value slots)
            fields.vacant
          return build (← fields.fill slots)
      | .array items => do
          let wanted := recordOfCount title fields.count
          let (parts, surplusItems) ←
            fields.convertItems surplus wanted items 0
          if surplusItems.isEmpty then
            return build parts
          else
            throw (surplus.mismatch items.length fields.count)
      | other => .error (.invalidType other.found (recordName title))

/- Put the value of a member into the slot of its field. -/
def Fields.convertInto
    (surplus : Surplus)
    (name : String)
    (value : Json) :
    {α σ : Type} → Fields α σ → σ → Except Mismatch σ
  | _, _, .done, () => .ok ()
  | _, _, .field fieldName format _ _ rest, (slot, slots) =>
      if fieldName = name then do
        return (some (← format.convert surplus value), slots)
      else do
        return (slot, ← rest.convertInto surplus name value slots)

/- The record of a list's items, and the items that are too many. -/
def Fields.convertItems
    (surplus : Surplus)
    (wanted : String) :
    {α σ : Type} → Fields α σ → List Json → Nat →
    Except Mismatch (α × List Json)
  | _, _, .done, items, _ => .ok ((), items)
  | _, _, .field name format absent isOmitted rest, items, index =>
      match items with
      | [] => do
          let parts ← Fields.fillAbsent wanted
            (.field name format absent isOmitted rest) index
          return (parts, [])
      | item :: items => do
          let value ← format.convert surplus item
          let (parts, others) ←
            rest.convertItems surplus wanted items (index + 1)
          return ((value, parts), others)

end

/- The record of an object's members, converted in their order. -/
def Fields.convertMembers
    {α σ : Type}
    (surplus : Surplus)
    (fields : Fields α σ)
    (members : List (String × Json)) : Except Mismatch α := do
  let slots ← members.foldlM
    (fun slots (name, value) =>
      fields.convertInto surplus name value slots)
    fields.vacant
  fields.fill slots

end Questionnaire

------------------------------------------------------------
-- From a Text
------------------------------------------------------------

namespace Questionnaire

namespace Reader

variable {α : Type}

/- Stop before the rest of the text with a mismatch. -/
def mismatchHere
    (mismatch : Mismatch) : Reader α :=
  failHere (.mismatch mismatch)

/- Go on with a result, or stop with the mismatch. -/
def orMismatch : Except Mismatch α → Reader α
  | .ok value => pure value
  | .error mismatch => mismatchHere mismatch

/-
  Refuse the value that comes next.  Words, numbers and strings
  are read first, and brackets are not.
-/
def refuse
    (wanted : String) : Reader α := do
  match ← peek with
  | some 'n' =>
      word ['n', 'u', 'l', 'l']
      mismatchHere (.invalidType .null wanted)
  | some 't' =>
      word ['t', 'r', 'u', 'e']
      mismatchHere (.invalidType (.bool true) wanted)
  | some 'f' =>
      word ['f', 'a', 'l', 's', 'e']
      mismatchHere (.invalidType (.bool false) wanted)
  | some '"' =>
      skip
      let text ← string
      mismatchHere (.invalidType (.string text) wanted)
  | some '[' => mismatchHere (.invalidType .list wanted)
  | some '\x7b' => mismatchHere (.invalidType .object wanted)
  | some c =>
      if c == '-' || c.isDigit then
        let n ← number
        mismatchHere (.invalidType (.number n) wanted)
      else
        failNext .valueWanted
  | none => failNext .endInValue

/- Read a number that has a wanted value. -/
def numberOf
    (kind : String)
    (valueOf : Number → Except Mismatch α) : Reader α := do
  match ← peek with
  | none => failNext .endInValue
  | some c =>
      if c == '-' || c.isDigit then
        orMismatch (valueOf (← number))
      else
        refuse kind

/- Read a string. -/
def text
    (wanted : String) : Reader String := do
  match ← peek with
  | none => failNext .endInValue
  | some '"' =>
      skip
      string
  | some _ => refuse wanted

/- Read a truth value. -/
def flag : Reader Bool := do
  match ← peek with
  | none => failNext .endInValue
  | some 't' =>
      word ['t', 'r', 'u', 'e']
      pure true
  | some 'f' =>
      word ['f', 'a', 'l', 's', 'e']
      pure false
  | some _ => refuse "a boolean"

/- Read the word for nothing. -/
def nothing : Reader Unit := do
  match ← peek with
  | none => failNext .endInValue
  | some 'n' => word ['n', 'u', 'l', 'l']
  | some _ => refuse "unit"

/- Pass over blanks to the key that an object has to have. -/
def onlyKey : Reader Unit := do
  match ← peek with
  | none => failNext .endInObject
  | some '"' => pure ()
  | some '\x7d' => failNext .valueWanted
  | some _ => failNext .keyWanted

/-
  Read a name, or an object with that one name and nothing as
  its value.
-/
def choice
    (names : List (String × α))
    (known : List String) : Reader α := do
  match ← peek with
  | none => failNext .endInValue
  | some '"' => name
  | some '\x7b' =>
      skip
      onlyKey
      let value ← name
      colon
      nothing
      match ← peek with
      | some '\x7d' =>
          skip
          pure value
      | some _ => failHere .valueWanted
      | none => failHere .endInObject
  | some _ => failNext .valueWanted
where
  name : Reader α := do
    skip
    orMismatch (choiceOf names known (← string))

/- Read a value, or the word for nothing. -/
def optional
    (value : Reader α) : Reader (Option α) := do
  match ← peek with
  | some 'n' =>
      word ['n', 'u', 'l', 'l']
      pure none
  | _ => return some (← value)

/- Read a list of values. -/
def list
    (item : Reader α) : Reader (List α) := do
  match ← peek with
  | none => failNext .endInValue
  | some '[' =>
      skip
      listItems item
  | some _ => refuse "a sequence"

/-
  Stop at a member that came before.  The blanks after its key
  are passed over, and the object's end if it follows them.
-/
def duplicate
    (name : String) : Reader α := do
  if (← peek) == some '\x7d' then
    skip
  mismatchHere (.duplicateField name)

end Reader

mutual

/- Read a value that stands in the text as described. -/
def Format.read : {α : Type} → Format α → Reader α
  | _, .text => Reader.text "a string"
  | _, .flag => Reader.flag
  | _, .integer => Reader.numberOf integerKind integerOf
  | _, .natural kind => Reader.numberOf kind (naturalOf kind)
  | _, .choice _ names known _ => Reader.choice names known
  | _, .optional format => Reader.optional format.read
  | _, .list format => Reader.list format.read
  | _, .record title fields build _ => do
      match ← Reader.peek with
      | none => Reader.failNext .endInValue
      | some '\x7b' =>
          Reader.skip
          let parts ← Reader.loop (fun (isFirst, slots) => do
            match ← Reader.nextKey isFirst with
            | none =>
                return .inr (← Reader.orMismatch (fields.fill slots))
            | some name =>
                return .inl (false, ← fields.readInto name slots))
            (true, fields.vacant)
          return build parts
      | some '[' =>
          Reader.skip
          let wanted := recordOfCount title fields.count
          return build (← fields.readItems wanted 0)
      | some _ => Reader.refuse (recordName title)

/- Read the value of a member into the slot of its field. -/
def Fields.readInto
    (name : String) :
    {α σ : Type} → Fields α σ → σ → Reader σ
  | _, _, .done, () => do
      Reader.colon
      Reader.skipValue
  | _, _, .field fieldName format _ _ rest, (slot, slots) => do
      if fieldName = name then
        match slot with
        | some _ => Reader.duplicate name
        | none =>
            Reader.colon
            return (some (← format.read), slots)
      else
        return (slot, ← rest.readInto name slots)

/- Read the items of a list into the fields, up to its end. -/
def Fields.readItems
    (wanted : String) :
    {α σ : Type} → Fields α σ → Nat → Reader α
  | _, _, .done, _ => Reader.closeList
  | _, _, .field name format absent isOmitted rest, index => do
      if ← Reader.nextItem (index == 0) then
        let value ← format.read
        return (value, ← rest.readItems wanted (index + 1))
      else
        Reader.orMismatch (Fields.fillAbsent wanted
          (.field name format absent isOmitted rest) index)

end

/- The value that a whole text stands for. -/
def Format.parse
    {α : Type}
    (format : Format α)
    (source : String) : Except Json.Refusal α :=
  format.read.finish source

end Questionnaire
