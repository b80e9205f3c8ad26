import Questionnaire.Entry.Email
import Questionnaire.Entry.Phone
import Questionnaire.Form.Kind

/-
  Judging what is typed into a field.

  Key definitions include:
    * `Validator`
    * `Validator.ofKind?`
    * `Validator.judge`
    * `Entry`
-/

------------------------------------------------------------
-- Validators
------------------------------------------------------------

namespace Questionnaire

/- How the text of a field is judged. -/
inductive Validator where
  | text
  | email
  | phone
  deriving DecidableEq, Repr

/- What is stored of an entry, and whether it will do. -/
structure Entry where
  value : String
  valid : Bool
  deriving DecidableEq, Repr

namespace Validator

/- The validator of a kind; a choice has none. -/
def ofKind? : Kind → Option Validator
  | .shortText | .longText => some .text
  | .email => some .email
  | .phone => some .phone
  | .choiceList | .choiceCards => none

/- What is shown at a field whose text will not do. -/
def message : Validator → String
  | .text => "Preenchimento obrigatório"
  | .email => "Informe um e-mail válido"
  | .phone => "Informe um telefone com DDD"

/-
  Judge an entry.  A field that is not required may be left
  blank; a telephone number is stored as it is laid out.
-/
def judge
    (validator : Validator)
    (raw : String)
    (required : Bool) : Entry :=
  match validator with
  | .text => ⟨raw, !required || !Text.isBlank raw⟩
  | .email =>
      ⟨raw, if Text.isBlank raw then !required else Email.accepts raw⟩
  | .phone =>
      let digits := Phone.digits raw.toList
      ⟨Phone.format raw,
        if digits.isEmpty then
          !required
        else
          decide (Phone.minDigits ≤ digits.length)⟩

/- The name of a validator. -/
def name : Validator → String
  | .text => "text"
  | .email => "email"
  | .phone => "phone"

/- The names that are read. -/
def names : List (String × Validator) :=
  [("text", .text), ("email", .email), ("phone", .phone)]

/- A validator stands in JSON by its name. -/
def format : Format Validator :=
  .choice "Validator" names (names.map (·.1)) name

end Validator

end Questionnaire
