import Questionnaire.Form.Wire
import Questionnaire.Text.Slug

/-
  The audit of a form: what makes its page impossible, and what
  makes it misbehave.

  Key definitions include:
    * `FormError`
    * `Warning`
    * `isHexColor`
    * `Form.audit`

  Errors that no form can cause, in the templates of a page or
  in writing its plan, are left out.
-/

------------------------------------------------------------
-- Errors and Warnings
------------------------------------------------------------

namespace Questionnaire

/- The fields of a company that must not be blank. -/
inductive CompanyField where
  | companyName
  | slug
  deriving DecidableEq, Repr

/- The two colours of a palette. -/
inductive ColorField where
  | primary
  | secondary
  deriving DecidableEq, Repr

/- Why there is no page for a form. -/
inductive FormError where
  | unknownKind (unknown : UnknownKind)
  | blankQuestionId (position : Nat)
  | repeatedQuestionId (id : String)
  | repeatedOptionId (questionId : String) (optionId : String)
  | blankField (field : CompanyField)
  | badSlug (slug : String)
  | badColor (field : ColorField) (value : String)
  | unreadable (refusal : Json.Refusal)
  deriving DecidableEq, Repr

/- What a form's respondents may run into. -/
inductive Warning where
  | danglingRule (ruleId : String) (questionId : String)
  | noOptions (questionId : String)
  deriving DecidableEq, Repr

/- The name of a field of the company. -/
def CompanyField.name : CompanyField → String
  | .companyName => "companyName"
  | .slug => "slug"

/- The name of a colour. -/
def ColorField.name : ColorField → String
  | .primary => "primary"
  | .secondary => "secondary"

/- The message for an error. -/
def FormError.message : FormError → String
  | .unknownKind unknown =>
      "question '" ++ unknown.question ++ "' has unknown type '"
        ++ unknown.kind ++ "'"
  | .blankQuestionId position =>
      "question at position " ++ toString position
        ++ " has an empty id"
  | .repeatedQuestionId id =>
      "question id '" ++ id ++ "' is used more than once"
  | .repeatedOptionId questionId optionId =>
      "question '" ++ questionId ++ "' repeats option id '"
        ++ optionId ++ "'"
  | .blankField field =>
      "identity field '" ++ field.name ++ "' is required"
  | .badSlug slug =>
      "slug '" ++ slug
        ++ "' is not a URL-safe token (lowercase letters, digits and single dashes)"
  | .badColor field value =>
      "color '" ++ field.name ++ "' has invalid value '" ++ value
        ++ "' (expected #rgb or #rrggbb)"
  | .unreadable refusal =>
      "failed to parse form definition: " ++ refusal.message

/- The message for a warning. -/
def Warning.message : Warning → String
  | .danglingRule ruleId questionId =>
      "rule '" ++ ruleId ++ "' targets unknown question '"
        ++ questionId ++ "' and will never match"
  | .noOptions questionId =>
      "choice question '" ++ questionId
        ++ "' has no options; respondents cannot advance past it"

/- The form of a text, or why there is no page for it. -/
def Form.read
    (source : String) : Except FormError Form :=
  match Form.parse source with
  | .ok form => .ok form
  | .error (.unknownKind unknown) => .error (.unknownKind unknown)
  | .error (.refused refusal) => .error (.unreadable refusal)

end Questionnaire

------------------------------------------------------------
-- The Company
------------------------------------------------------------

namespace Questionnaire

/- Whether a character is a hexadecimal digit. -/
def isHexDigit
    (c : Char) : Bool :=
  c.isDigit || ('a' ≤ c && c ≤ 'f') || ('A' ≤ c && c ≤ 'F')

/- Whether a text is `#rgb` or `#rrggbb`. -/
def isHexColor
    (text : String) : Bool :=
  match text.toList with
  | '#' :: digits =>
      (digits.length == 3 || digits.length == 6)
        && digits.all isHexDigit
  | _ => false

/- The name and the slug are there, and the slug is one. -/
def Company.auditName
    (company : Company) : Except FormError Unit := do
  if Text.isBlank company.name then
    throw (.blankField .companyName)
  if Text.isBlank company.slug then
    throw (.blankField .slug)
  if !Slug.isSlug company.slug then
    throw (.badSlug company.slug)

/- A colour is one that a page can use. -/
def auditColor
    (field : ColorField)
    (value : String) : Except FormError Unit :=
  if isHexColor value then .ok () else .error (.badColor field value)

end Questionnaire

------------------------------------------------------------
-- The Questions
------------------------------------------------------------

namespace Questionnaire

/- The first text that occurs a second time. -/
def firstRepeated? : List String → List String → Option String
  | _, [] => none
  | seen, text :: texts =>
      if seen.contains text then
        some text
      else
        firstRepeated? (text :: seen) texts

/- A question has an id of its own, and so have its options. -/
def Question.audit
    (question : Question)
    (position : Nat)
    (seen : List String) : Except FormError Unit := do
  if Text.isBlank question.id then
    throw (.blankQuestionId position)
  if seen.contains question.id then
    throw (.repeatedQuestionId question.id)
  match firstRepeated? [] (question.offered.map (·.id)) with
  | some optionId => throw (.repeatedOptionId question.id optionId)
  | none => pure ()

/- The questions from some position on, after those seen. -/
def auditQuestions : Nat → List String → List Question →
    Except FormError Unit
  | _, _, [] => .ok ()
  | position, seen, question :: questions => do
      question.audit position seen
      auditQuestions (position + 1) (question.id :: seen) questions

/- A choice without options cannot be left forwards. -/
def Question.lacksOptions
    (question : Question) : Bool :=
  question.kind.isChoice && question.options.isEmpty

end Questionnaire

------------------------------------------------------------
-- The Audit
------------------------------------------------------------

namespace Questionnaire

namespace Form

/- The ids of the questions. -/
def questionIds
    (form : Form) : List String :=
  form.questions.map (·.id)

/- The warnings: questions first, then rules. -/
def warnings
    (form : Form) : List Warning :=
  (form.questions.filter (·.lacksOptions)).map
      (fun question => .noOptions question.id)
    ++ (form.criteria.rules.filter
        (fun rule => !form.questionIds.contains rule.questionId)).map
      (fun rule => .danglingRule rule.id rule.questionId)

/- The warnings of a form, or the first thing that is wrong. -/
def audit
    (form : Form) : Except FormError (List Warning) := do
  form.company.auditName
  auditColor .primary form.company.primary
  auditColor .secondary form.company.secondary
  auditQuestions 1 [] form.questions
  return form.warnings

end Form

end Questionnaire
