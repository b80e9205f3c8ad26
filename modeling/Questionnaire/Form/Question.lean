import Questionnaire.Form.Kind
import Questionnaire.Text.Blank

/-
  Questions and the options of those that offer a choice.

  Key definitions include:
    * `Choice`
    * `Question`
    * `Question.hint?`
    * `Question.offered`
-/

------------------------------------------------------------
-- Questions
------------------------------------------------------------

namespace Questionnaire

/- One of the options of a question. -/
structure Choice where
  id : String
  label : String
  value : String
  deriving DecidableEq, Repr

/-
  A question.  Questions are asked by ascending `order`; a fixed
  one is kept as it is by the editor.
-/
structure Question where
  id : String
  kind : Kind
  label : String
  placeholder : Option String := none
  required : Bool := false
  order : Int := 0
  isFixed : Bool := false
  options : List Choice := []
  deriving DecidableEq, Repr

namespace Question

/- The placeholder, unless it is blank. -/
def hint?
    (question : Question) : Option String :=
  question.placeholder.filter (fun text => !Text.isBlank text)

/- The options that can be chosen: none unless it is a choice. -/
def offered
    (question : Question) : List Choice :=
  if question.kind.isChoice then question.options else []

end Question

end Questionnaire

------------------------------------------------------------
-- Questions in JSON
------------------------------------------------------------

namespace Questionnaire

/- An option stands in JSON as a record. -/
def Choice.format : Format Choice :=
  .record "QuestionOption"
    (.required "id" .text <|
      .required "label" .text <|
      .required "value" .text .done)
    (fun (id, label, value, _) => ⟨id, label, value⟩)
    (fun choice => (choice.id, choice.label, choice.value, ()))

/- A question stands in JSON as a record. -/
def Question.format : Format Question :=
  .record "Question"
    (.required "id" .text <|
      .required "type" Kind.format <|
      .required "label" .text <|
      .omitted "placeholder" (.optional .text) none Option.isNone <|
      .withDefault "required" .flag false <|
      .withDefault "order" .integer 0 <|
      .withDefault "isFixed" .flag false <|
      .omitted "options" (.list Choice.format) [] List.isEmpty .done)
    (fun (id, kind, label, placeholder, required, order, isFixed,
        options, _) =>
      ⟨id, kind, label, placeholder, required, order, isFixed,
        options⟩)
    (fun question =>
      (question.id, question.kind, question.label,
        question.placeholder, question.required, question.order,
        question.isFixed, question.options, ()))

end Questionnaire
