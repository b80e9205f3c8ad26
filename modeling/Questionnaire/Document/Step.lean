import Questionnaire.Document.Piece
import Questionnaire.Entry.Validator
import Questionnaire.Form.Basic

/-
  The part of a page that asks one question.

  Key definitions include:
    * `Control`
    * `Control.ofQuestion`
    * `stepPieces`
-/

------------------------------------------------------------
-- Controls
------------------------------------------------------------

namespace Questionnaire.Document

/- The control by which a question is answered. -/
inductive Control where
  | line (inputType : String) (validator : Validator)
      (maxLength : Option Nat)
  | lines
  | options (layout : String) (choices : List Choice)
  deriving DecidableEq, Repr

/- The control of a question. -/
def Control.ofQuestion
    (question : Question) : Control :=
  match question.kind with
  | .shortText => .line "text" .text none
  | .longText => .lines
  | .email => .line "email" .email none
  | .phone => .line "tel" .phone (some Phone.maxLength)
  | .choiceList => .options "list" question.options
  | .choiceCards => .options "cards" question.options

end Questionnaire.Document

------------------------------------------------------------
-- Parts of a Step
------------------------------------------------------------

namespace Questionnaire.Document

/- The button that goes back. -/
def backButton : String :=
  "<button type=\"button\" class=\"btn-back\" data-action=\"back\">"
    ++ "<svg viewBox=\"0 0 24 24\"><polyline points=\"15 18 9 12 15 6\"/></svg>"
    ++ " Voltar</button>"

/- A number that is shown. -/
def shownNumber
    (n : Nat) : Piece :=
  .shown (toString n)

/- What of an optional text is shown. -/
def shownOption
    (text : Option String) : Piece :=
  .shown (text.getD "")

/- One option of a question. -/
def optionPieces
    (questionId : String)
    (choice : Choice) : List Piece := [
  .markup "          <label class=\"radio-card\" data-action=\"select\" data-value=\"",
  .shown choice.value,
  .markup "\">\n            <input type=\"radio\" name=\"q-",
  .shown questionId,
  .markup "\" value=\"",
  .shown choice.value,
  .markup "\" />\n            <span class=\"radio-label\">",
  .shown choice.label,
  .markup "</span>\n          </label>\n"]

/- What stands in the place of options when there are none. -/
def noOptionPieces : List Piece := [
  .markup "          <p class=\"empty-options\">Nenhuma opção disponível.</p>\n"]

/- The options of a question. -/
def choicePieces
    (question : Question)
    (layout : String)
    (choices : List Choice) : List Piece :=
  [ .markup "        <div class=\"radio-group radio-group--",
    .shown layout,
    .markup "\" id=\"group-",
    .shown question.id,
    .markup "\">\n" ]
    ++ (if choices.isEmpty then
          noOptionPieces
        else
          choices.flatMap (optionPieces question.id))
    ++ [ .markup "        </div>\n" ]

/- The field for one line of text. -/
def linePieces
    (question : Question)
    (inputType : String)
    (maxLength : Option Nat) : List Piece :=
  [ .markup "          <input type=\"",
    .shown inputType,
    .markup "\" id=\"inp-",
    .shown question.id,
    .markup "\" data-field=\"",
    .shown question.id,
    .markup "\" placeholder=\"",
    shownOption question.hint?,
    .markup "\"" ]
    ++ (match maxLength with
        | some n =>
            [.markup " maxlength=\"", shownNumber n, .markup "\""]
        | none => [])
    ++ [ .markup " />\n" ]

/- The field for several lines of text. -/
def textAreaPieces
    (question : Question) : List Piece := [
  .markup "          <textarea id=\"inp-",
  .shown question.id,
  .markup "\" data-field=\"",
  .shown question.id,
  .markup "\" placeholder=\"",
  shownOption question.hint?,
  .markup "\" rows=\"4\"></textarea>\n"]

/- A field with its label, its message and the way on. -/
def fieldPieces
    (question : Question)
    (field : List Piece)
    (message : String)
    (goOn : String) : List Piece :=
  [ .markup "        <div class=\"input-group\">\n          <label for=\"inp-",
    .shown question.id,
    .markup "\">",
    .shown question.label,
    .markup "</label>\n" ]
    ++ field
    ++ [ .markup "          <div class=\"error-msg\" id=\"err-",
      .shown question.id,
      .markup "\">",
      .shown message,
      .markup
        ("</div>\n        </div>\n"
          ++ "        <button type=\"button\" class=\"btn-primary\" data-action=\"continue\"") ]
    ++ whenTrue question.required [.markup " disabled"]
    ++ [ .markup ">",
      .shown goOn,
      .markup "</button>\n" ]

/- The control of a question with what belongs to it. -/
def controlPieces
    (question : Question)
    (goOn : String) : List Piece :=
  match Control.ofQuestion question with
  | .line inputType validator maxLength =>
      fieldPieces question (linePieces question inputType maxLength)
        validator.message goOn
  | .lines =>
      fieldPieces question (textAreaPieces question)
        Validator.text.message goOn
  | .options layout choices => choicePieces question layout choices

end Questionnaire.Document

------------------------------------------------------------
-- Steps
------------------------------------------------------------

namespace Questionnaire.Document

/- The sign above a question. -/
def questionIcon : String :=
  "<div class=\"step-icon\"><svg viewBox=\"0 0 24 24\">"
    ++ "<circle cx=\"12\" cy=\"12\" r=\"10\"/>"
    ++ "<path d=\"M9.09 9a3 3 0 015.83 1c0 2-3 3-3 3\"/>"
    ++ "<line x1=\"12\" y1=\"17\" x2=\"12.01\" y2=\"17\"/></svg></div>"

/-
  The step that asks a question: the first one is on screen at
  the beginning, the others lead back, and the last one leads
  on to the review.
-/
def stepPieces
    (step : Nat)
    (last : Nat)
    (question : Question) : List Piece :=
  .markup "      <div class=\"step"
    :: whenTrue (step == 1) [.markup " active"]
    ++ [ .markup "\" data-step=\"",
      shownNumber step,
      .markup "\" data-qid=\"",
      .shown question.id,
      .markup "\" data-kind=\"",
      .shown question.kind.name,
      .markup "\">\n        " ]
    ++ whenTrue (1 < step) [.markup backButton]
    ++ [ .markup ("\n        " ++ questionIcon ++ "\n        <h2>"),
      .shown question.label,
      .markup "</h2>\n        " ]
    ++ (match question.hint? with
        | some hint =>
            [ .markup "<p class=\"subtitle\">", .shown hint,
              .markup "</p>" ]
        | none => [])
    ++ .markup "\n"
    :: controlPieces question
        (if step == last then "Revisar" else "Continuar")
    ++ [ .markup "      </div>\n" ]

end Questionnaire.Document
