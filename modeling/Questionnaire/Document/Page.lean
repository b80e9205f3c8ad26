import Questionnaire.Document.Script
import Questionnaire.Document.Step
import Questionnaire.Document.Style
import Questionnaire.Json.Print
import Questionnaire.Plan.Wire

/-
  The page of a form: one document with its style sheet, its
  steps, its plan and its script.

  Key definitions include:
    * `headPieces`
    * `stepBlocks`
    * `closingPieces`
    * `pageOf`
    * `Form.page`
    * `Form.fileName`
-/

------------------------------------------------------------
-- The Head of the Page
------------------------------------------------------------

namespace Questionnaire.Document

/- Everything before the style sheet. -/
def titlePieces
    (company : Company) : List Piece := [
  .markup
    ("<!DOCTYPE html>\n<html lang=\"pt-BR\">\n<head>\n"
      ++ "<meta charset=\"UTF-8\">\n"
      ++ "<meta name=\"viewport\" content=\"width=device-width, initial-scale=1.0\">\n"
      ++ "<meta name=\"generator\" content=\"funnel-runtime "),
  .shown planVersion,
  .markup "\">\n<title>",
  .shown company.pageTitle,
  .markup " - ",
  .shown (Text.trim company.name),
  .markup "</title>\n"]

/- The list of benefits, if there are any. -/
def benefitPieces
    (company : Company) : List Piece :=
  if company.benefits.isEmpty then
    []
  else
    .markup "    <ul class=\"benefits\">\n      "
      :: company.benefits.flatMap
          (fun benefit =>
            [.markup "<li>", .shown benefit, .markup "</li>"])
      ++ [.markup "\n    </ul>\n"]

/- The company's logo, its headline and its benefits. -/
def heroPieces
    (company : Company) : List Piece :=
  .markup
      ("</head>\n<body>\n<div class=\"wrapper\" id=\"wrapper\">\n"
        ++ "  <div class=\"header\">\n    ")
    :: (match company.logo? with
        | some logo =>
            [ .markup "<img src=\"", .shown logo, .markup "\" alt=\"",
              .shown (Text.trim company.name), .markup "\" />" ]
        | none => [])
    ++ [ .markup "\n    <h1>",
      .shown company.heroTitle,
      .markup "</h1>\n    " ]
    ++ (match company.heroSubtitle? with
        | some subtitle =>
            [.markup "<p>", .shown subtitle, .markup "</p>"]
        | none => [])
    ++ .markup "\n" :: benefitPieces company
    ++ [.markup "  </div>\n\n"]

/- The bar that shows how far a session is. -/
def progressPieces
    (totalSteps : Nat) : List Piece := [
  .markup
    ("  <div class=\"progress-wrap\">\n"
      ++ "    <div class=\"progress-bar-bg\"><div class=\"progress-bar-fill\" id=\"progressFill\"></div></div>\n"
      ++ "    <div class=\"progress-text\" id=\"progressText\">Etapa 1 de "),
  shownNumber totalSteps,
  .markup
    ("</div>\n  </div>\n\n"
      ++ "  <form id=\"leadForm\" onsubmit=\"return false\">\n")]

end Questionnaire.Document

------------------------------------------------------------
-- The Last Steps
------------------------------------------------------------

namespace Questionnaire.Document

/- The sign above the review. -/
def reviewIcon : String :=
  "<div class=\"step-icon\"><svg viewBox=\"0 0 24 24\">"
    ++ "<path d=\"M14 2H6a2 2 0 00-2 2v16a2 2 0 002 2h12a2 2 0 002-2V8z\"/>"
    ++ "<polyline points=\"14 2 14 8 20 8\"/>"
    ++ "<line x1=\"16\" y1=\"13\" x2=\"8\" y2=\"13\"/>"
    ++ "<line x1=\"16\" y1=\"17\" x2=\"8\" y2=\"17\"/>"
    ++ "<line x1=\"10\" y1=\"9\" x2=\"8\" y2=\"9\"/></svg></div>"

/- The step that reviews the answers. -/
def reviewPieces
    (questions : Nat) : List Piece :=
  .markup "\n      <div class=\"step"
    :: whenTrue (questions == 0) [.markup " active"]
    ++ [ .markup "\" data-step=\"",
      shownNumber (questions + 1),
      .markup "\" id=\"step-review\">\n        " ]
    ++ whenTrue (0 < questions) [.markup backButton]
    ++ [ .markup
      ("\n        " ++ reviewIcon ++ "\n"
        ++ "        <h2>Confirme seus dados</h2>\n"
        ++ "        <p class=\"subtitle\">Verifique se está tudo correto</p>\n"
        ++ "        <div class=\"review-cards\" id=\"reviewCards\"></div>\n"
        ++ "        <button type=\"button\" class=\"btn-primary\" data-action=\"confirm-review\">Confirmar e Continuar</button>\n"
        ++ "      </div>\n\n") ]

/- The sign above the commitment. -/
def commitmentIcon : String :=
  "<div class=\"step-icon\"><svg viewBox=\"0 0 24 24\">"
    ++ "<path d=\"M22 11.08V12a10 10 0 11-5.93-9.14\"/>"
    ++ "<polyline points=\"22 4 12 14.01 9 11.01\"/></svg></div>"

/- The step that asks for a commitment. -/
def commitmentPieces
    (questions : Nat) : List Piece := [
  .markup "      <div class=\"step\" data-step=\"",
  shownNumber (questions + 2),
  .markup
    ("\" id=\"step-commit\">\n        " ++ backButton ++ "\n        "
      ++ commitmentIcon ++ "\n"
      ++ "        <h2>Último passo!</h2>\n"
      ++ "        <p class=\"subtitle\">Devido à alta demanda, precisamos confirmar seu interesse real. "
      ++ "Um especialista entrará em contato em breve.</p>\n"
      ++ "        <div class=\"commit-btns\">\n"
      ++ "          <button type=\"button\" class=\"btn-commit-yes\" data-action=\"commit\" data-answer=\"yes\">\n"
      ++ "            <svg width=\"24\" height=\"24\" viewBox=\"0 0 24 24\">"
      ++ "<polyline points=\"20 6 9 17 4 12\" stroke=\"currentColor\" fill=\"none\" stroke-width=\"2\"/></svg>\n"
      ++ "            Sim, aguardo o contato\n"
      ++ "          </button>\n"
      ++ "          <button type=\"button\" class=\"btn-commit-no\" data-action=\"commit\" data-answer=\"no\">Não tenho interesse agora</button>\n"
      ++ "        </div>\n"
      ++ "      </div>\n")]

end Questionnaire.Document

------------------------------------------------------------
-- The End of the Page
------------------------------------------------------------

namespace Questionnaire.Document

/- What is shown once a session has ended. -/
def successPieces : List Piece := [
  .markup
    ("  </form>\n</div>\n\n"
      ++ "<div class=\"success-overlay\" id=\"successOverlay\">\n"
      ++ "  <div class=\"success-icon\"><svg viewBox=\"0 0 24 24\"><polyline points=\"20 6 9 17 4 12\"/></svg></div>\n"
      ++ "  <div class=\"success-title\">Recebemos seus dados!</div>\n"
      ++ "  <div class=\"success-sub\">Em breve entraremos em contato.</div>\n"
      ++ "</div>\n\n")]

/- The tag that opens the element with the plan. -/
def planMarker : String :=
  "<script type=\"application/json\" id=\"funnel-config\">"

/- The tag that closes an element with a script or a plan. -/
def scriptEnd : String :=
  "</script>"

/- The plan as it stands in a page. -/
def planText
    (plan : Plan) : String :=
  Json.embedded (Plan.format.toJson plan).compact

/- Everything after the plan. -/
def closingText : String :=
  scriptEnd ++ "\n<script>\n" ++ scriptText ++ "\n" ++ scriptEnd
    ++ "\n</body>\n</html>\n"

end Questionnaire.Document

------------------------------------------------------------
-- Pages
------------------------------------------------------------

namespace Questionnaire.Document

/- Everything before the steps. -/
def headPieces
    (company : Company)
    (totalSteps : Nat) : List Piece :=
  titlePieces company ++ stylePieces (Colors.ofCompany company)
    ++ heroPieces company ++ progressPieces totalSteps

/- The steps that ask the questions, each one indented. -/
def stepBlocks
    (questions : List Question) : List (List Char) :=
  questions.zipIdx.map (fun (question, index) =>
    indented (stepPieces (index + 1) questions.length question))

/- Everything between the questions and the plan. -/
def closingPieces
    (questions : Nat) : List Piece :=
  reviewPieces questions ++ commitmentPieces questions
    ++ successPieces

/- The page of a form with its plan. -/
def pageOf
    (form : Form)
    (plan : Plan) : String :=
  let questions := form.inOrder
  String.ofList
    (written (headPieces form.company plan.totalSteps)
      ++ (stepBlocks questions).flatten
      ++ written (closingPieces questions.length)
      ++ planMarker.toList ++ (planText plan).toList
      ++ closingText.toList)

end Questionnaire.Document

namespace Questionnaire

namespace Form

/- The page of a form, unless the audit finds an error. -/
def page
    (form : Form)
    (settings : Settings) : Except FormError String := do
  let _ ← form.audit
  return Document.pageOf form (Plan.ofForm form settings.delays)

/- The name of the file that holds the page of a form. -/
def fileName
    (form : Form) : String :=
  "formulario-" ++ form.company.slug ++ ".html"

end Form

end Questionnaire
