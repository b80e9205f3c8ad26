import Questionnaire.Form.Wire
import Questionnaire.Text.Slug

/-
  The form that a new company begins with.

  Key definitions include:
    * `StarterError`
    * `starterQuestions`
    * `Form.starter`
-/

------------------------------------------------------------
-- The First Questions
------------------------------------------------------------

namespace Questionnaire

/- A contact field, which the editor keeps as it is. -/
def contactField
    (order : Int)
    (id : String)
    (kind : Kind)
    (label : String)
    (placeholder : String) : Question :=
  { id := id
    kind := kind
    label := label
    placeholder := some placeholder
    required := true
    order := order
    isFixed := true }

/- A list to choose from; the options are numbered from one. -/
def choiceList
    (order : Int)
    (id : String)
    (label : String)
    (optionId : String)
    (options : List (String × String)) : Question :=
  { id := id
    kind := .choiceList
    label := label
    required := true
    order := order
    options := options.zipIdx.map (fun ((label, value), index) =>
      { id := optionId ++ "-" ++ toString (index + 1)
        label := label
        value := value }) }

/- The questions that every company begins with. -/
def starterQuestions : List Question := [
  contactField 0 "name" .shortText "Qual o seu nome?" "Digite seu nome",
  contactField 1 "whatsapp" .phone "Seu WhatsApp" "(00) 00000-0000",
  contactField 2 "email" .email "Seu e-mail" "seuemail@exemplo.com",
  choiceList 3 "location" "Qual sua localidade?" "opt" [
    ("São Paulo/SP", "São Paulo/SP"),
    ("Outra", "Outra")],
  choiceList 4 "priority" "Qual seu nível de prioridade?" "prio" [
    ("Comecei a pesquisar agora. Pouco urgente", "Baixa"),
    ("Estou fazendo cotações e pretendo me decidir em breve", "Média"),
    ("Tenho grande prioridade em começar a economizar", "Alta")],
  choiceList 5 "billValue" "Valor da conta de energia" "val" [
    ("Até R$ 200", "Até R$ 200"),
    ("R$ 200 a R$ 400", "R$ 200 a R$ 400"),
    ("R$ 400 a R$ 600", "R$ 400 a R$ 600"),
    ("R$ 600 a R$ 800", "R$ 600 a R$ 800"),
    ("Acima de R$ 1.000", "Acima de R$ 1.000")]]

end Questionnaire

------------------------------------------------------------
-- The First Form
------------------------------------------------------------

namespace Questionnaire

/- Why there is no form for a company's name. -/
inductive StarterError where
  | blankName
  | noSlug (name : String)
  deriving DecidableEq, Repr

/- The message for a name that cannot be used. -/
def StarterError.message : StarterError → String
  | .blankName => "company name cannot be empty"
  | .noSlug name =>
      "company name '" ++ name ++ "' does not produce a usable slug"

/- The form that a company with a name begins with. -/
def Form.starter
    (companyName : String) : Except StarterError Form :=
  let name := Text.trim companyName
  let slug := Slug.ofName name
  if name.isEmpty then
    .error .blankName
  else if slug.isEmpty then
    .error (.noSlug name)
  else
    .ok {
      company := {
        name := name
        slug := slug
        palette := ⟨"#3b82f6", "#fbbf24"⟩
        wording := {
          pageTitle := "Simulador Solar"
          heroTitle := "Economize até 95% na conta de luz"
          heroSubtitle := "Solicite agora uma análise gratuita" } }
      questions := starterQuestions }

/- The text of a form in a file of its own. -/
def Form.fileText
    (form : Form) : String :=
  form.toJson.pretty ++ "\n"

end Questionnaire
