import Questionnaire.Form.Criteria
import Questionnaire.Form.Question
import Questionnaire.Text.Split

/-
  Forms: whose questionnaire it is, what it asks, who qualifies,
  and where the answers go.

  Key definitions include:
    * `Company`
    * `VerdictPair`
    * `Endpoints`
    * `Form`
    * `Form.inOrder`
-/

------------------------------------------------------------
-- Companies
------------------------------------------------------------

namespace Questionnaire

/- The two colours of a page; blank ones are the usual ones. -/
structure Palette where
  primary : String := ""
  secondary : String := ""
  deriving DecidableEq, Repr

/- The wording of a page; each line of benefits is one. -/
structure Wording where
  pageTitle : String := ""
  heroTitle : String := ""
  heroSubtitle : String := ""
  benefits : String := ""
  deriving DecidableEq, Repr

/- The company that asks, and how it presents itself. -/
structure Company where
  name : String
  slug : String
  logo : Option String := none
  palette : Palette := {}
  wording : Wording := {}
  deriving DecidableEq, Repr

namespace Company

/- The logo, trimmed, unless it is blank. -/
def logo?
    (company : Company) : Option String :=
  company.logo.bind Text.nonBlank?

/- The primary colour, or else orange. -/
def primary
    (company : Company) : String :=
  (Text.nonBlank? company.palette.primary).getD "#ff8533"

/- The secondary colour, or else yellow. -/
def secondary
    (company : Company) : String :=
  (Text.nonBlank? company.palette.secondary).getD "#ffc933"

/- The title of the page. -/
def pageTitle
    (company : Company) : String :=
  (Text.nonBlank? company.wording.pageTitle).getD "Formulário"

/- The headline, or else the name of the company. -/
def heroTitle
    (company : Company) : String :=
  (Text.nonBlank? company.wording.heroTitle).getD company.name

/- The line below the headline, unless it is blank. -/
def heroSubtitle?
    (company : Company) : Option String :=
  Text.nonBlank? company.wording.heroSubtitle

/- The lines of benefits, trimmed, without the blank ones. -/
def benefits
    (company : Company) : List String :=
  (Text.split (fun c => c == '\n')
    company.wording.benefits.toList).filterMap
      (fun line => Text.nonBlank? (String.ofList line))

end Company

end Questionnaire

------------------------------------------------------------
-- Forms
------------------------------------------------------------

namespace Questionnaire

/- One address for those who qualify and one for the others. -/
structure VerdictPair where
  qualified : String := ""
  disqualified : String := ""
  deriving DecidableEq, Repr

/- Where answers are sent, and where respondents go then. -/
structure Endpoints where
  webhooks : VerdictPair := {}
  redirects : VerdictPair := {}
  deriving DecidableEq, Repr

/- A questionnaire as it was edited. -/
structure Form where
  company : Company
  questions : List Question := []
  criteria : Criteria := {}
  endpoints : Endpoints := {}
  deriving DecidableEq, Repr

namespace Form

/-
  The questions as they are asked: by ascending order, and
  those of one order as they were edited.
-/
def inOrder
    (form : Form) : List Question :=
  form.questions.mergeSort (fun a b => a.order ≤ b.order)

/- The first question with an id. -/
def question?
    (form : Form)
    (id : String) : Option Question :=
  form.questions.find? (fun question => question.id == id)

end Form

end Questionnaire
