import Questionnaire.Form.Basic

/-
  Plans: what a session has to know of a form.

  Key definitions include:
    * `Delays`
    * `Prompt`
    * `Target`
    * `Targets`
    * `Plan`
    * `Plan.ofForm`
    * `Plan.promptAt?`

  The steps of a plan are its questions, then the review of the
  answers, then the commitment.
-/

------------------------------------------------------------
-- Plans
------------------------------------------------------------

namespace Questionnaire

/- How long a page waits, in milliseconds. -/
structure Delays where
  afterChoice : Nat := 450
  beforeRedirect : Nat := 2000
  deriving DecidableEq, Repr

/- How a form is turned into a page. -/
structure Settings where
  delays : Delays := {}
  deriving DecidableEq, Repr

/- A question as a session asks it. -/
structure Prompt where
  id : String
  kind : Kind
  label : String
  required : Bool
  options : List String := []
  deriving DecidableEq, Repr

/- Where answers go, and where their respondent goes then. -/
structure Target where
  webhook : String
  redirect : String
  deriving DecidableEq, Repr

/- The targets of those who qualify and of the others. -/
structure Targets where
  qualified : Target
  disqualified : Target
  deriving DecidableEq, Repr

/- What a session has to know of a form. -/
structure Plan where
  version : String
  totalSteps : Nat
  prompts : List Prompt
  criteria : Criteria
  targets : Targets
  delays : Delays
  deriving DecidableEq, Repr

end Questionnaire

------------------------------------------------------------
-- The Plan of a Form
------------------------------------------------------------

namespace Questionnaire

/- A question as a session asks it. -/
def Prompt.ofQuestion
    (question : Question) : Prompt :=
  { id := question.id
    kind := question.kind
    label := question.label
    required := question.required
    options := question.offered.map (·.value) }

/- The targets that a form names, trimmed. -/
def Targets.ofEndpoints
    (endpoints : Endpoints) : Targets :=
  { qualified :=
      ⟨Text.trim endpoints.webhooks.qualified,
        Text.trim endpoints.redirects.qualified⟩
    disqualified :=
      ⟨Text.trim endpoints.webhooks.disqualified,
        Text.trim endpoints.redirects.disqualified⟩ }

/- The version of plans and of the script that follows them. -/
def planVersion : String := "1.2.0"

namespace Plan

/- The plan of a form. -/
def ofForm
    (form : Form)
    (delays : Delays) : Plan :=
  let prompts := form.inOrder.map Prompt.ofQuestion
  { version := planVersion
    totalSteps := prompts.length + 2
    prompts := prompts
    criteria := form.criteria
    targets := Targets.ofEndpoints form.endpoints
    delays := delays }

/- The step at which the answers are reviewed. -/
def stepOfReview
    (plan : Plan) : Nat :=
  plan.prompts.length + 1

/- The step at which a respondent commits. -/
def stepOfCommitment
    (plan : Plan) : Nat :=
  plan.prompts.length + 2

/- The question of a step; steps are counted from one. -/
def promptAt?
    (plan : Plan)
    (step : Nat) : Option Prompt :=
  match step with
  | 0 => none
  | index + 1 => plan.prompts[index]?

end Plan

end Questionnaire
