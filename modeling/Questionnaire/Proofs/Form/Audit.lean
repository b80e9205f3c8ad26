import Questionnaire.Form.Audit
import Questionnaire.Plan.Basic
import Questionnaire.Proofs.Results
import Mathlib.Data.List.Nodup

/-
  What a form is known to be once its audit has passed.

  Key definitions include:
    * `Form.Audited`
    * `Plan.Distinct`

  Its questions have ids of their own
  (`Form.nodup_questionIds`), so its plan asks for each id at
  one step only (`Plan.Distinct.step_eq`).
-/

------------------------------------------------------------
-- Audited Questions
------------------------------------------------------------

namespace Questionnaire

/- An audited question has an id that was not seen. -/
theorem Question.not_seen_of_audit
    {question : Question}
    {position : Nat}
    {seen : List String}
    (hAudit : question.audit position seen = .ok ()) :
    question.id ∉ seen := by
  intro hSeen
  unfold Question.audit at hAudit
  cases hBlank : Text.isBlank question.id with
  | true =>
      simp [hBlank, bind, Except.bind, throw,
        throwThe, MonadExceptOf.throw] at hAudit
  | false =>
      simp [hBlank, hSeen, bind, Except.bind, throw,
        throwThe, MonadExceptOf.throw] at hAudit

/- Audited questions have new ids, each one its own. -/
theorem nodup_of_auditQuestions
    {position : Nat}
    {seen : List String}
    {questions : List Question}
    (hAudit :
      auditQuestions position seen questions = .ok ()) :
    (questions.map (·.id)).Nodup ∧
      ∀ question ∈ questions, question.id ∉ seen := by
  induction questions generalizing position seen with
  | nil => simp
  | cons question questions ih =>
      rcases bind_eq_ok.mp hAudit with ⟨_, hFirst, hRest⟩
      rcases ih hRest with ⟨hNodup, hNew⟩
      refine ⟨?_, ?_⟩
      · simp only [List.map_cons, List.nodup_cons]
        refine ⟨?_, hNodup⟩
        intro hMem
        rcases List.mem_map.mp hMem with ⟨other, hOther, hId⟩
        exact hNew other hOther (by simp [hId])
      · intro other hOther
        rcases List.mem_cons.mp hOther with hEq | hRestMem
        · rw [hEq]
          exact Question.not_seen_of_audit hFirst
        · intro hSeen
          exact hNew other hRestMem
            (List.mem_cons_of_mem _ hSeen)

namespace Form

variable {form : Form}
variable {warnings : List Warning}

/- A form finds a question for its own ids, and for no other. -/
theorem question?_eq_none_iff
    {id : String} :
    form.question? id = none ↔ id ∉ form.questionIds := by
  simp [question?, questionIds]

/- An audit that passes has passed each of its parts. -/
structure Audited
    (form : Form)
    (warnings : List Warning) : Prop where
  name : form.company.auditName = .ok ()
  primary : auditColor .primary form.company.primary = .ok ()
  secondary :
    auditColor .secondary form.company.secondary = .ok ()
  questions : auditQuestions 1 [] form.questions = .ok ()
  listed : warnings = form.warnings

theorem audited_of_audit
    (hAudit : form.audit = .ok warnings) :
    form.Audited warnings := by
  rcases bind_eq_ok.mp hAudit with ⟨_, hName, hColors⟩
  rcases bind_eq_ok.mp hColors with ⟨_, hPrimary, hOther⟩
  rcases bind_eq_ok.mp hOther with ⟨_, hSecondary, hAsked⟩
  rcases bind_eq_ok.mp hAsked with ⟨_, hQuestions, hListed⟩
  exact
    ⟨hName, hPrimary, hSecondary, hQuestions,
      (pure_eq_ok.mp hListed).symm⟩

/- The questions of an audited form have ids of their own. -/
theorem nodup_questionIds
    (hAudit : form.audit = .ok warnings) :
    form.questionIds.Nodup :=
  (nodup_of_auditQuestions (audited_of_audit hAudit).questions).1

end Form

end Questionnaire

------------------------------------------------------------
-- Their Plans
------------------------------------------------------------

namespace Questionnaire

/- A plan asks each question under an id of its own. -/
def Plan.Distinct
    (plan : Plan) : Prop :=
  (plan.prompts.map (·.id)).Nodup

/- The plan of an audited form has distinct ids. -/
theorem Plan.distinct_ofForm
    {form : Form}
    {warnings : List Warning}
    (hAudit : form.audit = .ok warnings)
    (delays : Delays) :
    (Plan.ofForm form delays).Distinct := by
  have hPerm :
      (form.inOrder.map (·.id)).Perm form.questionIds :=
    (List.mergeSort_perm form.questions _).map _
  have hIds :
      (Plan.ofForm form delays).prompts.map (·.id) =
        form.inOrder.map (·.id) := by
    simp [Plan.ofForm, Prompt.ofQuestion, Function.comp_def]
  unfold Plan.Distinct
  rw [hIds]
  exact hPerm.nodup_iff.mpr (Form.nodup_questionIds hAudit)

/- In such a plan an id is asked for at one step only. -/
theorem Plan.Distinct.step_eq
    {plan : Plan}
    (hDistinct : plan.Distinct)
    {step other : Nat}
    {prompt asked : Prompt}
    (hPrompt : plan.promptAt? step = some prompt)
    (hAsked : plan.promptAt? other = some asked)
    (hId : asked.id = prompt.id) :
    other = step := by
  cases step with
  | zero => simp [promptAt?] at hPrompt
  | succ index =>
      cases other with
      | zero => simp [promptAt?] at hAsked
      | succ place =>
          have hGet :
              (plan.prompts.map (·.id))[index]? =
                some prompt.id := by
            simpa using ⟨prompt, hPrompt, rfl⟩
          have hOther :
              (plan.prompts.map (·.id))[place]? =
                some prompt.id := by
            simpa using ⟨asked, hAsked, hId⟩
          rcases List.getElem?_eq_some_iff.mp hOther with ⟨hLt, _⟩
          have hPlace :=
            (List.getElem?_inj hLt hDistinct).mp
              (hOther.trans hGet.symm)
          rw [hPlace]

/- The plan of a form whose questions are listed in order. -/
def Plan.asListed
    (form : Form)
    (delays : Delays) : Plan :=
  { version := planVersion
    totalSteps := form.questions.length + 2
    prompts := form.questions.map Prompt.ofQuestion
    criteria := form.criteria
    targets := Targets.ofEndpoints form.endpoints
    delays := delays }

/- Sorting them again changes nothing. -/
theorem Plan.ofForm_eq_asListed
    {form : Form}
    (hListed :
      form.questions.Pairwise (fun a b => a.order ≤ b.order))
    (delays : Delays) :
    Plan.ofForm form delays = Plan.asListed form delays := by
  have hOrder : form.inOrder = form.questions :=
    List.mergeSort_of_pairwise (by simpa using hListed)
  simp [ofForm, asListed, hOrder]

end Questionnaire

------------------------------------------------------------
-- A Small Form
------------------------------------------------------------

namespace Questionnaire

/- A form with two fields and a choice between them. -/
def Form.small : Form :=
  { company := { name := "Acme", slug := "acme" }
    questions := [
      { id := "name"
        kind := .shortText
        label := "Name"
        required := true },
      { id := "size"
        kind := .choiceCards
        label := "Size"
        required := true
        order := 1
        options := [
          ⟨"small", "Small", "10"⟩,
          ⟨"large", "Large", "30"⟩] },
      { id := "email"
        kind := .email
        label := "E-mail"
        required := true
        order := 2 }]
    criteria := {
      rules := [⟨"large", "size", .greaterThan, "20"⟩] } }

/- The small form passes its audit without warnings. -/
theorem Form.audit_small :
    Form.small.audit = .ok [] := rfl

/- The plan of the small form. -/
def Plan.small : Plan :=
  { version := planVersion
    totalSteps := 5
    prompts := Form.small.questions.map Prompt.ofQuestion
    criteria := Form.small.criteria
    targets := Targets.ofEndpoints Form.small.endpoints
    delays := {} }

/- Its questions stand in order already. -/
theorem Plan.ofForm_small :
    Plan.ofForm Form.small {} = Plan.small :=
  Plan.ofForm_eq_asListed (by decide) {}

end Questionnaire
