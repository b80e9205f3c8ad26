import Questionnaire.Proofs.Session.Store
import Questionnaire.Proofs.Session.Verdict

/-
  What of the review is delivered.

  The review lists the answers that are not empty
  (`Session.mem_reviewLines_iff`), and these are what a payload
  has besides the status and the time.  As these two are put in
  last, an answer under one of their names is lost.
-/

------------------------------------------------------------
-- Lines of the Review
------------------------------------------------------------

namespace Questionnaire

namespace Session

variable {plan : Plan}
variable {session : Session}

/- A line shows the answer to a question, if it is not empty. -/
theorem mem_reviewLines_iff
    {line : ReviewLine} :
    line ∈ session.reviewLines plan ↔
      ∃ prompt,
        plan.promptAt? line.step = some prompt ∧
          line.questionId = prompt.id ∧
          line.label = prompt.label ∧
          session.answers.get? prompt.id = some line.value ∧
          line.value.isEmpty = false := by
  unfold reviewLines answer?
  rw [List.mem_filterMap]
  constructor
  · rintro ⟨⟨prompt, index⟩, hPlace, hLine⟩
    rw [List.mk_mem_zipIdx_iff_getElem?] at hPlace
    cases hAnswer : session.answers.get? prompt.id with
    | none => simp [hAnswer] at hLine
    | some value =>
        cases hEmpty : value.isEmpty with
        | true => simp [hAnswer, hEmpty] at hLine
        | false =>
            simp only [hAnswer, hEmpty, Bool.false_eq_true,
              if_false, Option.some.injEq] at hLine
            subst hLine
            exact ⟨prompt, hPlace, rfl, rfl, hAnswer, hEmpty⟩
  · rintro ⟨prompt, hAsked, hId, hLabel, hAnswer, hFull⟩
    rcases line with ⟨step, id, label, value⟩
    rcases Plan.promptAt?_eq_some_iff.mp hAsked with
      ⟨hPos, hGet⟩
    have hStep : step - 1 + 1 = step := Nat.sub_add_cancel hPos
    refine ⟨(prompt, step - 1), ?_, ?_⟩
    · exact List.mk_mem_zipIdx_iff_getElem?.mpr hGet
    · simp only at hId hLabel hAnswer hFull
      simp [hAnswer, hFull, hStep, hId, hLabel]

end Session

/- What is held of a question and not empty is shown. -/
theorem Plan.Holds.exists_reviewLine
    {plan : Plan}
    {session : Session}
    {id value : String}
    (hHolds : plan.Holds session.answers)
    (hAnswer : session.answers.get? id = some value)
    (hFull : value.isEmpty = false) :
    ∃ line ∈ session.reviewLines plan,
      line.questionId = id ∧ line.value = value := by
  rcases hHolds id value hAnswer with ⟨prompt, hPrompt, hId, _⟩
  rcases Plan.exists_promptAt?_of_mem hPrompt with ⟨step, hAsked⟩
  subst hId
  refine ⟨⟨step, prompt.id, prompt.label, value⟩, ?_, rfl, rfl⟩
  exact
    Session.mem_reviewLines_iff.mpr
      ⟨prompt, hAsked, rfl, rfl, hAnswer, hFull⟩

end Questionnaire

------------------------------------------------------------
-- Lines That Are Delivered
------------------------------------------------------------

namespace Questionnaire

namespace Submission.Carries

variable {targets : Targets}
variable {answers : Answers}
variable {now : Instant}
variable {submission : Submission}
variable {id value : String}

/-
  An answer that is not empty is delivered, unless the status
  or the time takes its place and says something else.
-/
theorem delivers_iff
    (hCarries : submission.Carries targets answers now)
    (hAnswer : answers.get? id = some value)
    (hFull : value.isEmpty = false) :
    submission.payload.get? id = some value ↔
      (id = "status" → value = submission.status.name) ∧
      (id = "submittedAt" → value = now.text) := by
  rw [hCarries.payload]
  by_cases hTime : id = "submittedAt"
  · simp [hTime, eq_comm]
  · by_cases hStatus : id = "status"
    · simp [hStatus, eq_comm]
    · simp [hTime, hStatus, hAnswer, Option.filter, hFull]

/- Under other names nothing but such answers is delivered. -/
theorem answer_of_delivered
    (hCarries : submission.Carries targets answers now)
    (hDelivered : submission.payload.get? id = some value)
    (hStatus : id ≠ "status")
    (hTime : id ≠ "submittedAt") :
    answers.get? id = some value ∧ value.isEmpty = false := by
  rw [hCarries.payload, if_neg hTime, if_neg hStatus]
    at hDelivered
  simpa [Option.filter_eq_some_iff] using hDelivered

end Submission.Carries

/-
  Each line of the review is delivered with what was submitted,
  unless its question is named like the status or like the time:
  these two are always put in, and then the answer is lost but
  where it says the same.  Nothing else is delivered.
-/
theorem delivered_iff_unreserved
    {plan : Plan}
    (moments : List Moment)
    {now : Instant}
    {event : Event}
    {submission : Submission}
    (hSubmitted :
      ((plan.sessionAfter moments).handle plan now event).2 =
        .transition (.submitted submission)) :
    let last :=
      ((plan.sessionAfter moments).handle plan now event).1
    (∀ line ∈ last.reviewLines plan,
      (submission.payload.get? line.questionId =
          some line.value ↔
        (line.questionId = "status" →
          line.value = submission.status.name) ∧
        (line.questionId = "submittedAt" →
          line.value = now.text))) ∧
    submission.payload.get? "status" =
      some submission.status.name ∧
    submission.payload.get? "submittedAt" = some now.text ∧
    ∀ id value,
      submission.payload.get? id = some value →
        id ≠ "status" →
          id ≠ "submittedAt" →
            ∃ line ∈ last.reviewLines plan,
              line.questionId = id ∧ line.value = value := by
  intro last
  rcases plan.made_of_submitted moments hSubmitted with
    ⟨hNext, _, hMade, _⟩
  have hLast : last = (plan.sessionAfter moments).ended := hNext
  have hHolds : plan.Holds last.answers := by
    rw [hLast]
    exact Plan.Holds.sessionAfter plan moments
  have hCarries :
      submission.Carries plan.targets last.answers now := by
    rw [hLast, hMade]
    exact Submission.carries_make _ _ _ _
  refine ⟨?_, ?_, ?_, ?_⟩
  · intro line hLine
    rcases Session.mem_reviewLines_iff.mp hLine with
      ⟨prompt, _, hId, _, hAnswer, hFull⟩
    exact hCarries.delivers_iff (hId ▸ hAnswer) hFull
  · simp [hCarries.payload]
  · simp [hCarries.payload]
  · intro id value hDelivered hStatus hTime
    rcases
        hCarries.answer_of_delivered hDelivered hStatus hTime with
      ⟨hAnswer, hFull⟩
    exact hHolds.exists_reviewLine hAnswer hFull

/- A form that asks for a name and for a marital status. -/
def Form.marital : Form :=
  { company := { name := "Acme", slug := "acme" }
    questions := [
      { id := "name"
        kind := .shortText
        label := "Name"
        required := true },
      { id := "status"
        kind := .shortText
        label := "Marital status"
        required := true
        order := 1 }] }

/- It passes its audit without warnings. -/
theorem Form.audit_marital :
    Form.marital.audit = .ok [] := rfl

/- Its plan. -/
def Plan.marital : Plan :=
  Plan.asListed Form.marital {}

theorem Plan.ofForm_marital :
    Plan.ofForm Form.marital {} = Plan.marital :=
  Plan.ofForm_eq_asListed (by decide) {}

/- A respondent who answers both questions and confirms. -/
def statusGiven : List Moment :=
  momentsAt ⟨0, 0⟩ [
    .input "Ana", .advance, .input "single", .advance,
    .confirm]

/- The answers that are confirmed. -/
def maritalAnswers : Answers :=
  .ofList [("name", "Ana"), ("status", "single")]

/- What is submitted then. -/
theorem submitted_statusGiven :
    ((Plan.marital.sessionAfter statusGiven).handle
      Plan.marital ⟨0, 0⟩ (.commit true)).2 =
        .transition
          (.submitted
            (.make .qualified Plan.marital.targets
              maritalAnswers ⟨0, 0⟩)) := by
  decide +kernel

/- The review shows the name and the marital status. -/
theorem reviewLines_statusGiven :
    ((Plan.marital.sessionAfter statusGiven).handle
      Plan.marital ⟨0, 0⟩ (.commit true)).1.reviewLines
        Plan.marital =
      [⟨1, "name", "Name", "Ana"⟩,
        ⟨2, "status", "Marital status", "single"⟩] := by
  decide +kernel

/- The name is delivered, and the marital status is not. -/
theorem maritalStatus_lost :
    ((Plan.marital.sessionAfter statusGiven).handle
      Plan.marital ⟨0, 0⟩ (.commit true)).2 =
        .transition
          (.submitted
            (.make .qualified Plan.marital.targets
              maritalAnswers ⟨0, 0⟩)) ∧
      (payloadOf .qualified maritalAnswers ⟨0, 0⟩).get? "name" =
        some "Ana" ∧
      (payloadOf .qualified maritalAnswers ⟨0, 0⟩).get?
          "status" ≠
        some "single" := by
  have hDelivered :=
    (delivered_iff_unreserved statusGiven
      submitted_statusGiven).1
  rw [reviewLines_statusGiven] at hDelivered
  have hName :=
    hDelivered ⟨1, "name", "Name", "Ana"⟩ (by simp)
  have hStatus :=
    hDelivered ⟨2, "status", "Marital status", "single"⟩
      (by simp)
  refine ⟨submitted_statusGiven, ?_, ?_⟩
  · exact hName.mpr ⟨by simp, by simp⟩
  · intro hSame
    have hEqual := (hStatus.mp hSame).1 rfl
    simp [Submission.make, Status.name] at hEqual

/- So not all that is confirmed is delivered. -/
theorem confirmed_undelivered :
    ¬ ∀ (form : Form) (warnings : List Warning)
        (delays : Delays) (moments : List Moment)
        (now : Instant) (event : Event)
        (submission : Submission),
      form.audit = .ok warnings →
        (((Plan.ofForm form delays).sessionAfter
            moments).handle (Plan.ofForm form delays)
              now event).2 =
          .transition (.submitted submission) →
        ∀ line ∈
            (((Plan.ofForm form delays).sessionAfter
              moments).handle (Plan.ofForm form delays)
                now event).1.reviewLines
                  (Plan.ofForm form delays),
          submission.payload.get? line.questionId =
            some line.value := by
  intro hAll
  have hDelivered :=
    hAll Form.marital [] {} statusGiven ⟨0, 0⟩ (.commit true)
      (.make .qualified Plan.marital.targets maritalAnswers
        ⟨0, 0⟩)
      Form.audit_marital
  rw [Plan.ofForm_marital] at hDelivered
  have hStatus :=
    hDelivered submitted_statusGiven
      ⟨2, "status", "Marital status", "single"⟩
      (by rw [reviewLines_statusGiven]; simp)
  simp [Submission.make, payloadOf, Status.name] at hStatus

end Questionnaire
