import Questionnaire.Proofs.Session.Acceptance

/-
  How a session moves between its steps.

  Key definitions include:
    * `Session.Completes`
    * `Session.Course`
    * `Plan.Reopened`

  Every move completes a question, goes back, edits or confirms
  (`Session.Step.course`), and nothing else changes the step.
  An edited question is left backwards only until some question
  is completed, so the step is never past the one that was
  reopened (`Plan.exists_reopened`).
-/

------------------------------------------------------------
-- Completed Questions
------------------------------------------------------------

namespace Questionnaire

namespace Session

/-
  The event completes a question that is on screen, and its
  answer will then do.  A field is completed by going on, and a
  choice by choosing at once or by the end of its delay.
-/
structure Completes
    (plan : Plan)
    (session : Session)
    (prompt : Prompt)
    (event : Event)
    (next : Session) : Prop where
  asked : plan.promptAt? session.step = some prompt
  field : prompt.kind.isChoice = false → event = .advance
  choice :
    prompt.kind.isChoice = true →
      event = .timer ∨ ∃ value, event = .choose value
  accepted : prompt.accepts next.answers = true
  cleared : next.editing = false

/-
  The ways in which an event can move a session: on to the next
  question, to the review, back by one step, from the review to
  a question, and from the review to the commitment.
-/
inductive Course
    (plan : Plan)
    (session : Session)
    (event : Event)
    (next : Session) : Prop where
  | onward
      {prompt : Prompt}
      (completes : session.Completes plan prompt event next)
      (straight : session.editing = false)
      (arrives : next.step = session.step + 1)
      (within : next.step ≤ plan.prompts.length)
  | toReview
      {prompt : Prompt}
      (completes : session.Completes plan prompt event next)
      (due :
        session.step = plan.prompts.length ∨
          session.editing = true)
      (arrives : next.step = plan.stepOfReview)
  | backward
      (goesBack : event = .back)
      (arrives : session.step = next.step + 1)
      (within : 0 < next.step)
  | reopened
      (edits : event = .edit next.step)
      (atReview : session.step = plan.stepOfReview)
      (positive : 0 < next.step)
      (within : next.step ≤ plan.prompts.length)
  | toCommitment
      (confirming : event = .confirm ∨ event = .advance)
      (atReview : session.step = plan.stepOfReview)
      (qualified : session.qualified = true)
      (arrives : next.step = plan.stepOfCommitment)

variable {plan : Plan}
variable {now : Instant}
variable {session ready next : Session}
variable {event : Event}

/-
  If the delay of the step on screen is running, the option that
  it began with will do.
-/
def ChoiceStands
    (plan : Plan)
    (session : Session) : Prop :=
  ∀ prompt,
    plan.promptAt? session.step = some prompt →
      session.pending = some session.step →
        prompt.accepts session.answers = true

/- Completing a question ends the edit mode. -/
@[simp] theorem complete_editing
    (plan : Plan)
    (session : Session) :
    (session.complete plan).1.editing = false := by
  rcases session.complete_cases plan with
    ⟨_, hComplete⟩ | ⟨⟨hEditing, _⟩, hComplete⟩
  · rw [hComplete]
    rfl
  · rw [hComplete]
    exact hEditing

/- What is ready to go on completes its question. -/
theorem Ready.completes
    (hReady : session.Ready plan event ready)
    (hPlaced : session.Placed plan)
    (hStands : session.ChoiceStands plan) :
    ∃ prompt,
      session.Completes plan prompt event
        (ready.complete plan).1 := by
  cases hReady with
  | @advanced prompt validator asked judged valid =>
      refine ⟨prompt, asked, fun _ => rfl, ?_, ?_, by simp⟩
      · intro hChoice
        simp [Prompt.isChoice_eq_false judged] at hChoice
      · rw [complete_answers]
        exact Prompt.accepts_of_valid judged valid
  | elapsed pending =>
      rcases hPlaced.waiting session.step pending with
        ⟨prompt, hAsked, hChoice⟩
      refine
        ⟨prompt, hAsked, ?_, fun _ => .inl rfl, ?_, by simp⟩
      · intro hField
        simp [hChoice] at hField
      · rw [complete_answers]
        exact hStands prompt hAsked pending
  | @chosen prompt value offers =>
      refine
        ⟨prompt, offers.asked, ?_,
          fun _ => .inr ⟨value, rfl⟩, ?_, by simp⟩
      · intro hField
        simp [offers.choice] at hField
      · rw [complete_answers]
        exact
          Prompt.accepts_of_option offers.choice offers.offered

end Session

end Questionnaire

------------------------------------------------------------
-- Moves
------------------------------------------------------------

namespace Questionnaire

namespace Session

variable {plan : Plan}
variable {now : Instant}
variable {session ready next : Session}
variable {event : Event}

/- A completed question leads on, or to the review. -/
theorem Ready.course
    {prompt : Prompt}
    (hReady : session.Ready plan event ready)
    (hCompletes :
      session.Completes plan prompt event
        (ready.complete plan).1) :
    session.Course plan event (ready.complete plan).1 := by
  rcases hReady.place with ⟨hStep, hEditing, _, _⟩
  rcases Plan.step_of_promptAt? hCompletes.asked with ⟨_, hLe⟩
  rcases ready.complete_cases plan with
    ⟨hReturns, hComplete⟩ | ⟨⟨hStraight, hLt⟩, hComplete⟩
  · refine .toReview hCompletes ?_ ?_
    · rw [hStep, hEditing] at hReturns
      rcases hReturns with hEdited | hLast
      · exact .inr hEdited
      · exact .inl (Nat.le_antisymm hLe hLast)
    · rw [hComplete, goTo_step]
  · refine .onward hCompletes ?_ ?_ ?_
    · exact hEditing.symm.trans hStraight
    · rw [hComplete, goTo_step, hStep]
    · rw [hComplete, goTo_step]
      exact hLt

/- Every move is one of the ways to move. -/
theorem Step.course
    {origin destination : Nat}
    (hStep :
      session.Step plan now event next
        (.transition (.moved origin destination)))
    (hPlaced : session.Placed plan)
    (hStands : session.ChoiceStands plan) :
    origin = session.step ∧ destination = next.step ∧
      session.Course plan event next := by
  generalize hOutcome :
      Outcome.transition (.moved origin destination) = outcome
    at hStep
  cases hStep with
  | @completed _ ready _ isReady =>
      rcases isReady.completes hPlaced hStands with
        ⟨prompt, hCompletes⟩
      rw [ready.complete_moved plan, isReady.place.1] at hOutcome
      simp only [Outcome.transition.injEq,
        Transition.moved.injEq] at hOutcome
      exact
        ⟨hOutcome.1, hOutcome.2, isReady.course hCompletes⟩
  | wentBack _ later =>
      simp only [Outcome.transition.injEq,
        Transition.moved.injEq] at hOutcome
      refine ⟨hOutcome.1, hOutcome.2, .backward rfl ?_ ?_⟩
      · rw [goTo_step]
        omega
      · rw [goTo_step]
        omega
  | edited _ atReview asked =>
      simp only [Outcome.transition.injEq,
        Transition.moved.injEq] at hOutcome
      rcases Plan.step_of_promptAt? asked with ⟨hPos, hLe⟩
      exact
        ⟨hOutcome.1, hOutcome.2,
          .reopened rfl atReview hPos hLe⟩
  | passed confirming _ atReview qualified =>
      simp only [Outcome.transition.injEq,
        Transition.moved.injEq] at hOutcome
      exact
        ⟨hOutcome.1, hOutcome.2,
          .toCommitment confirming atReview qualified rfl⟩
  | _ => simp at hOutcome

/- Without a move neither step nor edit mode change. -/
theorem Step.moved_or_stays
    {outcome : Outcome}
    (hStep : session.Step plan now event next outcome) :
    (∃ origin destination,
      outcome = .transition (.moved origin destination)) ∨
    (next.step = session.step ∧
      next.editing = session.editing) := by
  cases hStep with
  | completed =>
      exact
        .inl ⟨_, _, congrArg Outcome.transition
          (complete_moved plan _)⟩
  | wentBack | edited | passed => exact .inl ⟨_, _, rfl⟩
  | _ => exact .inr ⟨rfl, rfl⟩

/-
  In edit mode a session was in it before and went no further,
  or has just been sent to a question.
-/
theorem Step.editing_cases
    {outcome : Outcome}
    (hStep : session.Step plan now event next outcome)
    (hPlaced : session.Placed plan)
    (hEditing : next.editing = true) :
    (session.editing = true ∧ next.step ≤ session.step) ∨
      ∃ place,
        event = .edit place ∧
          outcome =
            .transition (.moved plan.stepOfReview place) ∧
          next.step = place := by
  cases hStep with
  | completed => simp at hEditing
  | wentBack =>
      exact .inl ⟨hEditing, Nat.sub_le session.step 1⟩
  | @edited place _ _ atReview =>
      exact .inr ⟨place, rfl, by rw [atReview], rfl⟩
  | passed _ _ atReview =>
      have hAsking := hPlaced.asking hEditing
      rw [atReview] at hAsking
      exact absurd hAsking (Nat.not_succ_le_self _)
  | _ => exact .inl ⟨hEditing, Nat.le_refl _⟩

end Session

end Questionnaire

------------------------------------------------------------
-- Runs
------------------------------------------------------------

namespace Questionnaire

/-
  In the course of a run the session was sent to a question to
  edit it, and it has been in edit mode since.
-/
def Plan.Reopened
    (plan : Plan)
    (place : Nat)
    (moments : List Moment) : Prop :=
  ∃ earlier moment later,
    moments = earlier ++ moment :: later ∧
      moment.event = .edit place ∧
      ((plan.sessionAfter earlier).handle plan moment.now
          moment.event).2 =
        .transition (.moved plan.stepOfReview place) ∧
      ∀ part,
        part <+: later →
          (plan.sessionAfter
            (earlier ++ moment :: part)).editing = true

namespace Plan

variable {plan : Plan}
variable {place : Nat}
variable {moments : List Moment}
variable {last : Moment}

/- It stays reopened while the edit mode lasts. -/
theorem Reopened.concat
    (hReopened : plan.Reopened place moments)
    (hEditing :
      (plan.sessionAfter (moments ++ [last])).editing = true) :
    plan.Reopened place (moments ++ [last]) := by
  rcases hReopened with
    ⟨earlier, moment, later, hMoments, hEvent, hMoved, hSince⟩
  refine
    ⟨earlier, moment, later ++ [last], ?_, hEvent, hMoved, ?_⟩
  · simp [hMoments]
  · intro part hPart
    rcases List.prefix_concat_iff.mp hPart with hAll | hBefore
    · rw [hAll]
      simpa [hMoments] using hEditing
    · exact hSince part hBefore

/- In edit mode a session is not past the reopened question. -/
theorem exists_reopened
    (plan : Plan)
    (moments : List Moment)
    (hEditing : (plan.sessionAfter moments).editing = true) :
    ∃ place,
      plan.Reopened place moments ∧
        (plan.sessionAfter moments).step ≤ place := by
  induction moments using List.reverseRecOn with
  | nil =>
      simp [sessionAfter] at hEditing
  | append_singleton moments last ih =>
      have hPlaced :=
        Session.Placed.sessionAfter plan moments
      have hStep :=
        (plan.sessionAfter moments).step_handle plan
          last.now last.event
      rw [← sessionAfter_concat] at hStep
      rcases hStep.editing_cases hPlaced hEditing with
        ⟨hBefore, hNotPast⟩ | ⟨place, hEvent, hMoved, hPlace⟩
      · rcases ih hBefore with ⟨place, hReopened, hLe⟩
        exact
          ⟨place, hReopened.concat hEditing,
            Nat.le_trans hNotPast hLe⟩
      · refine ⟨place, ?_, Nat.le_of_eq hPlace⟩
        refine ⟨moments, last, [], rfl, hEvent, hMoved, ?_⟩
        intro part hPart
        rw [List.prefix_nil.mp hPart]
        exact hEditing

/- In a run the option of a running delay will do. -/
theorem Distinct.choiceStands
    (hDistinct : plan.Distinct)
    (moments : List Moment) :
    (plan.sessionAfter moments).ChoiceStands plan := by
  intro prompt hAsked hPending
  have hPlaced := Session.Placed.sessionAfter plan moments
  rcases hPlaced.waiting _ hPending with
    ⟨other, hOther, hChoice⟩
  have hSame : other = prompt :=
    Option.some.inj (hOther.symm.trans hAsked)
  subst hSame
  have hSettled :=
    Settled.of_choice hDistinct hOther hChoice moments
  exact hSettled.chosen hPending

end Plan

/-
  In a run of an audited form every move leads from the step
  before the event to the step after it, in one of the ways to
  move; no other event changes the step or the edit mode.  The
  session stands between the first step and the commitment,
  which is shown at its own step only.  It is in edit mode only
  at questions, since a question was reopened, and not past it.
-/
theorem moves_follow_plan
    {form : Form}
    {warnings : List Warning}
    (hAudit : form.audit = .ok warnings)
    (delays : Delays)
    (moments : List Moment) :
    let plan := Plan.ofForm form delays
    let session := plan.sessionAfter moments
    (∀ now event origin destination,
      (session.handle plan now event).2 =
          .transition (.moved origin destination) →
        origin = session.step ∧
          destination = (session.handle plan now event).1.step ∧
          session.Course plan event
            (session.handle plan now event).1) ∧
    (∀ now event,
      (∃ origin destination,
        (session.handle plan now event).2 =
          .transition (.moved origin destination)) ∨
      ((session.handle plan now event).1.step = session.step ∧
        (session.handle plan now event).1.editing =
          session.editing)) ∧
    0 < session.step ∧
    session.step ≤ plan.stepOfCommitment ∧
    (session.screen plan = .commitment ↔
      session.step = plan.stepOfCommitment) ∧
    (session.screen plan = .review ∨
        session.screen plan = .commitment →
      session.editing = false) ∧
    (session.editing = true →
      ∃ place,
        plan.Reopened place moments ∧ session.step ≤ place) := by
  intro plan session
  have hDistinct : plan.Distinct :=
    Plan.distinct_ofForm hAudit delays
  have hPlaced : session.Placed plan :=
    Session.Placed.sessionAfter plan moments
  have hStands : session.ChoiceStands plan :=
    hDistinct.choiceStands moments
  refine
    ⟨?_, ?_, hPlaced.positive, hPlaced.bounded,
      hPlaced.screen_eq_commitment_iff, ?_,
      plan.exists_reopened moments⟩
  · intro now event origin destination hMoved
    have hStep := session.step_handle plan now event
    rw [hMoved] at hStep
    exact hStep.course hPlaced hStands
  · intro now event
    exact (session.step_handle plan now event).moved_or_stays
  · intro hScreen
    have hPast := hPlaced.past_of_screen hScreen
    cases hEditing : session.editing with
    | false => rfl
    | true =>
        have hAsking := hPlaced.asking hEditing
        omega

/-
  A respondent who was sent to the address from the review, and
  has gone back from it to the size.
-/
def sizeReached : List Moment :=
  momentsAt ⟨0, 0⟩ [
    .input "Ana", .advance, .choose "30",
    .input "ana@example.com", .advance, .edit 3, .back]

/- Another size then leads to the review at once. -/
theorem sizeReached_course :
    Form.small.audit = .ok [] ∧
      (((Plan.ofForm Form.small {}).sessionAfter
          sizeReached).handle (Plan.ofForm Form.small {})
            ⟨0, 0⟩ (.choose "10")).2 =
        .transition (.moved 2 4) ∧
      ((Plan.ofForm Form.small {}).sessionAfter
          sizeReached).Course (Plan.ofForm Form.small {})
        (.choose "10")
        (((Plan.ofForm Form.small {}).sessionAfter
          sizeReached).handle (Plan.ofForm Form.small {})
            ⟨0, 0⟩ (.choose "10")).1 ∧
      ∃ place,
        (Plan.ofForm Form.small {}).Reopened place
            sizeReached ∧
          ((Plan.ofForm Form.small {}).sessionAfter
            sizeReached).step ≤ place := by
  have hMoved :
      (((Plan.ofForm Form.small {}).sessionAfter
          sizeReached).handle (Plan.ofForm Form.small {})
            ⟨0, 0⟩ (.choose "10")).2 =
        .transition (.moved 2 4) := by
    rw [Plan.ofForm_small]
    decide +kernel
  have hEditing :
      ((Plan.ofForm Form.small {}).sessionAfter
        sizeReached).editing = true := by
    rw [Plan.ofForm_small]
    decide +kernel
  rcases moves_follow_plan Form.audit_small {} sizeReached with
    ⟨hCourse, _, _, _, _, _, hReopened⟩
  rcases hCourse _ _ _ _ hMoved with ⟨_, _, hSizeCourse⟩
  exact
    ⟨Form.audit_small, hMoved, hSizeCourse,
      hReopened hEditing⟩

end Questionnaire
