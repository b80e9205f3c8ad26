import Questionnaire.Proofs.Session.Place

/-
  The verdict of a session is the one on its answers.

  Key definitions include:
    * `VerdictStands`
    * `Submission.Carries`

  The verdict is reached on the way to the review, and no
  answer can be changed from there on.  While a question is on
  screen nothing is said of it.
-/

------------------------------------------------------------
-- Where the Verdict Stands
------------------------------------------------------------

namespace Questionnaire

/-
  From the review on, the verdict is the one on the answers,
  and none but those who qualify come to the commitment.
-/
structure VerdictStands
    (plan : Plan)
    (session : Session) : Prop where
  current :
    plan.prompts.length < session.step →
      session.qualified =
        plan.criteria.qualifies session.answers
  earned :
    plan.stepOfReview < session.step →
      session.qualified = true

namespace VerdictStands

variable {plan : Plan}
variable {session next : Session}

/- The first session has answered nothing. -/
theorem start
    (plan : Plan) :
    VerdictStands plan (Session.start plan) := by
  unfold Session.start
  cases hPrompts : plan.prompts with
  | nil =>
      refine ⟨?_, ?_⟩
      · simp [Session.goToReview]
      · simp [Session.goToReview]
  | cons prompt prompts =>
      refine ⟨?_, ?_⟩
      · simp [hPrompts]
      · simp [Plan.stepOfReview, hPrompts]

/- Nothing is said of it while a question is on screen. -/
theorem of_asked
    {prompt : Prompt}
    (hAsked : plan.promptAt? session.step = some prompt) :
    VerdictStands plan session := by
  rcases Plan.step_of_promptAt? hAsked with ⟨_, hLe⟩
  refine ⟨?_, ?_⟩
  · intro hLt
    omega
  · intro hLt
    unfold Plan.stepOfReview at hLt
    omega

/- Completing a question asks the next one, or reviews. -/
theorem complete
    (plan : Plan)
    (session : Session) :
    VerdictStands plan (session.complete plan).1 := by
  rcases session.complete_cases plan with
    ⟨_, hComplete⟩ | ⟨⟨_, hLt⟩, hComplete⟩
  · rw [hComplete]
    refine ⟨?_, ?_⟩
    · intro _
      rfl
    · simp
  · rw [hComplete]
    rcases
        Plan.exists_promptAt? (Nat.succ_pos session.step) hLt with
      ⟨prompt, hAsked⟩
    exact of_asked hAsked

/- Going back changes neither answers nor verdict. -/
theorem back
    (hStands : VerdictStands plan session) :
    VerdictStands plan
      (session.goTo (session.step - 1)).1 := by
  refine ⟨?_, ?_⟩
  · intro hLt
    simp only [Session.goTo_step] at hLt
    exact hStands.current (by omega)
  · intro hLt
    simp only [Session.goTo_step] at hLt
    exact hStands.earned (by omega)

/- Every step keeps the verdict where it stands. -/
theorem step
    {now : Instant}
    {event : Event}
    {outcome : Outcome}
    (hStands : VerdictStands plan session)
    (hStep : session.Step plan now event next outcome) :
    VerdictStands plan next := by
  cases hStep with
  | refused | untyped => exact hStands
  | typed _ asked => exact of_asked asked
  | picked _ offers => exact of_asked offers.asked
  | dropped | failed | committed =>
      exact ⟨hStands.current, hStands.earned⟩
  | completed => exact complete plan _
  | wentBack => exact hStands.back
  | edited _ _ asked => exact of_asked asked
  | passed _ _ atReview qualified =>
      have hCurrent := hStands.current (by
        rw [atReview]
        exact Nat.lt_succ_self _)
      exact ⟨fun _ => hCurrent, fun _ => qualified⟩

/- It stands after every run. -/
theorem sessionAfter
    (plan : Plan)
    (moments : List Moment) :
    VerdictStands plan (plan.sessionAfter moments) :=
  Session.after_induction (start plan) step moments

/- From the review on, the verdict is current. -/
theorem qualified_eq
    (hStands : VerdictStands plan session)
    (hPlaced : session.Placed plan)
    (hScreen :
      session.screen plan = .review ∨
        session.screen plan = .commitment) :
    session.qualified =
      plan.criteria.qualifies session.answers :=
  hStands.current (hPlaced.past_of_screen hScreen)

/- None but those who qualify come to the commitment. -/
theorem qualified_of_commitment
    (hStands : VerdictStands plan session)
    (hPlaced : session.Placed plan)
    (hCommitment : session.screen plan = .commitment) :
    session.qualified = true := by
  have hPos := hPlaced.positive
  have hStep :=
    Session.screen_eq_commitment_iff.mp hCommitment
  apply hStands.earned
  omega

end VerdictStands

end Questionnaire

------------------------------------------------------------
-- What Is Submitted
------------------------------------------------------------

namespace Questionnaire

/-
  A submission goes to the targets of its own status.  It has
  the answers that are not empty; only the status and the time
  take the place of answers.
-/
structure Submission.Carries
    (targets : Targets)
    (answers : Answers)
    (now : Instant)
    (submission : Submission) : Prop where
  webhook :
    submission.webhook =
      Url.usable? (targets.forStatus submission.status).webhook
  redirect :
    submission.redirect =
      Url.usable? (targets.forStatus submission.status).redirect
  payload :
    ∀ id,
      submission.payload.get? id =
        if id = "submittedAt" then
          some now.text
        else if id = "status" then
          some submission.status.name
        else
          (answers.get? id).filter (fun value => !value.isEmpty)

/- Every submission that is made carries its answers. -/
theorem Submission.carries_make
    (status : Status)
    (targets : Targets)
    (answers : Answers)
    (now : Instant) :
    (Submission.make status targets answers now).Carries
      targets answers now := by
  refine ⟨?_, ?_, ?_⟩
  · simp only [Submission.make]
  · simp only [Submission.make]
  · intro id
    simp [Submission.make, payloadOf]

namespace Session

variable {plan : Plan}
variable {now : Instant}
variable {session next : Session}
variable {event : Event}
variable {submission : Submission}

/-
  A submission comes from the review of one who does not
  qualify, or from the commitment.
-/
theorem Step.submitted_cases
    (hStep :
      session.Step plan now event next
        (.transition (.submitted submission))) :
    next = session.ended ∧
      (((event = .confirm ∨ event = .advance) ∧
          session.screen plan = .review ∧
            session.qualified = false ∧
              submission =
                .make .disqualified plan.targets
                  session.answers now) ∨
        ∃ confirmed,
          event = .commit confirmed ∧
            session.screen plan = .commitment ∧
              submission =
                .make (.ofVerdict confirmed) plan.targets
                  session.answers now) := by
  generalize hOutcome :
      Outcome.transition (.submitted submission) = outcome
    at hStep
  cases hStep with
  | @completed _ ready =>
      rcases ready.complete_transition plan with ⟨_, hMoved⟩
      simp [hMoved] at hOutcome
  | failed confirming _ atReview disqualified =>
      simp only [Outcome.transition.injEq,
        Transition.submitted.injEq] at hOutcome
      exact
        ⟨rfl, .inl
          ⟨confirming, screen_eq_review_iff.mpr atReview,
            disqualified, hOutcome⟩⟩
  | @committed confirmed _ atCommitment =>
      simp only [Outcome.transition.injEq,
        Transition.submitted.injEq] at hOutcome
      exact
        ⟨rfl, .inr ⟨confirmed, rfl, atCommitment, hOutcome⟩⟩
  | _ => simp at hOutcome

end Session

/-
  In a run the verdict at the end is that on the answers: those
  who do not qualify leave from the review, and the others from
  the commitment.
-/
theorem Plan.verdict_of_submitted
    (plan : Plan)
    (moments : List Moment)
    {now : Instant}
    {event : Event}
    {submission : Submission}
    (hSubmitted :
      ((plan.sessionAfter moments).handle plan now event).2 =
        .transition (.submitted submission)) :
    let session := plan.sessionAfter moments
    (session.handle plan now event).1 = session.ended ∧
      (((event = .confirm ∨ event = .advance) ∧
          session.screen plan = .review ∧
            plan.criteria.qualifies session.answers = false ∧
              submission =
                .make .disqualified plan.targets
                  session.answers now) ∨
        ∃ confirmed,
          event = .commit confirmed ∧
            session.screen plan = .commitment ∧
              plan.criteria.qualifies session.answers = true ∧
                submission =
                  .make (.ofVerdict confirmed) plan.targets
                    session.answers now) := by
  intro session
  have hPlaced : session.Placed plan :=
    Session.Placed.sessionAfter plan moments
  have hStands : VerdictStands plan session :=
    VerdictStands.sessionAfter plan moments
  have hStep := session.step_handle plan now event
  rw [hSubmitted] at hStep
  rcases hStep.submitted_cases with ⟨hNext, hCases⟩
  refine ⟨hNext, ?_⟩
  rcases hCases with
    ⟨hEvent, hReview, hDisqualified, hMade⟩ |
      ⟨confirmed, hEvent, hCommitment, hMade⟩
  · have hVerdict := hStands.qualified_eq hPlaced (.inl hReview)
    exact
      .inl ⟨hEvent, hReview, hVerdict.symm.trans hDisqualified,
        hMade⟩
  · have hVerdict := hStands.qualified_eq hPlaced (.inr hCommitment)
    have hQualified :=
      hStands.qualified_of_commitment hPlaced hCommitment
    exact
      .inr ⟨confirmed, hEvent, hCommitment,
        hVerdict.symm.trans hQualified, hMade⟩

/-
  What a run submits has the verdict on its answers, unless the
  commitment is declined, and the step is the one that the
  verdict leads to.
-/
theorem Plan.made_of_submitted
    (plan : Plan)
    (moments : List Moment)
    {now : Instant}
    {event : Event}
    {submission : Submission}
    (hSubmitted :
      ((plan.sessionAfter moments).handle plan now event).2 =
        .transition (.submitted submission)) :
    let session := plan.sessionAfter moments
    (session.handle plan now event).1 = session.ended ∧
      plan.prompts.length < session.step ∧
      submission =
        .make
          (.ofVerdict
            (plan.criteria.qualifies session.answers &&
              !decide (event = .commit false)))
          plan.targets session.answers now ∧
      session.step =
        if plan.criteria.qualifies session.answers then
          plan.stepOfCommitment
        else
          plan.stepOfReview := by
  intro session
  have hPlaced : session.Placed plan :=
    Session.Placed.sessionAfter plan moments
  rcases plan.verdict_of_submitted moments hSubmitted with
    ⟨hNext, ⟨_, hReview, hVerdict, hMade⟩ |
      ⟨confirmed, hEvent, hCommitment, hVerdict, hMade⟩⟩
  · refine ⟨hNext, hPlaced.past_of_screen (.inl hReview), ?_, ?_⟩
    · rw [hVerdict]
      exact hMade
    · rw [hVerdict]
      exact Session.screen_eq_review_iff.mp hReview
  · refine ⟨hNext, hPlaced.past_of_screen (.inr hCommitment), ?_, ?_⟩
    · subst hEvent
      rw [hVerdict, hMade]
      cases confirmed with
      | true => rfl
      | false => rfl
    · rw [hVerdict]
      exact hPlaced.screen_eq_commitment_iff.mp hCommitment

/-
  After every run, what the review and the commitment show is
  the verdict on the answers, and none but those who qualify
  see the commitment.  Whatever is submitted then has the
  status of that verdict and of the answer to the commitment,
  goes to the targets of this status and carries the answers
  of the session as they stand.
-/
theorem verdict_matches_answers
    (plan : Plan)
    (moments : List Moment) :
    let session := plan.sessionAfter moments
    (session.screen plan = .review ∨
        session.screen plan = .commitment →
      session.qualified =
        plan.criteria.qualifies session.answers) ∧
    (session.screen plan = .commitment →
      plan.criteria.qualifies session.answers = true) ∧
    ∀ (now : Instant) (event : Event)
        (submission : Submission),
      (session.handle plan now event).2 =
          .transition (.submitted submission) →
        (submission.status = .qualified ↔
          plan.criteria.qualifies session.answers = true ∧
            event = .commit true) ∧
        (plan.criteria.qualifies session.answers = false →
          session.screen plan = .review ∧
            (event = .confirm ∨ event = .advance)) ∧
        submission.Carries plan.targets session.answers now ∧
        (session.handle plan now event).1.answers =
          session.answers := by
  intro session
  have hStands : VerdictStands plan session :=
    VerdictStands.sessionAfter plan moments
  have hPlaced : session.Placed plan :=
    Session.Placed.sessionAfter plan moments
  refine ⟨hStands.qualified_eq hPlaced, ?_, ?_⟩
  · intro hCommitment
    rw [← hStands.qualified_eq hPlaced (.inr hCommitment)]
    exact
      hStands.qualified_of_commitment hPlaced hCommitment
  · intro now event submission hSubmitted
    rcases plan.verdict_of_submitted moments hSubmitted with
      ⟨hNext, ⟨hEvent, hReview, hVerdict, hMade⟩ |
        ⟨confirmed, hEvent, _, hVerdict, hMade⟩⟩
    · rw [hNext]
      subst hMade
      refine ⟨?_, ?_, ?_, rfl⟩
      · simp [session, hVerdict, Submission.make]
      · intro _
        exact ⟨hReview, hEvent⟩
      · exact Submission.carries_make _ _ _ _
    · rw [hNext]
      subst hMade
      subst hEvent
      refine ⟨?_, ?_, ?_, rfl⟩
      · cases confirmed with
        | true =>
            simp [session, hVerdict, Submission.make,
              Status.ofVerdict]
        | false =>
            simp [Submission.make, Status.ofVerdict]
      · intro hNot
        exact absurd (hVerdict.symm.trans hNot) nofun
      · exact Submission.carries_make _ _ _ _

end Questionnaire
