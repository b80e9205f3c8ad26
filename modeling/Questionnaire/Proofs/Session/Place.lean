import Questionnaire.Proofs.Session.Run

/-
  Where a session can stand.

  Key definitions include:
    * `Session.Placed`

  Every run stays between the first step and the commitment
  (`Session.Placed.sessionAfter`).
-/

------------------------------------------------------------
-- Places
------------------------------------------------------------

namespace Questionnaire

namespace Session

/-
  A session stands at a step of its plan.  It is edited at a
  question and has ended past all of them, and a delay runs for
  a question that offers a choice.
-/
structure Placed
    (plan : Plan)
    (session : Session) : Prop where
  positive : 0 < session.step
  bounded : session.step ≤ plan.stepOfCommitment
  asking :
    session.editing = true →
      session.step ≤ plan.prompts.length
  past :
    session.finished = true →
      plan.prompts.length < session.step
  waiting :
    ∀ step, session.pending = some step →
      ∃ prompt, plan.promptAt? step = some prompt ∧
        prompt.kind.isChoice = true

namespace Placed

variable {plan : Plan}
variable {session next : Session}

/- An open session has a place at any step that it may go to. -/
theorem goTo
    {step : Nat}
    (hOpen : session.finished = false)
    (hWaiting :
      ∀ step, session.pending = some step →
        ∃ prompt, plan.promptAt? step = some prompt ∧
          prompt.kind.isChoice = true)
    (hPos : 0 < step)
    (hBounded : step ≤ plan.stepOfCommitment)
    (hAsking :
      session.editing = true → step ≤ plan.prompts.length) :
    Placed plan (session.goTo step).1 where
  positive := hPos
  bounded := hBounded
  asking := hAsking
  past hFinished := by
    rw [goTo_finished, hOpen] at hFinished
    cases hFinished
  waiting := hWaiting

/- A session that has ended past all questions has a place. -/
theorem ended
    (hPlaced : Placed plan session)
    (hPast : plan.prompts.length < session.step) :
    Placed plan session.ended where
  positive := hPlaced.positive
  bounded := hPlaced.bounded
  asking := hPlaced.asking
  past _ := hPast
  waiting := hPlaced.waiting

/- The first session has a place. -/
theorem start
    (plan : Plan) :
    Placed plan (Session.start plan) := by
  unfold Session.start
  cases hPrompts : plan.prompts with
  | nil =>
      refine goTo rfl nofun (Nat.succ_pos _) ?_ nofun
      exact Nat.le_succ _
  | cons prompt prompts =>
      refine ⟨Nat.one_pos, ?_, nofun, nofun, nofun⟩
      simp [Plan.stepOfCommitment]

/- Completing a question keeps a place. -/
theorem complete
    (hPlaced : Placed plan session)
    (hFinished : session.finished = false) :
    Placed plan (session.complete plan).1 := by
  rcases session.complete_cases plan with
    ⟨_, hComplete⟩ | ⟨⟨hEditing, hLt⟩, hComplete⟩
  · rw [hComplete]
    refine goTo hFinished hPlaced.waiting (Nat.succ_pos _) ?_ nofun
    exact Nat.le_succ _
  · rw [hComplete]
    refine goTo hFinished hPlaced.waiting (Nat.succ_pos _) ?_ ?_
    · unfold Plan.stepOfCommitment
      omega
    · exact fun _ => hLt

/- What is ready to go on has the place of the session. -/
theorem ready
    {event : Event}
    {ready : Session}
    (hPlaced : Placed plan session)
    (hReady : session.Ready plan event ready) :
    Placed plan ready := by
  rcases hReady.place with ⟨hStep, hEditing, hFinished, hPending⟩
  refine ⟨?_, ?_, ?_, ?_, ?_⟩
  · rw [hStep]
    exact hPlaced.positive
  · rw [hStep]
    exact hPlaced.bounded
  · rw [hStep, hEditing]
    exact hPlaced.asking
  · rw [hStep, hFinished]
    exact hPlaced.past
  · rcases hPending with hSame | hNone
    · rw [hSame]
      exact hPlaced.waiting
    · simp [hNone]

/- Every step keeps a place. -/
theorem step
    {now : Instant}
    {event : Event}
    {outcome : Outcome}
    (hPlaced : Placed plan session)
    (hStep : session.Step plan now event next outcome) :
    Placed plan next := by
  have hPos := hPlaced.positive
  have hBounded := hPlaced.bounded
  cases hStep with
  | refused | untyped => exact hPlaced
  | typed =>
      exact
        ⟨hPos, hBounded, hPlaced.asking, hPlaced.past,
          hPlaced.waiting⟩
  | picked _ offers =>
      refine
        ⟨hPos, hBounded, hPlaced.asking, hPlaced.past, ?_⟩
      -- The delay runs for the question that is on screen.
      intro step hPending
      have hStep : session.step = step := by
        simpa [pick] using hPending
      subst hStep
      exact ⟨_, offers.asked, offers.choice⟩
  | dropped =>
      refine
        ⟨hPos, hBounded, hPlaced.asking, hPlaced.past, ?_⟩
      intro step hPending
      cases hPending
  | completed unfinished isReady =>
      exact (hPlaced.ready isReady).complete
        (isReady.place.2.2.1.trans unfinished)
  | wentBack unfinished later =>
      refine goTo unfinished hPlaced.waiting ?_ ?_ ?_
      · omega
      · omega
      · intro hEditing
        have hAsking := hPlaced.asking hEditing
        omega
  | edited unfinished _ asked =>
      rcases Plan.step_of_promptAt? asked with ⟨hStepPos, hStepLe⟩
      refine goTo unfinished hPlaced.waiting hStepPos ?_ ?_
      · unfold Plan.stepOfCommitment
        omega
      · exact fun _ => hStepLe
  | passed _ unfinished atReview =>
      refine goTo unfinished hPlaced.waiting (Nat.succ_pos _)
        (Nat.le_refl _) ?_
      -- A question that is edited lies before the review.
      intro hEditing
      have hAsking := hPlaced.asking hEditing
      unfold Plan.stepOfReview at atReview
      omega
  | failed _ _ atReview =>
      refine hPlaced.ended ?_
      unfold Plan.stepOfReview at atReview
      omega
  | committed _ atCommitment =>
      refine hPlaced.ended ?_
      have hStep := screen_eq_commitment_iff.mp atCommitment
      unfold Plan.stepOfReview at hStep
      omega

/- Every run keeps a place. -/
theorem sessionAfter
    (plan : Plan)
    (moments : List Moment) :
    Placed plan (plan.sessionAfter moments) :=
  after_induction (start plan) step moments

/- From the review on, all questions lie behind. -/
theorem past_of_screen
    (hPlaced : Placed plan session)
    (hScreen :
      session.screen plan = .review ∨
        session.screen plan = .commitment) :
    plan.prompts.length < session.step := by
  have hPos := hPlaced.positive
  rcases hScreen with hReview | hCommitment
  · rw [screen_eq_review_iff.mp hReview]
    exact Nat.lt_succ_self _
  · have hStep := screen_eq_commitment_iff.mp hCommitment
    unfold Plan.stepOfReview at hStep
    omega

/- A session at a question has not ended. -/
theorem open_of_promptAt?
    {prompt : Prompt}
    (hPlaced : Placed plan session)
    (hPrompt : plan.promptAt? session.step = some prompt) :
    session.finished = false := by
  rcases Plan.step_of_promptAt? hPrompt with ⟨_, hLe⟩
  cases hFinished : session.finished with
  | false => rfl
  | true =>
      have hPast := hPlaced.past hFinished
      omega

/- The commitment is on screen at its step only. -/
theorem screen_eq_commitment_iff
    (hPlaced : Placed plan session) :
    session.screen plan = .commitment ↔
      session.step = plan.stepOfCommitment := by
  have hPos := hPlaced.positive
  have hBounded := hPlaced.bounded
  rw [Session.screen_eq_commitment_iff]
  unfold Plan.stepOfCommitment at hBounded ⊢
  unfold Plan.stepOfReview
  omega

end Placed

end Session

end Questionnaire
