import Questionnaire.Proofs.Form.Audit
import Questionnaire.Proofs.Session.Answering
import Questionnaire.Proofs.Session.Delay
import Questionnaire.Proofs.Session.Verdict

/-
  Whether a session can be brought to its end.

  Key definitions include:
    * `Session.CanSubmit`
    * `Prompt.answerable`
    * `Unstuck`
    * `Session.Before`

  A step is locked only while its own delay runs
  (`Unstuck.sessionAfter`), so where every question can be
  answered each one can be left (`Unstuck.exists_completed`) and
  every session can be submitted.  A question that cannot be
  answered is never passed (`Session.Before.sessionAfter`).
-/

------------------------------------------------------------
-- Sessions That Can Be Submitted
------------------------------------------------------------

namespace Questionnaire

namespace Session

/- Some further events end with a submission. -/
def CanSubmit
    (plan : Plan)
    (session : Session) : Prop :=
  ∃ moments now event submission,
    ((session.after plan moments).handle plan now event).2 =
      .transition (.submitted submission)

variable {plan : Plan}
variable {session : Session}

/- What can be submitted later can be submitted. -/
theorem CanSubmit.of_after
    (moments : List Moment)
    (hLater : (session.after plan moments).CanSubmit plan) :
    session.CanSubmit plan := by
  rcases hLater with ⟨more, now, event, submission, hSubmitted⟩
  refine ⟨moments ++ more, now, event, submission, ?_⟩
  rw [after_append]
  exact hSubmitted

/- The commitment is answered. -/
theorem canSubmit_of_commitment
    (hOpen : session.finished = false)
    (hScreen : session.screen plan = .commitment) :
    session.CanSubmit plan := by
  refine ⟨[], ⟨0, 0⟩, .commit true,
    .make (.ofVerdict true) plan.targets session.answers ⟨0, 0⟩,
    ?_⟩
  simp [handle, handle.moving, commit, hOpen, hScreen, submit]

/- The review is confirmed, and the commitment answered. -/
theorem canSubmit_of_review
    (hOpen : session.finished = false)
    (hScreen : session.screen plan = .review) :
    session.CanSubmit plan := by
  cases hQualified : session.qualified with
  | false =>
      refine ⟨[], ⟨0, 0⟩, .confirm,
        .make .disqualified plan.targets session.answers ⟨0, 0⟩,
        ?_⟩
      simp [handle, handle.moving, confirm, hOpen, hScreen,
        hQualified, submit]
  | true =>
      have hNext :
          session.after plan (momentsAt ⟨0, 0⟩ [.confirm]) =
            (session.goTo plan.stepOfCommitment).1 := by
        simp [momentsAt, handle, handle.moving, confirm, hOpen,
          hScreen, hQualified]
      apply CanSubmit.of_after (momentsAt ⟨0, 0⟩ [.confirm])
      rw [hNext]
      have hNextOpen :
          (session.goTo plan.stepOfCommitment).1.finished =
            false := hOpen
      apply canSubmit_of_commitment hNextOpen
      apply screen_eq_commitment_iff.mpr
      exact .inr (Nat.lt_succ_self _)

end Session

end Questionnaire

------------------------------------------------------------
-- Locks and Delays
------------------------------------------------------------

namespace Questionnaire

/-
  A session that stands at one of its steps; if this step is
  locked, the delay that will leave it is running.
-/
structure Unstuck
    (plan : Plan)
    (session : Session) : Prop where
  placed : session.Placed plan
  running :
    session.finished = false →
      session.step ∈ session.locked →
        session.pending = some session.step

namespace Unstuck

variable {plan : Plan}
variable {session next : Session}

/- Nothing is locked at the start. -/
theorem start
    (plan : Plan) :
    Unstuck plan (Session.start plan) := by
  refine ⟨Session.Placed.start plan, ?_⟩
  intro _ hLocked
  rw [Session.start_locked] at hLocked
  exact absurd hLocked List.not_mem_nil

/- A step that is gone to is not locked. -/
theorem not_locked_goTo
    (step : Nat)
    (session : Session) :
    (session.goTo step).1.step ∉ (session.goTo step).1.locked := by
  intro hLocked
  exact ((Session.mem_goTo_locked _ _ _).mp hLocked).2 rfl

/- Completing a question goes to a step, so it is not locked. -/
theorem not_locked_complete
    (plan : Plan)
    (session : Session) :
    (session.complete plan).1.step ∉
      (session.complete plan).1.locked := by
  rcases session.complete_cases plan with
    ⟨_, hComplete⟩ | ⟨_, hComplete⟩
  · rw [hComplete]
    exact not_locked_goTo _ _
  · rw [hComplete]
    exact not_locked_goTo _ _

/- A lock comes with its delay, and goes when it does. -/
theorem step
    {now : Instant}
    {event : Event}
    {outcome : Outcome}
    (hUnstuck : Unstuck plan session)
    (hStep : session.Step plan now event next outcome) :
    Unstuck plan next := by
  refine ⟨hUnstuck.placed.step hStep, ?_⟩
  cases hStep with
  | refused | untyped | typed => exact hUnstuck.running
  | picked =>
      intro _ _
      rfl
  | dropped pending gone =>
      -- Its own delay would not have been dropped here.
      intro hOpen hLocked
      have hRunning := hUnstuck.running hOpen hLocked
      rcases gone with hFinished | hAway
      · rw [show session.finished = false from hOpen] at hFinished
        simp at hFinished
      · rw [hRunning] at pending
        exact absurd (Option.some.inj pending).symm hAway
  | completed =>
      intro _ hLocked
      exact absurd hLocked (not_locked_complete plan _)
  | wentBack | edited | passed =>
      intro _ hLocked
      exact absurd hLocked (not_locked_goTo _ _)
  | failed | committed =>
      intro hOpen
      simp [Session.ended] at hOpen

/- A session stays unstuck. -/
theorem after
    (hUnstuck : Unstuck plan session)
    (moments : List Moment) :
    Unstuck plan (session.after plan moments) :=
  Session.after_induction hUnstuck step moments

/- No run leads to a locked step without its delay. -/
theorem sessionAfter
    (plan : Plan)
    (moments : List Moment) :
    Unstuck plan (plan.sessionAfter moments) :=
  (start plan).after moments

end Unstuck

end Questionnaire

------------------------------------------------------------
-- Leaving a Question
------------------------------------------------------------

namespace Questionnaire

/- Some answer to a question will do. -/
def Prompt.answerable
    (prompt : Prompt) : Bool :=
  !prompt.kind.isChoice || !prompt.options.isEmpty

/- A question that can be answered admits some answer. -/
theorem Prompt.exists_admits
    {prompt : Prompt}
    (hAnswerable : prompt.answerable = true) :
    ∃ answer, prompt.admits answer = true := by
  cases hKind : prompt.kind.isChoice with
  | false =>
      rcases exists_validator hKind with ⟨validator, hJudged⟩
      refine ⟨validator.sample, ?_⟩
      rw [admits_of_field hJudged]
      exact validator.valid_sample prompt.required
  | true =>
      cases hOptions : prompt.options with
      | nil => simp [answerable, hKind, hOptions] at hAnswerable
      | cons option options =>
          refine ⟨option, ?_⟩
          rw [admits_of_choice hKind, hOptions]
          simp

namespace Session

variable {plan : Plan}
variable {session : Session}
variable {prompt : Prompt}

/- Answering is choosing, or typing and going on. -/
def answeringEvents
    (prompt : Prompt)
    (answer : String) : List Event :=
  if prompt.kind.isChoice then
    [.choose answer]
  else
    [.input answer, .advance]

/- These events are what a walk does at a question. -/
theorem after_answeringEvents
    (session : Session)
    (now : Instant)
    (prompt : Prompt)
    (answer : String) :
    session.after plan
        (momentsAt now (answeringEvents prompt answer)) =
      (walkStep plan now prompt answer session).1 := by
  unfold answeringEvents walkStep
  cases prompt.kind.isChoice with
  | true => rfl
  | false => rfl

end Session

namespace Unstuck

variable {plan : Plan}
variable {session : Session}
variable {prompt : Prompt}

/- A question that can be answered can be completed. -/
theorem exists_completed
    (hUnstuck : Unstuck plan session)
    (hOpen : session.finished = false)
    (hAsked : plan.promptAt? session.step = some prompt)
    (hAnswerable : prompt.answerable = true) :
    ∃ (moments : List Moment) (ready : Session),
      session.after plan moments = (ready.complete plan).1 ∧
        ready.step = session.step ∧
        ready.finished = false := by
  by_cases hLocked : session.step ∈ session.locked
  · -- The question was answered, and its delay is running.
    have hRunning := hUnstuck.running hOpen hLocked
    have hElapse :=
      Session.elapse_of_here plan hRunning hOpen rfl
    refine ⟨momentsAt ⟨0, 0⟩ [.timer], session.undelayed,
      ?_, rfl, hOpen⟩
    simp [momentsAt, Session.handle, Session.handle.moving,
      hElapse]
  · rcases Prompt.exists_admits hAnswerable with
      ⟨answer, hAdmits⟩
    rcases
        Session.walkStep_of_admits ⟨0, 0⟩ hOpen hAsked
          hLocked hAdmits with
      ⟨ready, hAnswered, hStep⟩
    refine
      ⟨momentsAt ⟨0, 0⟩
        (Session.answeringEvents prompt answer), ready, ?_,
        hAnswered.step, hAnswered.finished.trans hOpen⟩
    rw [Session.after_answeringEvents, hStep]

/- Completing a question keeps a session open and goes on. -/
theorem complete_progress
    (plan : Plan)
    (session : Session) :
    (session.complete plan).1.finished = session.finished ∧
      ((session.complete plan).1.step = plan.stepOfReview ∨
        (session.complete plan).1.step = session.step + 1) := by
  rcases session.complete_cases plan with
    ⟨_, hComplete⟩ | ⟨_, hComplete⟩
  · rw [hComplete]
    exact ⟨rfl, .inl rfl⟩
  · rw [hComplete]
    exact ⟨rfl, .inr rfl⟩

/-
  Where all questions can be answered, every open session can
  be submitted.  Each question that is completed brings it
  closer to the review.
-/
theorem canSubmit
    (hAnswerable :
      ∀ prompt ∈ plan.prompts, prompt.answerable = true)
    (hUnstuck : Unstuck plan session)
    (hOpen : session.finished = false) :
    session.CanSubmit plan := by
  induction hLeft : plan.stepOfReview - session.step
    generalizing session with
  | zero =>
      have hPos := hUnstuck.placed.positive
      by_cases hReview : session.step = plan.stepOfReview
      · exact Session.canSubmit_of_review hOpen
          (Session.screen_eq_review_iff.mpr hReview)
      · apply Session.canSubmit_of_commitment hOpen
        apply Session.screen_eq_commitment_iff.mpr
        omega
  | succ left ih =>
      have hPos := hUnstuck.placed.positive
      have hLe : session.step ≤ plan.prompts.length := by
        unfold Plan.stepOfReview at hLeft
        omega
      rcases Plan.exists_promptAt? hPos hLe with
        ⟨prompt, hAsked⟩
      have hMem : prompt ∈ plan.prompts :=
        List.mem_of_getElem?
          (Plan.promptAt?_eq_some_iff.mp hAsked).2
      rcases
          hUnstuck.exists_completed hOpen hAsked
            (hAnswerable prompt hMem) with
        ⟨moments, ready, hAfter, hStep, hFinished⟩
      rcases complete_progress plan ready with
        ⟨hSame, hPlace⟩
      have hNext := hUnstuck.after moments
      apply Session.CanSubmit.of_after moments
      rw [hAfter] at hNext ⊢
      have hNextOpen := hSame.trans hFinished
      rcases hPlace with hReview | hLater
      · exact Session.canSubmit_of_review hNextOpen
          (Session.screen_eq_review_iff.mpr hReview)
      · apply ih hNext hNextOpen
        rw [hLater, hStep]
        omega

end Unstuck

end Questionnaire

------------------------------------------------------------
-- Dead Ends
------------------------------------------------------------

namespace Questionnaire

namespace Session

/-
  A session that has not passed a step, and does not wait to
  leave it.
-/
structure Before
    (plan : Plan)
    (place : Nat)
    (session : Session) : Prop where
  placed : session.Placed plan
  behind : session.step ≤ place
  straight : session.editing = false
  idle : session.pending ≠ some place

namespace Before

variable {plan : Plan}
variable {place : Nat}
variable {prompt : Prompt}
variable {session next : Session}

/- The first session is before every question. -/
theorem start
    (hPrompt : plan.promptAt? place = some prompt) :
    Before plan place (Session.start plan) := by
  have hPos := (Plan.step_of_promptAt? hPrompt).1
  have hStart := Session.start_eq_of_promptAt? hPrompt
  refine ⟨Placed.start plan, ?_, ?_, ?_⟩
  · rw [hStart]
    exact hPos
  · rw [hStart]
  · rw [hStart]
    simp

/- No option can be chosen at a dead end. -/
theorem step_ne_of_offers
    {other : Prompt}
    {value : String}
    (hPrompt : plan.promptAt? place = some prompt)
    (hDead : prompt.answerable = false)
    (hOffers : session.Offers plan other value) :
    session.step ≠ place := by
  have hKind :
      prompt.kind.isChoice = true ∧ prompt.options = [] := by
    simpa [Prompt.answerable] using hDead
  intro hHere
  have hSame := hOffers.asked
  rw [hHere, hPrompt] at hSame
  have hOffered := hOffers.offered
  rw [← Option.some.inj hSame, hKind.2] at hOffered
  exact absurd hOffered List.not_mem_nil

/- What is ready to go on does not stand at a dead end. -/
theorem step_ne_of_ready
    {event : Event}
    {ready : Session}
    (hBefore : Before plan place session)
    (hPrompt : plan.promptAt? place = some prompt)
    (hDead : prompt.answerable = false)
    (hReady : session.Ready plan event ready) :
    session.step ≠ place := by
  have hKind :
      prompt.kind.isChoice = true ∧ prompt.options = [] := by
    simpa [Prompt.answerable] using hDead
  intro hHere
  cases hReady with
  | advanced asked judged =>
      rw [hHere, hPrompt] at asked
      rw [← Option.some.inj asked,
        (Validator.ofKind?_eq_none_iff _).mpr hKind.1] at judged
      simp at judged
  | elapsed pending =>
      exact hBefore.idle (hHere ▸ pending)
  | chosen offers =>
      exact step_ne_of_offers hPrompt hDead offers hHere

/- No step passes a dead end. -/
theorem step
    {now : Instant}
    {event : Event}
    {outcome : Outcome}
    (hBefore : Before plan place session)
    (hPrompt : plan.promptAt? place = some prompt)
    (hDead : prompt.answerable = false)
    (hStep : session.Step plan now event next outcome) :
    Before plan place next := by
  have hPlaced := hBefore.placed.step hStep
  have hBehind := hBefore.behind
  rcases Plan.step_of_promptAt? hPrompt with ⟨_, hLe⟩
  cases hStep with
  | refused | untyped => exact hBefore
  | typed =>
      exact ⟨hPlaced, hBehind, hBefore.straight, hBefore.idle⟩
  | picked _ offers =>
      refine ⟨hPlaced, hBehind, hBefore.straight, ?_⟩
      intro hPending
      exact step_ne_of_offers hPrompt hDead offers
        (Option.some.inj hPending)
  | dropped =>
      refine ⟨hPlaced, hBehind, hBefore.straight, ?_⟩
      simp [undelayed]
  | @completed _ ready _ isReady =>
      have hNe := hBefore.step_ne_of_ready hPrompt hDead isReady
      rcases isReady.place with ⟨hStep, hEditing, _, hPending⟩
      have hStraight : ready.editing = false :=
        hEditing.trans hBefore.straight
      have hIdle : ready.pending ≠ some place := by
        rcases hPending with hSame | hNone
        · rw [hSame]
          exact hBefore.idle
        · simp [hNone]
      rcases ready.complete_cases plan with
        ⟨hReturns, _⟩ | ⟨_, hComplete⟩
      · -- The last question comes no earlier than the dead end.
        have hLast : plan.prompts.length ≤ ready.step := by
          simpa [hStraight] using hReturns
        omega
      · refine ⟨hPlaced, ?_, ?_, ?_⟩
        · rw [hComplete, goTo_step]
          omega
        · rw [hComplete]
          exact hStraight
        · rw [complete_pending]
          exact hIdle
  | wentBack =>
      refine ⟨hPlaced, ?_, hBefore.straight, hBefore.idle⟩
      rw [goTo_step]
      omega
  -- The review lies behind the dead end.
  | edited _ atReview =>
      unfold Plan.stepOfReview at atReview
      omega
  | passed _ _ atReview | failed _ _ atReview =>
      unfold Plan.stepOfReview at atReview
      omega
  | committed =>
      exact ⟨hPlaced, hBehind, hBefore.straight, hBefore.idle⟩

/- No run passes a dead end. -/
theorem sessionAfter
    (hPrompt : plan.promptAt? place = some prompt)
    (hDead : prompt.answerable = false)
    (moments : List Moment) :
    Before plan place (plan.sessionAfter moments) :=
  after_induction (start hPrompt)
    (fun hBefore hStep => hBefore.step hPrompt hDead hStep)
    moments

end Before

end Session

end Questionnaire

------------------------------------------------------------
-- Choices Without Options
------------------------------------------------------------

namespace Questionnaire

/- Only a choice without options cannot be answered. -/
theorem Prompt.answerable_ofQuestion
    (question : Question) :
    (Prompt.ofQuestion question).answerable =
      !question.lacksOptions := by
  unfold answerable ofQuestion Question.lacksOptions
    Question.offered
  cases question.kind.isChoice with
  | false => rfl
  | true => simp

namespace Form

variable {form : Form}
variable {warnings : List Warning}

/- A warning names each choice without options, and no other. -/
theorem noOptions_mem_iff
    (hAudit : form.audit = .ok warnings)
    (id : String) :
    .noOptions id ∈ warnings ↔
      ∃ question ∈ form.inOrder,
        question.lacksOptions = true ∧ question.id = id := by
  have hOrder (question : Question) :
      question ∈ form.inOrder ↔ question ∈ form.questions :=
    List.mem_mergeSort
  rw [(audited_of_audit hAudit).listed]
  simp [Form.warnings, hOrder, and_assoc]

/- Without such warnings all questions can be answered. -/
theorem answerable_of_no_warning
    (hAudit : form.audit = .ok warnings)
    (hNone : ∀ id, .noOptions id ∉ warnings)
    (delays : Delays) :
    ∀ prompt ∈ (Plan.ofForm form delays).prompts,
      prompt.answerable = true := by
  intro prompt hPrompt
  rcases List.mem_map.mp hPrompt with ⟨question, hMem, hOf⟩
  rw [← hOf, Prompt.answerable_ofQuestion]
  cases hLacks : question.lacksOptions with
  | false => rfl
  | true =>
      have hWarned :=
        (noOptions_mem_iff hAudit question.id).mpr
          ⟨question, hMem, hLacks, rfl⟩
      exact absurd hWarned (hNone question.id)

/- With one, there is a first question that cannot. -/
theorem exists_first_of_warning
    {id : String}
    (hAudit : form.audit = .ok warnings)
    (hWarned : .noOptions id ∈ warnings)
    (delays : Delays) :
    ∃ index prompt,
      form.inOrder.findIdx? (·.lacksOptions) = some index ∧
        (Plan.ofForm form delays).promptAt? (index + 1) =
          some prompt ∧
        prompt.answerable = false := by
  rcases (noOptions_mem_iff hAudit id).mp hWarned with
    ⟨question, hMem, hLacks, _⟩
  have hSome :
      (form.inOrder.findIdx? (·.lacksOptions)).isSome = true := by
    rw [List.findIdx?_isSome]
    exact List.any_eq_true.mpr ⟨question, hMem, hLacks⟩
  rcases Option.isSome_iff_exists.mp hSome with ⟨index, hIndex⟩
  rcases List.findIdx?_eq_some_iff_getElem.mp hIndex with
    ⟨hLt, hFirst, _⟩
  refine
    ⟨index, Prompt.ofQuestion form.inOrder[index], hIndex, ?_, ?_⟩
  · change (form.inOrder.map Prompt.ofQuestion)[index]? = _
    rw [List.getElem?_map, List.getElem?_eq_getElem hLt]
    rfl
  · rw [Prompt.answerable_ofQuestion, hFirst]
    rfl

end Form

namespace Session

/- Before a dead end nothing is submitted. -/
theorem Before.not_submitted
    {plan : Plan}
    {place : Nat}
    {prompt : Prompt}
    {session : Session}
    (hBefore : Before plan place session)
    (hPrompt : plan.promptAt? place = some prompt)
    (now : Instant)
    (event : Event)
    (submission : Submission) :
    (session.handle plan now event).2 ≠
      .transition (.submitted submission) := by
  intro hSubmitted
  have hStep := session.step_handle plan now event
  rw [hSubmitted] at hStep
  have hPast : plan.prompts.length < session.step := by
    apply hBefore.placed.past_of_screen
    rcases hStep.submitted_cases with
      ⟨_, ⟨_, hReview, _⟩ | ⟨_, _, hCommitment, _⟩⟩
    · exact .inl hReview
    · exact .inr hCommitment
  have hBehind := hBefore.behind
  rcases Plan.step_of_promptAt? hPrompt with ⟨_, hLe⟩
  omega

end Session

/-
  The audit warns of choices without options exactly where a
  session may not come to its end.  Without such a warning every
  open session that a run leads to can be brought to a
  submission.  With one, no run passes the first of these
  choices, and nothing is ever submitted.
-/
theorem noOptions_iff_stuck
    {form : Form}
    {warnings : List Warning}
    (hAudit : form.audit = .ok warnings)
    (delays : Delays) :
    ((∀ id, .noOptions id ∉ warnings) →
      ∀ moments,
        ((Plan.ofForm form delays).sessionAfter
            moments).finished = false →
          ((Plan.ofForm form delays).sessionAfter
            moments).CanSubmit (Plan.ofForm form delays)) ∧
    ((∃ id, .noOptions id ∈ warnings) →
      ∃ index,
        form.inOrder.findIdx? (·.lacksOptions) = some index ∧
        ∀ moments,
          ((Plan.ofForm form delays).sessionAfter
              moments).step ≤ index + 1 ∧
          ∀ now event submission,
            (((Plan.ofForm form delays).sessionAfter
                moments).handle (Plan.ofForm form delays)
                  now event).2 ≠
              .transition (.submitted submission)) := by
  constructor
  · intro hNone moments hOpen
    have hAnswerable :=
      Form.answerable_of_no_warning hAudit hNone delays
    have hUnstuck :=
      Unstuck.sessionAfter (Plan.ofForm form delays) moments
    exact hUnstuck.canSubmit hAnswerable hOpen
  · rintro ⟨id, hWarned⟩
    rcases
        Form.exists_first_of_warning hAudit hWarned delays with
      ⟨index, prompt, hIndex, hPrompt, hDead⟩
    refine ⟨index, hIndex, ?_⟩
    intro moments
    have hBefore :=
      Session.Before.sessionAfter hPrompt hDead moments
    exact ⟨hBefore.behind, hBefore.not_submitted hPrompt⟩

/- A form that asks for a size and offers none. -/
def Form.sizeless : Form :=
  { company := { name := "Acme", slug := "acme" }
    questions := [
      { id := "name"
        kind := .shortText
        label := "Name"
        required := true },
      { id := "size"
        kind := .choiceCards
        label := "Size"
        order := 1 },
      { id := "email"
        kind := .email
        label := "E-mail"
        order := 2 }] }

/- A session of the small form ends, and none without sizes. -/
theorem sizeless_stuck :
    Form.small.audit = .ok [] ∧
      (Session.start (Plan.ofForm Form.small {})).CanSubmit
        (Plan.ofForm Form.small {}) ∧
      Form.sizeless.audit = .ok [.noOptions "size"] ∧
      ∀ moments,
        ((Plan.ofForm Form.sizeless {}).sessionAfter
          moments).step ≤ 2 := by
  have hAudit :
      Form.sizeless.audit = .ok [.noOptions "size"] := rfl
  have hOrder :
      Form.sizeless.inOrder = Form.sizeless.questions :=
    List.mergeSort_of_pairwise (by decide)
  have hSmall := noOptions_iff_stuck Form.audit_small {}
  have hSizeless := noOptions_iff_stuck hAudit {}
  refine ⟨Form.audit_small, ?_, hAudit, ?_⟩
  · exact hSmall.1 (by simp) [] (by rw [Plan.ofForm_small]; rfl)
  · rcases hSizeless.2 ⟨"size", by simp⟩ with
      ⟨index, hIndex, hRuns⟩
    have hFirst : some 1 = some index := by
      rw [← hIndex, hOrder]
      rfl
    intro moments
    have hStep := (hRuns moments).1
    rw [← Option.some.inj hFirst] at hStep
    exact hStep

end Questionnaire
