import Questionnaire.Proofs.Form.Audit
import Questionnaire.Proofs.Session.Place
import Mathlib.Data.List.Induction

/-
  The delay between a choice and the next step.

  Key definitions include:
    * `KeepsDelay`
    * `Session.Undisturbed`
    * `Session.Moves`
    * `Waiting`
    * `Session.IgnoresTimer`
    * `Plan.Schedules`

  A delay that runs was begun by a choice, and nothing has begun
  or ended another one since (`Plan.exists_schedules`).
  When it is over, only the number of the step is compared.  So
  it is ignored while the session is elsewhere, but not after
  the session has come back, when the step is unlocked again.
-/

------------------------------------------------------------
-- Undisturbed Delays
------------------------------------------------------------

namespace Questionnaire

/- The event with this outcome neither begins nor ends a delay. -/
def KeepsDelay
    (event : Event)
    (outcome : Outcome) : Prop :=
  match event with
  | .timer => False
  | .select _ | .choose _ =>
      ∃ refusal, outcome = .transition (.ignored refusal)
  | _ => True

namespace Session

/- No event of the run begins or ends a delay. -/
def Undisturbed
    (plan : Plan)
    (session : Session) : List Moment → Prop
  | [] => True
  | moment :: moments =>
      KeepsDelay moment.event
          (session.handle plan moment.now moment.event).2 ∧
        Undisturbed plan
          (session.handle plan moment.now moment.event).1
          moments

/- Some event of the run moves the session. -/
def Moves
    (plan : Plan)
    (session : Session) : List Moment → Prop
  | [] => False
  | moment :: moments =>
      (∃ origin destination,
        (session.handle plan moment.now moment.event).2 =
          .transition (.moved origin destination)) ∨
        Moves plan
          (session.handle plan moment.now moment.event).1
          moments

variable {plan : Plan}

/- A run is undisturbed when both of its parts are. -/
theorem undisturbed_append
    (session : Session)
    (earlier later : List Moment) :
    session.Undisturbed plan (earlier ++ later) ↔
      session.Undisturbed plan earlier ∧
        (session.after plan earlier).Undisturbed plan
          later := by
  induction earlier generalizing session with
  | nil => simp [Undisturbed]
  | cons moment earlier ih =>
      simp [Undisturbed, ih, and_assoc]

end Session

end Questionnaire

------------------------------------------------------------
-- Waiting for a Delay
------------------------------------------------------------

namespace Questionnaire

/-
  A session that waits for the delay of a step.  Before it has
  moved it stands there with the step locked; a step that it
  comes back to is not locked any more.
-/
structure Waiting
    (place : Nat)
    (moved : Prop)
    (session : Session) : Prop where
  pending : session.pending = some place
  stays :
    ¬ moved → session.step = place ∧ place ∈ session.locked
  returns :
    moved → session.step = place → place ∉ session.locked

namespace Waiting

variable {plan : Plan}
variable {place : Nat}
variable {moved moved' : Prop}
variable {session next : Session}

/- Where nothing but answers or the end change, it waits on. -/
theorem frame
    (hWaiting : Waiting place moved session)
    (hMoved : moved' ↔ moved)
    (hPending : next.pending = session.pending)
    (hStep : next.step = session.step)
    (hLocked : next.locked = session.locked) :
    Waiting place moved' next := by
  refine ⟨?_, ?_, ?_⟩
  · rw [hPending]
    exact hWaiting.pending
  · rw [hMoved, hStep, hLocked]
    exact hWaiting.stays
  · rw [hMoved, hStep, hLocked]
    exact hWaiting.returns

/- Any step that it goes to is unlocked. -/
theorem goTo
    (hPending : session.pending = some place)
    (hMoved : moved)
    (destination : Nat) :
    Waiting place moved (session.goTo destination).1 := by
  refine ⟨hPending, ?_, ?_⟩
  · intro hNot
    exact absurd hMoved hNot
  · intro _ hHere
    simp only [Session.goTo_step] at hHere
    simp [hHere]

/- So is the step that completing a question leads to. -/
theorem complete
    (hPending : session.pending = some place)
    (hMoved : moved) :
    Waiting place moved (session.complete plan).1 := by
  rcases session.complete_cases plan with
    ⟨_, hComplete⟩ | ⟨_, hComplete⟩
  · rw [hComplete]
    have hReviewed : (session.reviewed plan).pending = some place :=
      hPending
    exact goTo hReviewed hMoved _
  · rw [hComplete]
    exact goTo hPending hMoved _

/- A step that keeps the delay waits on. -/
theorem step
    {now : Instant}
    {event : Event}
    {outcome : Outcome}
    (hWaiting : Waiting place moved session)
    (hStep : session.Step plan now event next outcome)
    (hKeeps : KeepsDelay event outcome) :
    Waiting place
      (moved ∨ ∃ origin destination,
        outcome = .transition (.moved origin destination))
      next := by
  cases hStep with
  | refused | untyped | typed | failed | committed =>
      exact hWaiting.frame (by simp) rfl rfl rfl
  | picked | dropped => simp [KeepsDelay] at hKeeps
  | completed _ isReady =>
      cases isReady with
      | advanced =>
          exact complete hWaiting.pending
            (.inr ⟨_, _,
              congrArg Outcome.transition
                (session.complete_moved plan)⟩)
      | elapsed => simp [KeepsDelay] at hKeeps
      | @chosen prompt value =>
          rcases
              (session.pick prompt value).undelayed
                |>.complete_transition plan with
            ⟨_, hMoved⟩
          simp [KeepsDelay, hMoved] at hKeeps
  | wentBack | edited | passed =>
      refine goTo ?_ ?_ _
      · exact hWaiting.pending
      · exact .inr ⟨_, _, rfl⟩

/- It waits on through an undisturbed run. -/
theorem after
    (hWaiting : Waiting place moved session)
    (moments : List Moment)
    (hUndisturbed : session.Undisturbed plan moments) :
    Waiting place (moved ∨ session.Moves plan moments)
      (session.after plan moments) := by
  induction moments generalizing session moved with
  | nil =>
      exact hWaiting.frame (by simp [Session.Moves])
        rfl rfl rfl
  | cons moment moments ih =>
      rcases hUndisturbed with ⟨hKeeps, hRest⟩
      have hNext :=
        hWaiting.step
          (session.step_handle plan moment.now moment.event)
          hKeeps
      have hLast := ih hNext hRest
      exact hLast.frame (by simp [Session.Moves, or_assoc])
        rfl rfl rfl

end Waiting

end Questionnaire

------------------------------------------------------------
-- The End of a Delay
------------------------------------------------------------

namespace Questionnaire

namespace Session

variable {plan : Plan}
variable {now : Instant}
variable {session next : Session}
variable {place : Nat}

/- A choice that begins a delay locks the step on screen. -/
theorem Step.waiting_of_scheduled
    {value : String}
    {delay : Nat}
    (hStep :
      session.Step plan now (.select value) next
        (.transition (.scheduled place delay))) :
    Waiting place False next := by
  generalize hOutcome :
      Outcome.transition (.scheduled place delay) = outcome
    at hStep
  cases hStep with
  | picked =>
      simp only [Outcome.transition.injEq,
        Transition.scheduled.injEq] at hOutcome
      have hPlace := hOutcome.1
      subst hPlace
      refine ⟨rfl, ?_, ?_⟩
      · simp [pick]
      · intro hFalse
        exact hFalse.elim
  | refused => simp at hOutcome
  | completed _ isReady => cases isReady
  | passed confirming => simp at confirming
  | failed confirming => simp at confirming

/- No delay begins or ends when the answers are confirmed. -/
theorem keepsDelay_of_confirming
    {event : Event}
    {outcome : Outcome}
    (hConfirming : event = .confirm ∨ event = .advance) :
    KeepsDelay event outcome := by
  rcases hConfirming with hEvent | hEvent
  · rw [hEvent]
    exact trivial
  · rw [hEvent]
    exact trivial

/-
  Where a delay runs after a step, it ran before, or the step
  was a choice that began it.
-/
theorem Step.pending_cases
    {event : Event}
    {outcome : Outcome}
    (hStep : session.Step plan now event next outcome)
    (hPending : next.pending = some place) :
    (session.pending = some place ∧
        KeepsDelay event outcome) ∨
      ((∃ value, event = .select value) ∧
        ∃ delay,
          outcome =
            .transition (.scheduled place delay)) := by
  cases hStep with
  | refused _ refusal idle =>
      refine .inl ⟨hPending, ?_⟩
      cases event with
      | timer => simp [idle rfl] at hPending
      | select => exact ⟨refusal, rfl⟩
      | choose => exact ⟨refusal, rfl⟩
      | _ => exact trivial
  | untyped | typed | wentBack | edited | committed =>
      exact .inl ⟨hPending, trivial⟩
  | picked =>
      have hPlace : session.step = place := by
        simpa [pick] using hPending
      subst hPlace
      exact .inr ⟨⟨_, rfl⟩, ⟨_, rfl⟩⟩
  | dropped => simp [undelayed] at hPending
  | completed _ isReady =>
      rw [complete_pending] at hPending
      cases isReady with
      | advanced => exact .inl ⟨hPending, trivial⟩
      | elapsed => simp [undelayed] at hPending
      | chosen => simp [undelayed] at hPending
  | passed confirming | failed confirming =>
      exact .inl ⟨hPending, keepsDelay_of_confirming confirming⟩

/- The end of a delay is ignored and leaves the session there. -/
def IgnoresTimer
    (plan : Plan)
    (session : Session) : Prop :=
  ∀ now,
    (∃ refusal,
      (session.handle plan now .timer).2 =
        .transition (.ignored refusal)) ∧
    (session.handle plan now .timer).1.step = session.step

/- Where no delay runs, there is no end of one. -/
theorem ignoresTimer_of_idle
    (plan : Plan)
    (hIdle : session.pending = none) :
    session.IgnoresTimer plan := by
  intro now
  have hElapse :
      session.elapse plan = session.ignore .unavailable := by
    simp [elapse, hIdle]
  constructor
  · refine ⟨.unavailable, ?_⟩
    simp [handle, handle.moving, hElapse, ignore]
  · simp [handle, handle.moving, hElapse, ignore]

/- A delay that is over is ignored away from its step. -/
theorem ignoresTimer_of_away
    (plan : Plan)
    (hPending : session.pending = some place)
    (hAway : session.finished = true ∨ session.step ≠ place) :
    session.IgnoresTimer plan := by
  have hElapse :
      ∃ refusal,
        session.elapse plan =
          session.undelayed.ignore refusal := by
    by_cases hFinished : session.finished = true
    · refine ⟨.finished, ?_⟩
      simp [elapse, hPending, hFinished, undelayed]
    · have hStep : place ≠ session.step :=
        (hAway.resolve_left hFinished).symm
      refine ⟨.unavailable, ?_⟩
      simp [elapse, hPending, hFinished, hStep, undelayed]
  rcases hElapse with ⟨refusal, hElapse⟩
  intro now
  constructor
  · refine ⟨refusal, ?_⟩
    simp [handle, handle.moving, hElapse, ignore]
  · simp [handle, handle.moving, hElapse, ignore, undelayed]

/- At its step it completes the question. -/
theorem elapse_of_here
    (plan : Plan)
    (hPending : session.pending = some place)
    (hFinished : session.finished = false)
    (hStep : session.step = place) :
    session.elapse plan = session.undelayed.complete plan := by
  simp [elapse, hPending, hFinished, hStep, undelayed]

/- So it is ignored exactly away from its step. -/
theorem ignoresTimer_iff
    (plan : Plan)
    (hPending : session.pending = some place) :
    session.IgnoresTimer plan ↔
      session.finished = true ∨ session.step ≠ place := by
  constructor
  · intro hIgnores
    refine Decidable.byContradiction (fun hHere => ?_)
    rcases not_or.mp hHere with ⟨hOpen, hStep⟩
    have hElapse :
        session.elapse plan =
          session.undelayed.complete plan :=
      elapse_of_here plan hPending (by simpa using hOpen)
        (Decidable.not_not.mp hStep)
    rcases session.undelayed.complete_transition plan with
      ⟨_, hMoved⟩
    rcases hIgnores ⟨0, 0⟩ with ⟨⟨refusal, hIgnored⟩, _⟩
    simp [handle, handle.moving, hElapse, hMoved] at hIgnored
  · intro hAway
    exact ignoresTimer_of_away plan hPending hAway

end Session

namespace Plan

/-
  The moment begins the delay of a step by a choice, and the
  run after it leaves this delay alone.
-/
structure Schedules
    (plan : Plan)
    (place : Nat)
    (earlier : List Moment)
    (moment : Moment)
    (later : List Moment) : Prop where
  chosen : ∃ value, moment.event = .select value
  scheduled :
    ∃ delay,
      ((plan.sessionAfter earlier).handle plan
          moment.now moment.event).2 =
        .transition (.scheduled place delay)
  undisturbed :
    (plan.sessionAfter (earlier ++ [moment])).Undisturbed
      plan later

variable {plan : Plan}
variable {place : Nat}
variable {earlier later : List Moment}
variable {moment : Moment}

/- A run goes on after its first events. -/
theorem sessionAfter_cons
    (plan : Plan)
    (earlier later : List Moment)
    (moment : Moment) :
    plan.sessionAfter (earlier ++ moment :: later) =
      (plan.sessionAfter (earlier ++ [moment])).after plan
        later := by
  have hMoments :
      earlier ++ moment :: later =
        (earlier ++ [moment]) ++ later := by
    simp
  rw [hMoments]
  exact Session.after_append _ _ _

/- A scheduled delay is waited for. -/
theorem Schedules.waiting
    (hSchedules : plan.Schedules place earlier moment later) :
    Waiting place
      ((plan.sessionAfter (earlier ++ [moment])).Moves plan
        later)
      (plan.sessionAfter (earlier ++ moment :: later)) := by
  rcases hSchedules.chosen with ⟨value, hValue⟩
  rcases hSchedules.scheduled with ⟨delay, hDelay⟩
  have hStep :=
    (plan.sessionAfter earlier).step_handle plan
      moment.now moment.event
  rw [hDelay, ← sessionAfter_concat, hValue] at hStep
  have hLast :=
    hStep.waiting_of_scheduled.after later
      hSchedules.undisturbed
  rw [sessionAfter_cons plan earlier later moment]
  simpa only [false_or] using hLast

/- A delay that runs was scheduled, and nothing came between. -/
theorem exists_schedules
    (plan : Plan)
    (place : Nat)
    (moments : List Moment)
    (hPending :
      (plan.sessionAfter moments).pending = some place) :
    ∃ earlier moment later,
      moments = earlier ++ moment :: later ∧
        plan.Schedules place earlier moment later := by
  induction moments using List.reverseRecOn with
  | nil =>
      simp [sessionAfter] at hPending
  | append_singleton moments last ih =>
      have hStep :=
        (plan.sessionAfter moments).step_handle plan
          last.now last.event
      rw [sessionAfter_concat] at hPending
      rcases hStep.pending_cases hPending with
        ⟨hBefore, hKeeps⟩ | ⟨hChosen, hScheduled⟩
      · -- What keeps the delay goes to the end of the run after it.
        rcases ih hBefore with
          ⟨earlier, moment, later, hMoments, hSchedules⟩
        refine ⟨earlier, moment, later ++ [last], ?_, ?_⟩
        · simp [hMoments]
        · refine
            ⟨hSchedules.chosen, hSchedules.scheduled, ?_⟩
          rw [Session.undisturbed_append]
          refine ⟨hSchedules.undisturbed, ?_⟩
          rw [← sessionAfter_cons plan earlier later moment,
            ← hMoments]
          exact ⟨hKeeps, trivial⟩
      · exact
          ⟨moments, last, [], rfl, hChosen, hScheduled,
            trivial⟩

end Plan

/-
  In every run a delay is running exactly when a choice began
  it and nothing has begun or ended a delay since; without one
  the clock is ignored.  When the delay is over, the clock is
  ignored and the session stays exactly if the session has ended
  or stands at another step.  At the step of the delay the lock
  is still there exactly if the session has not moved since.
-/
theorem delay_ignored_iff_away
    (plan : Plan)
    (place : Nat)
    (moments : List Moment) :
    ((plan.sessionAfter moments).pending = some place ↔
      ∃ earlier moment later,
        moments = earlier ++ moment :: later ∧
          plan.Schedules place earlier moment later) ∧
    ((plan.sessionAfter moments).pending = none →
      (plan.sessionAfter moments).IgnoresTimer plan) ∧
    ∀ earlier moment later,
      moments = earlier ++ moment :: later →
      plan.Schedules place earlier moment later →
        ((plan.sessionAfter moments).IgnoresTimer plan ↔
          (plan.sessionAfter moments).finished = true ∨
            (plan.sessionAfter moments).step ≠ place) ∧
        ((plan.sessionAfter moments).step = place →
          (place ∈ (plan.sessionAfter moments).locked ↔
            ¬ (plan.sessionAfter (earlier ++ [moment])).Moves
              plan later)) := by
  refine ⟨⟨plan.exists_schedules place moments, ?_⟩, ?_, ?_⟩
  · rintro ⟨earlier, moment, later, hMoments, hSchedules⟩
    rw [hMoments]
    exact hSchedules.waiting.pending
  · intro hIdle
    exact Session.ignoresTimer_of_idle plan hIdle
  · intro earlier moment later hMoments hSchedules
    subst hMoments
    have hWaiting := hSchedules.waiting
    refine ⟨?_, ?_⟩
    · exact Session.ignoresTimer_iff plan hWaiting.pending
    · intro hHere
      constructor
      · intro hLocked hMoves
        exact hWaiting.returns hMoves hHere hLocked
      · intro hStill
        exact (hWaiting.stays hStill).2

/-
  A respondent chooses a size, looks at the name again and
  returns before the delay is over.
-/
def sizeRevisited : List Moment :=
  momentsAt ⟨0, 0⟩ [.back, .advance]

/- The choice of that size. -/
def sizeChosen : Moment :=
  ⟨⟨0, 0⟩, .select "30"⟩

/- What comes before it. -/
def nameEntered : List Moment :=
  momentsAt ⟨0, 0⟩ [.input "Ana", .advance]

/- Nothing disturbs the delay of the choice. -/
theorem schedules_sizeRevisited :
    Plan.small.Schedules 2 nameEntered sizeChosen
      sizeRevisited := by
  refine ⟨⟨"30", rfl⟩, ⟨450, ?_⟩, ?_⟩
  · decide +kernel
  · exact ⟨trivial, trivial, trivial⟩

/- It moves away and comes back. -/
theorem moves_sizeRevisited :
    (Plan.small.sessionAfter
      (nameEntered ++ [sizeChosen])).Moves Plan.small
        sizeRevisited := by
  refine .inl ⟨2, 1, ?_⟩
  decide +kernel

theorem delay_fires_after_return :
    Plan.small.Schedules 2 nameEntered sizeChosen
        sizeRevisited ∧
      (Plan.small.sessionAfter
        (nameEntered ++ [sizeChosen])).Moves Plan.small
          sizeRevisited ∧
      ¬ (Plan.small.sessionAfter
        (nameEntered ++ sizeChosen :: sizeRevisited)).IgnoresTimer
          Plan.small := by
  have hIff :=
    ((delay_ignored_iff_away Plan.small 2
      (nameEntered ++ sizeChosen :: sizeRevisited)).2.2
        nameEntered sizeChosen sizeRevisited rfl
        schedules_sizeRevisited).1
  refine ⟨schedules_sizeRevisited, moves_sizeRevisited, ?_⟩
  rw [hIff]
  decide +kernel

/- So a delay is not always dropped once its step was left. -/
theorem delay_outlasts_leaving :
    ¬ ∀ (plan : Plan) (place : Nat)
        (earlier : List Moment) (moment : Moment)
        (later : List Moment),
      plan.Schedules place earlier moment later →
        (plan.sessionAfter (earlier ++ [moment])).Moves plan
            later →
          (plan.sessionAfter
            (earlier ++ moment :: later)).IgnoresTimer plan := by
  intro hAll
  rcases
      hAll Plan.small 2 nameEntered sizeChosen sizeRevisited
        schedules_sizeRevisited moves_sizeRevisited ⟨0, 0⟩ with
    ⟨⟨refusal, hIgnored⟩, _⟩
  have hMoved :
      ((Plan.small.sessionAfter
          (nameEntered ++ sizeChosen :: sizeRevisited)).handle
            Plan.small ⟨0, 0⟩ .timer).2 =
        .transition (.moved 2 3) := by
    decide +kernel
  rw [hMoved] at hIgnored
  simp at hIgnored

end Questionnaire
