import Questionnaire.Proofs.Session.Completion
import Questionnaire.Proofs.Session.Navigation
import Questionnaire.Proofs.Session.Refusal

/-
  Choosing once each time that a question is shown.

  Key definitions include:
    * `recorded?`
    * `Session.recorded`
    * `Plan.Showing`
    * `ChosenSince`
    * `Session.Offering`
    * `Session.RefusesChoice`

  A step is unlocked when it is shown, and locked when an option
  is chosen at it.  So at most one option is recorded before it
  is shown again (`ChosenSince.after`), and its answer stays.
-/

------------------------------------------------------------
-- Steps That Can Be Locked
------------------------------------------------------------

namespace Questionnaire

namespace Session

/- Only choices that offer something are locked. -/
def LocksChoices
    (plan : Plan)
    (session : Session) : Prop :=
  ∀ place ∈ session.locked,
    ∃ prompt,
      plan.promptAt? place = some prompt ∧
        prompt.kind.isChoice = true ∧
          prompt.options ≠ []

namespace LocksChoices

variable {plan : Plan}
variable {session next : Session}

/- Fewer locks are still locks of choices. -/
theorem of_subset
    (hLocks : session.LocksChoices plan)
    (hSubset : ∀ place ∈ next.locked, place ∈ session.locked) :
    next.LocksChoices plan :=
  fun place hLocked => hLocks place (hSubset place hLocked)

/- Going to a step adds no lock. -/
theorem goTo
    (hLocks : session.LocksChoices plan)
    (step : Nat) :
    (session.goTo step).1.LocksChoices plan := by
  apply hLocks.of_subset
  intro place hLocked
  exact ((mem_goTo_locked _ _ _).mp hLocked).1

/- Completing a question adds no lock. -/
theorem complete
    (hLocks : session.LocksChoices plan) :
    (session.complete plan).1.LocksChoices plan := by
  rcases session.complete_cases plan with
    ⟨_, hComplete⟩ | ⟨_, hComplete⟩
  · rw [hComplete]
    have hReviewed : (session.reviewed plan).LocksChoices plan :=
      hLocks
    exact hReviewed.goTo _
  · rw [hComplete]
    exact hLocks.goTo _

/- The option that is chosen is one that the lock's step offers. -/
theorem pick
    {prompt : Prompt}
    {value : String}
    (hLocks : session.LocksChoices plan)
    (hOffers : session.Offers plan prompt value) :
    (session.pick prompt value).LocksChoices plan := by
  intro place hLocked
  rcases List.mem_cons.mp hLocked with hHere | hOther
  · rw [hHere]
    exact
      ⟨prompt, hOffers.asked, hOffers.choice,
        List.ne_nil_of_mem hOffers.offered⟩
  · exact hLocks place hOther

/- Nothing is locked at the start. -/
theorem start
    (plan : Plan) :
    (Session.start plan).LocksChoices plan := by
  intro place hLocked
  rw [start_locked] at hLocked
  exact absurd hLocked List.not_mem_nil

/- Every step locks choices only. -/
theorem step
    {now : Instant}
    {event : Event}
    {outcome : Outcome}
    (hLocks : session.LocksChoices plan)
    (hStep : session.Step plan now event next outcome) :
    next.LocksChoices plan := by
  cases hStep with
  | picked _ offers => exact hLocks.pick offers
  | completed _ isReady =>
      cases isReady with
      | advanced => exact hLocks.complete
      | elapsed =>
          have hReady : session.undelayed.LocksChoices plan :=
            hLocks
          exact hReady.complete
      | @chosen prompt value offers =>
          have hReady :
              (session.pick prompt value).undelayed.LocksChoices
                plan :=
            hLocks.pick offers
          exact hReady.complete
  | wentBack => exact hLocks.goTo _
  | edited =>
      have hReopened : session.reopened.LocksChoices plan :=
        hLocks
      exact hReopened.goTo _
  | passed => exact hLocks.goTo _
  | _ => exact hLocks

/- So does every run. -/
theorem sessionAfter
    (plan : Plan)
    (moments : List Moment) :
    (plan.sessionAfter moments).LocksChoices plan :=
  after_induction (start plan) step moments

end LocksChoices

end Session

end Questionnaire

------------------------------------------------------------
-- Showing a Step
------------------------------------------------------------

namespace Questionnaire

/- The step has just been shown: by the last event, or at first. -/
def Plan.Showing
    (plan : Plan)
    (place : Nat)
    (moments : List Moment) : Prop :=
  (moments = [] ∧ (Session.start plan).step = place) ∨
    ∃ earlier moment origin,
      moments = earlier ++ [moment] ∧
        ((plan.sessionAfter earlier).handle plan moment.now
            moment.event).2 =
          .transition (.moved origin place)

namespace Session

variable {plan : Plan}
variable {now : Instant}
variable {session next : Session}
variable {event : Event}
variable {outcome : Outcome}

/- A move unlocks the step that it leads to. -/
theorem Step.unlocked_of_moved
    {origin destination : Nat}
    (hStep :
      session.Step plan now event next
        (.transition (.moved origin destination))) :
    destination = next.step ∧ next.step ∉ next.locked := by
  generalize hOutcome :
      Outcome.transition (.moved origin destination) = outcome
    at hStep
  cases hStep with
  | @completed _ ready =>
      rw [ready.complete_moved plan] at hOutcome
      simp only [Outcome.transition.injEq,
        Transition.moved.injEq] at hOutcome
      exact
        ⟨hOutcome.2, Unstuck.not_locked_complete plan ready⟩
  | wentBack | edited | passed =>
      simp only [Outcome.transition.injEq,
        Transition.moved.injEq] at hOutcome
      exact ⟨hOutcome.2, Unstuck.not_locked_goTo _ _⟩
  | _ => simp at hOutcome

/- Every way to move leads to another step. -/
theorem Course.leaves
    (hCourse : session.Course plan event next) :
    next.step ≠ session.step := by
  cases hCourse with
  | onward _ _ arrives => omega
  | toReview completes _ arrives =>
      have hAsked := Plan.step_of_promptAt? completes.asked
      unfold Plan.stepOfReview at arrives
      omega
  | backward _ arrives => omega
  | reopened _ atReview _ within =>
      unfold Plan.stepOfReview at atReview
      omega
  | toCommitment _ atReview _ arrives =>
      unfold Plan.stepOfReview at atReview
      unfold Plan.stepOfCommitment at arrives
      omega

end Session

namespace Plan

variable {plan : Plan}
variable {place : Nat}
variable {moments : List Moment}

/- A step that is shown is on screen, and not locked. -/
theorem Showing.unlocked
    (hShowing : plan.Showing place moments) :
    (plan.sessionAfter moments).step = place ∧
      place ∉ (plan.sessionAfter moments).locked := by
  rcases hShowing with
    ⟨hNil, hStart⟩ | ⟨earlier, moment, origin, hMoments, hMoved⟩
  · rw [hNil]
    refine ⟨hStart, ?_⟩
    intro hLocked
    rw [sessionAfter, Session.after_nil, Session.start_locked]
      at hLocked
    exact absurd hLocked List.not_mem_nil
  · have hStep :=
      (plan.sessionAfter earlier).step_handle plan moment.now
        moment.event
    rw [hMoved] at hStep
    rcases hStep.unlocked_of_moved with ⟨hPlace, hUnlocked⟩
    rw [hMoments, sessionAfter_concat, hPlace]
    exact ⟨rfl, hUnlocked⟩

end Plan

end Questionnaire

------------------------------------------------------------
-- Recorded Options
------------------------------------------------------------

namespace Questionnaire

/- The option that an event records at a step, if it does. -/
def recorded?
    (place : Nat)
    (session : Session)
    (event : Event)
    (outcome : Outcome) : Option String :=
  match event with
  | .select value | .choose value =>
      if session.step = place ∧ outcome.refused = false then
        some value
      else
        none
  | _ => none

/- The options that a run records at a step, in their order. -/
def Session.recorded
    (plan : Plan)
    (place : Nat)
    (session : Session) : List Moment → List String
  | [] => []
  | moment :: moments =>
      (recorded? place session moment.event
          (session.handle plan moment.now moment.event).2).toList
        ++ recorded plan place
          (session.handle plan moment.now moment.event).1
          moments

/-
  What holds at a step since it was shown.  Nothing has been
  recorded, and it is unlocked and has the answer from before;
  or one option has been recorded, and it is locked and has
  this option as its answer.
-/
inductive ChosenSince
    (place : Nat)
    (id : String)
    (before : Option String)
    (session : Session) : List String → Prop where
  | nothing
      (unlocked : place ∉ session.locked)
      (answer : session.answers.get? id = before) :
      ChosenSince place id before session []
  | option
      {value : String}
      (locked : place ∈ session.locked)
      (answer : session.answers.get? id = some value) :
      ChosenSince place id before session [value]

namespace ChosenSince

variable {plan : Plan}
variable {place : Nat}
variable {prompt : Prompt}
variable {before : Option String}
variable {session next : Session}
variable {values : List String}

/- It holds on where neither the lock nor the answer change. -/
theorem frame
    {id : String}
    (hChosen : ChosenSince place id before session values)
    (hLocked : place ∈ next.locked ↔ place ∈ session.locked)
    (hAnswer :
      next.answers.get? id = session.answers.get? id) :
    ChosenSince place id before next values := by
  cases hChosen with
  | nothing unlocked answer =>
      exact .nothing (mt hLocked.mp unlocked) (hAnswer.trans answer)
  | option locked answer =>
      exact .option (hLocked.mpr locked) (hAnswer.trans answer)

/- Going to another step does not change it. -/
theorem goTo
    {id : String}
    {destination : Nat}
    (hChosen : ChosenSince place id before session values)
    (hElsewhere : destination ≠ place) :
    ChosenSince place id before (session.goTo destination).1
      values := by
  apply hChosen.frame
  · rw [Session.mem_goTo_locked]
    exact and_iff_left hElsewhere.symm
  · rfl

/- Nor does completing a question, if it leads elsewhere. -/
theorem complete
    {id : String}
    (hChosen : ChosenSince place id before session values)
    (hElsewhere : (session.complete plan).1.step ≠ place) :
    ChosenSince place id before (session.complete plan).1
      values := by
  rcases session.complete_cases plan with
    ⟨_, hComplete⟩ | ⟨_, hComplete⟩
  · rw [hComplete] at hElsewhere ⊢
    have hReviewed :
        ChosenSince place id before (session.reviewed plan)
          values :=
      hChosen.frame Iff.rfl rfl
    exact hReviewed.goTo hElsewhere
  · rw [hComplete] at hElsewhere ⊢
    exact hChosen.goTo hElsewhere

/- Choosing at the step records the option there. -/
theorem pick
    {other : Prompt}
    {value : String}
    (hChosen : ChosenSince place prompt.id before session values)
    (hDistinct : plan.Distinct)
    (hPrompt : plan.promptAt? place = some prompt)
    (hOffers : session.Offers plan other value) :
    ChosenSince place prompt.id before (session.pick other value)
      (values ++ if session.step = place then [value] else []) := by
  have hAsked := hOffers.asked
  by_cases hHere : session.step = place
  · rw [hHere, hPrompt] at hAsked
    have hUnlocked := hOffers.unlocked
    rw [hHere] at hUnlocked
    rw [if_pos hHere, ← Option.some.inj hAsked]
    cases hChosen with
    | nothing =>
        refine .option ?_ ?_
        · simp [Session.pick, hHere]
        · simp [Session.pick]
    | option locked => exact absurd locked hUnlocked
  · have hId : prompt.id ≠ other.id := by
      intro hSame
      exact hHere (hDistinct.step_eq hPrompt hAsked hSame.symm)
    rw [if_neg hHere, List.append_nil]
    apply hChosen.frame
    · simp [Session.pick, Ne.symm hHere]
    · simp [Session.pick, hId]

/- Typing elsewhere does not change it. -/
theorem typed
    {other : Prompt}
    {validator : Validator}
    (value : String)
    (hChosen : ChosenSince place prompt.id before session values)
    (hDistinct : plan.Distinct)
    (hPrompt : plan.promptAt? place = some prompt)
    (hChoice : prompt.kind.isChoice = true)
    (hAsked : plan.promptAt? session.step = some other)
    (hJudged : Validator.ofKind? other.kind = some validator) :
    ChosenSince place prompt.id before
      (session.record other.id value) values := by
  have hId : prompt.id ≠ other.id := by
    intro hSame
    have hHere :=
      hDistinct.step_eq hPrompt hAsked hSame.symm
    rw [hHere, hPrompt] at hAsked
    rw [← Option.some.inj hAsked,
      (Validator.ofKind?_eq_none_iff _).mpr hChoice] at hJudged
    simp at hJudged
  apply hChosen.frame
  · rfl
  · simp [Session.record, hId]

end ChosenSince

/- A refused event records nothing. -/
theorem recorded?_of_refused
    {place : Nat}
    {session : Session}
    {event : Event}
    {outcome : Outcome}
    (hRefused : outcome.refused = true) :
    recorded? place session event outcome = none := by
  cases event with
  | select => simp [recorded?, hRefused]
  | choose => simp [recorded?, hRefused]
  | _ => rfl

/- Nor is anything recorded when the answers are confirmed. -/
theorem recorded?_of_confirming
    {place : Nat}
    {session : Session}
    {event : Event}
    {outcome : Outcome}
    (hConfirming : event = .confirm ∨ event = .advance) :
    recorded? place session event outcome = none := by
  rcases hConfirming with hEvent | hEvent
  · rw [hEvent]
    rfl
  · rw [hEvent]
    rfl

/- Any other choice records its option at the step on screen. -/
theorem recorded?_of_chosen
    {place : Nat}
    {session : Session}
    {event : Event}
    {outcome : Outcome}
    {value : String}
    (hEvent : event = .select value ∨ event = .choose value)
    (hTaken : outcome.refused = false) :
    (recorded? place session event outcome).toList =
      if session.step = place then [value] else [] := by
  rcases hEvent with hSelect | hChoose
  · rw [hSelect]
    by_cases hHere : session.step = place
    · simp [recorded?, hTaken, hHere]
    · simp [recorded?, hHere]
  · rw [hChoose]
    by_cases hHere : session.step = place
    · simp [recorded?, hTaken, hHere]
    · simp [recorded?, hHere]

namespace ChosenSince

variable {plan : Plan}
variable {place : Nat}
variable {prompt : Prompt}
variable {before : Option String}
variable {session next : Session}
variable {values : List String}

/- It holds on after an event that records nothing. -/
theorem unrecorded
    {id : String}
    {event : Event}
    {outcome : Outcome}
    (hChosen : ChosenSince place id before next values)
    (hNone : recorded? place session event outcome = none) :
    ChosenSince place id before next
      (values
        ++ (recorded? place session event outcome).toList) := by
  rw [hNone, Option.toList_none, List.append_nil]
  exact hChosen

/-
  An event that does not show the step records at most one
  option there, and none after another.
-/
theorem step
    {now : Instant}
    {event : Event}
    {outcome : Outcome}
    (hChosen : ChosenSince place prompt.id before session values)
    (hDistinct : plan.Distinct)
    (hPrompt : plan.promptAt? place = some prompt)
    (hChoice : prompt.kind.isChoice = true)
    (hStep : session.Step plan now event next outcome)
    (hNotShown :
      ∀ origin, outcome ≠ .transition (.moved origin place)) :
    ChosenSince place prompt.id before next
      (values
        ++ (recorded? place session event outcome).toList) := by
  -- Whatever the event leads to is not the step itself.
  have hElsewhere
      {origin destination : Nat}
      (hMoved : outcome = .transition (.moved origin destination)) :
      destination ≠ place := by
    intro hPlace
    rw [hPlace] at hMoved
    exact hNotShown origin hMoved
  cases hStep with
  | refused => exact hChosen.unrecorded (recorded?_of_refused rfl)
  | untyped => exact hChosen.unrecorded rfl
  | typed _ asked judged =>
      refine unrecorded ?_ rfl
      exact
        hChosen.typed _ hDistinct hPrompt hChoice asked judged
  | picked _ offers =>
      rw [recorded?_of_chosen (.inl rfl) rfl]
      exact hChosen.pick hDistinct hPrompt offers
  | dropped =>
      refine unrecorded ?_ rfl
      exact hChosen.frame Iff.rfl rfl
  | @completed _ ready _ isReady =>
      have hLeft : (ready.complete plan).1.step ≠ place :=
        hElsewhere
          (congrArg Outcome.transition (ready.complete_moved plan))
      cases isReady with
      | advanced =>
          refine unrecorded ?_ rfl
          exact hChosen.complete hLeft
      | elapsed =>
          have hReady :
              ChosenSince place prompt.id before
                session.undelayed values :=
            hChosen.frame Iff.rfl rfl
          refine unrecorded ?_ rfl
          exact hReady.complete hLeft
      | @chosen other value offers =>
          rw [recorded?_of_chosen (.inr rfl) (by simp)]
          have hReady :
              ChosenSince place prompt.id before
                (session.pick other value).undelayed
                (values
                  ++ if session.step = place then [value]
                    else []) :=
            (hChosen.pick hDistinct hPrompt offers).frame
              Iff.rfl rfl
          exact hReady.complete hLeft
  | wentBack =>
      refine unrecorded ?_ rfl
      exact hChosen.goTo (hElsewhere rfl)
  | edited =>
      have hReopened :
          ChosenSince place prompt.id before session.reopened
            values :=
        hChosen.frame Iff.rfl rfl
      refine unrecorded ?_ rfl
      exact hReopened.goTo (hElsewhere rfl)
  | passed confirming =>
      refine unrecorded ?_ (recorded?_of_confirming confirming)
      exact hChosen.goTo (hElsewhere rfl)
  | failed confirming =>
      refine unrecorded ?_ (recorded?_of_confirming confirming)
      exact hChosen.frame Iff.rfl rfl
  | committed =>
      refine unrecorded ?_ rfl
      exact hChosen.frame Iff.rfl rfl

/- So does a run in which the step is not shown again. -/
theorem after
    (hChosen : ChosenSince place prompt.id before session values)
    (hDistinct : plan.Distinct)
    (hPrompt : plan.promptAt? place = some prompt)
    (hChoice : prompt.kind.isChoice = true)
    (moments : List Moment)
    (hNotShown :
      ∀ origin,
        .transition (.moved origin place) ∉
          session.outcomes plan moments) :
    ChosenSince place prompt.id before
      (session.after plan moments)
      (values ++ session.recorded plan place moments) := by
  induction moments generalizing session values with
  | nil =>
      rw [Session.recorded, List.append_nil]
      exact hChosen
  | cons moment moments ih =>
      have hHere :
          ∀ origin,
            (session.handle plan moment.now moment.event).2 ≠
              .transition (.moved origin place) := by
        intro origin hMoved
        exact hNotShown origin (List.mem_cons.mpr (.inl hMoved.symm))
      have hNext :=
        hChosen.step hDistinct hPrompt hChoice
          (session.step_handle plan moment.now moment.event) hHere
      rw [Session.recorded, ← List.append_assoc]
      apply ih hNext
      intro origin hLater
      exact hNotShown origin (List.mem_cons_of_mem _ hLater)

end ChosenSince

end Questionnaire

------------------------------------------------------------
-- Choosing While the Step Is on Screen
------------------------------------------------------------

namespace Questionnaire

namespace Session

/- Every option can be chosen, with a delay or without one. -/
def Offering
    (plan : Plan)
    (place : Nat)
    (prompt : Prompt)
    (session : Session) : Prop :=
  ∀ now, ∀ option ∈ prompt.options,
    (session.handle plan now (.select option)).2 =
        .transition (.scheduled place plan.delays.afterChoice) ∧
      ∃ destination,
        (session.handle plan now (.choose option)).2 =
          .transition (.moved place destination)

/- Choosing is refused and leaves the session as it is. -/
def RefusesChoice
    (plan : Plan)
    (session : Session) : Prop :=
  ∀ now value,
    session.handle plan now (.select value) =
        (session, .transition (.ignored .locked)) ∧
      session.handle plan now (.choose value) =
        (session, .transition (.ignored .locked))

variable {plan : Plan}
variable {session : Session}
variable {prompt : Prompt}

/- A choice that is shown and unlocked offers its options. -/
theorem offering_of_unlocked
    (hPlaced : session.Placed plan)
    (hPrompt : plan.promptAt? session.step = some prompt)
    (hChoice : prompt.kind.isChoice = true)
    (hUnlocked : session.step ∉ session.locked) :
    session.Offering plan session.step prompt := by
  intro now option hOption
  have hOpen := hPlaced.open_of_promptAt? hPrompt
  have hScreen := screen_eq_question_iff.mpr hPrompt
  refine ⟨?_, ?_⟩
  · simp [handle, handle.moving, select, hOpen, hScreen, hChoice,
      hUnlocked, hOption]
  · have hChoose :
        session.choose plan option =
          (session.pick prompt option).undelayed.complete plan := by
      rw [choose_of_choice hOpen hPrompt hChoice hUnlocked,
        Prompt.admits_of_choice hChoice, if_pos (by simpa)]
    rcases
        (session.pick prompt option).undelayed
          |>.complete_transition plan with
      ⟨destination, hMoved⟩
    refine ⟨destination, ?_⟩
    simp only [handle, handle.moving, hChoose, hMoved]
    rfl

/- One that is locked refuses every choice. -/
theorem refusesChoice_of_locked
    (hPlaced : session.Placed plan)
    (hPrompt : plan.promptAt? session.step = some prompt)
    (hChoice : prompt.kind.isChoice = true)
    (hLocked : session.step ∈ session.locked) :
    session.RefusesChoice plan := by
  intro now value
  have hOpen := hPlaced.open_of_promptAt? hPrompt
  have hScreen := screen_eq_question_iff.mpr hPrompt
  have hSelect :
      session.select plan value = session.ignore .locked := by
    simp [select, hOpen, hScreen, hChoice, hLocked]
  refine ⟨?_, ?_⟩
  · simp [handle, handle.moving, hSelect, ignore]
  · simp [handle, handle.moving, choose, hSelect, ignore]

/-
  A session that stands at a locked step waits for a delay, and
  leaves the step when it is over.
-/
theorem leaves_of_locked
    (hUnstuck : Unstuck plan session)
    (hLocks : session.LocksChoices plan)
    (hLocked : session.step ∈ session.locked) :
    session.pending = some session.step ∧
      ∀ now, ∃ destination,
        (session.handle plan now .timer).2 =
          .transition (.moved session.step destination) := by
  rcases hLocks session.step hLocked with ⟨prompt, hPrompt, _⟩
  have hOpen := hUnstuck.placed.open_of_promptAt? hPrompt
  have hPending := hUnstuck.running hOpen hLocked
  refine ⟨hPending, ?_⟩
  intro now
  rcases session.undelayed.complete_transition plan with
    ⟨destination, hMoved⟩
  refine ⟨destination, ?_⟩
  simp only [handle, handle.moving,
    elapse_of_here plan hPending hOpen rfl, hMoved]
  rfl

end Session

/-
  As long as no option has been recorded since a step was shown,
  its answer is the one from before, and each can be chosen
  while it is on screen.  Once one is, this is its answer, and
  choosing is refused.
-/
theorem ChosenSince.offering_or_refuses
    {plan : Plan}
    {place : Nat}
    {prompt : Prompt}
    {before : Option String}
    {session : Session}
    {values : List String}
    (hChosen : ChosenSince place prompt.id before session values)
    (hPlaced : session.Placed plan)
    (hPrompt : plan.promptAt? place = some prompt)
    (hChoice : prompt.kind.isChoice = true) :
    (values = [] ∧
        session.answers.get? prompt.id = before ∧
          (session.step = place →
            session.Offering plan place prompt)) ∨
      ∃ value,
        values = [value] ∧
          session.answers.get? prompt.id = some value ∧
            (session.step = place → session.RefusesChoice plan) := by
  cases hChosen with
  | nothing unlocked answer =>
      refine .inl ⟨rfl, answer, ?_⟩
      intro hHere
      subst hHere
      exact
        Session.offering_of_unlocked hPlaced hPrompt hChoice unlocked
  | @option value locked answer =>
      refine .inr ⟨value, rfl, answer, ?_⟩
      intro hHere
      subst hHere
      exact
        Session.refusesChoice_of_locked hPlaced hPrompt hChoice locked

/-
  In a run of an audited form only choices that offer something
  are locked, every move leads to another step, and a session
  that stands at a locked step leaves it when its delay is over.
  Each time that a choice is shown, every option can be chosen.
  Until it is shown again one option at most is recorded there.
  As long as none is, its answer stays and every option can
  still be chosen while it is on screen; once one is, this
  option is its answer, and choosing again is refused.
-/
theorem one_option_per_showing
    {form : Form}
    {warnings : List Warning}
    (hAudit : form.audit = .ok warnings)
    (delays : Delays)
    (moments : List Moment) :
    let plan := Plan.ofForm form delays
    let session := plan.sessionAfter moments
    session.LocksChoices plan ∧
    (session.step ∈ session.locked →
      session.pending = some session.step ∧
        ∀ now, ∃ destination,
          (session.handle plan now .timer).2 =
            .transition (.moved session.step destination)) ∧
    (∀ now event origin destination,
      (session.handle plan now event).2 =
          .transition (.moved origin destination) →
        destination ≠ session.step) ∧
    ∀ place prompt,
      plan.promptAt? place = some prompt →
      prompt.kind.isChoice = true →
      plan.Showing place moments →
        session.step = place ∧
        session.Offering plan place prompt ∧
        ∀ later,
          (∀ origin,
            .transition (.moved origin place) ∉
              session.outcomes plan later) →
          let last := session.after plan later
          (session.recorded plan place later = [] ∧
            last.answers.get? prompt.id =
              session.answers.get? prompt.id ∧
            (last.step = place →
              last.Offering plan place prompt)) ∨
          ∃ value,
            session.recorded plan place later = [value] ∧
            last.answers.get? prompt.id = some value ∧
            (last.step = place → last.RefusesChoice plan) := by
  intro plan session
  have hDistinct : plan.Distinct :=
    Plan.distinct_ofForm hAudit delays
  have hUnstuck : Unstuck plan session :=
    Unstuck.sessionAfter plan moments
  have hLocks : session.LocksChoices plan :=
    Session.LocksChoices.sessionAfter plan moments
  refine ⟨hLocks, Session.leaves_of_locked hUnstuck hLocks, ?_, ?_⟩
  · intro now event origin destination hMoved
    have hStep := session.step_handle plan now event
    rw [hMoved] at hStep
    rcases
        hStep.course hUnstuck.placed
          (hDistinct.choiceStands moments) with
      ⟨_, hDestination, hCourse⟩
    rw [hDestination]
    exact hCourse.leaves
  · intro place prompt hPrompt hChoice hShowing
    rcases hShowing.unlocked with ⟨hHere, hUnlocked⟩
    refine ⟨hHere, ?_, ?_⟩
    · subst hHere
      exact
        Session.offering_of_unlocked hUnstuck.placed hPrompt
          hChoice hUnlocked
    · intro later hNotShown last
      have hPlaced : last.Placed plan :=
        (hUnstuck.after later).placed
      have hChosen :
          ChosenSince place prompt.id
            (session.answers.get? prompt.id) session [] :=
        .nothing hUnlocked rfl
      have hLast :=
        hChosen.after hDistinct hPrompt hChoice later hNotShown
      exact hLast.offering_or_refuses hPlaced hPrompt hChoice

/- A size is chosen, and then another one at once. -/
def sizeChosenTwice : List Moment :=
  momentsAt ⟨0, 0⟩ [.select "30", .choose "10"]

/- Only the first one is recorded. -/
theorem sizeChosenTwice_recorded :
    Form.small.audit = .ok [] ∧
      Plan.small.Showing 2 nameEntered ∧
      (Plan.small.sessionAfter nameEntered).recorded Plan.small 2
        sizeChosenTwice = ["30"] ∧
      ((Plan.small.sessionAfter nameEntered).after Plan.small
        sizeChosenTwice).answers.get? "size" = some "30" ∧
      ((Plan.small.sessionAfter nameEntered).after Plan.small
        sizeChosenTwice).RefusesChoice Plan.small := by
  have hShowing : Plan.small.Showing 2 nameEntered := by
    refine
      .inr ⟨momentsAt ⟨0, 0⟩ [.input "Ana"],
        ⟨⟨0, 0⟩, .advance⟩, 1, rfl, ?_⟩
    decide +kernel
  have hOutcomes :
      (Plan.small.sessionAfter nameEntered).outcomes Plan.small
          sizeChosenTwice =
        [.transition (.scheduled 2 450),
          .transition (.ignored .locked)] := by
    decide +kernel
  have hRecorded :
      (Plan.small.sessionAfter nameEntered).recorded Plan.small 2
        sizeChosenTwice = ["30"] := by
    decide +kernel
  have hOnce :=
    (one_option_per_showing Form.audit_small {} nameEntered).2.2.2
  rw [Plan.ofForm_small] at hOnce
  rcases
      (hOnce 2 (Prompt.ofQuestion Form.small.questions[1]) rfl rfl
        hShowing).2.2 sizeChosenTwice (by simp [hOutcomes]) with
    ⟨hNone, _⟩ | ⟨value, hValue, hAnswer, hRefuses⟩
  · simp [hRecorded] at hNone
  · rw [hRecorded] at hValue
    have hSame : "30" = value := by simpa using hValue
    rw [← hSame] at hAnswer
    exact
      ⟨Form.audit_small, hShowing, hRecorded, hAnswer,
        hRefuses (by decide +kernel)⟩

end Questionnaire
