import Questionnaire.Session.Basic

/-
  What one event can do to a session.

  Key definitions include:
    * `Session.record`
    * `Session.pick`
    * `Session.undelayed`
    * `Session.reviewed`
    * `Session.Ready`
    * `Session.Step`

  `Session.step_handle` lists all that an event can lead to,
  with what has to hold for it.
-/

------------------------------------------------------------
-- Prompts and Screens
------------------------------------------------------------

namespace Questionnaire

namespace Plan

variable {plan : Plan}
variable {step : Nat}
variable {prompt : Prompt}

/- A step asks the question that is one place earlier. -/
theorem promptAt?_eq_some_iff :
    plan.promptAt? step = some prompt ↔
      0 < step ∧ plan.prompts[step - 1]? = some prompt := by
  cases step with
  | zero => simp [promptAt?]
  | succ index => simp [promptAt?]

/- The steps that ask come after zero and before the review. -/
theorem step_of_promptAt?
    (hPrompt : plan.promptAt? step = some prompt) :
    0 < step ∧ step ≤ plan.prompts.length := by
  rcases promptAt?_eq_some_iff.mp hPrompt with ⟨hPos, hGet⟩
  have hLt := (List.getElem?_eq_some_iff.mp hGet).1
  omega

/- Every question is asked at some step. -/
theorem exists_promptAt?_of_mem
    (hMem : prompt ∈ plan.prompts) :
    ∃ step, plan.promptAt? step = some prompt := by
  rcases List.mem_iff_getElem?.mp hMem with ⟨index, hGet⟩
  exact ⟨index + 1, hGet⟩

/- Each step up to the last question asks something. -/
theorem exists_promptAt?
    (hPos : 0 < step)
    (hLe : step ≤ plan.prompts.length) :
    ∃ prompt, plan.promptAt? step = some prompt := by
  have hLt : step - 1 < plan.prompts.length := by
    omega
  exact
    ⟨plan.prompts[step - 1],
      promptAt?_eq_some_iff.mpr
        ⟨hPos, List.getElem?_eq_getElem hLt⟩⟩

end Plan

namespace Session

variable {plan : Plan}
variable {session : Session}
variable {prompt : Prompt}

/- A question is on screen at its step. -/
theorem screen_eq_question_iff :
    session.screen plan = .question prompt ↔
      plan.promptAt? session.step = some prompt := by
  unfold screen
  cases plan.promptAt? session.step with
  | some other => simp
  | none =>
      by_cases hReview : session.step = plan.stepOfReview
      · simp [hReview]
      · simp [hReview]

/- The review is on screen at its step. -/
theorem screen_eq_review_iff :
    session.screen plan = .review ↔
      session.step = plan.stepOfReview := by
  unfold screen
  cases hPrompt : plan.promptAt? session.step with
  | some prompt =>
      have hStep := Plan.step_of_promptAt? hPrompt
      have hNe : session.step ≠ plan.stepOfReview := by
        unfold Plan.stepOfReview
        omega
      simp [hNe]
  | none =>
      by_cases hReview : session.step = plan.stepOfReview
      · simp [hReview]
      · simp [hReview]

/- The commitment is on screen where nothing else is. -/
theorem screen_eq_commitment_iff :
    session.screen plan = .commitment ↔
      session.step = 0 ∨ plan.stepOfReview < session.step := by
  unfold screen
  cases hPrompt : plan.promptAt? session.step with
  | some prompt =>
      have hStep := Plan.step_of_promptAt? hPrompt
      have hNot :
          ¬ (session.step = 0 ∨
            plan.stepOfReview < session.step) := by
        unfold Plan.stepOfReview
        omega
      simp [hNot]
  | none =>
      have hSides :
          session.step = 0 ∨
            plan.prompts.length < session.step := by
        refine Decidable.byContradiction (fun hBetween => ?_)
        have hPos : 0 < session.step := by
          omega
        have hLe : session.step ≤ plan.prompts.length := by
          omega
        rcases Plan.exists_promptAt? hPos hLe with ⟨prompt, hSome⟩
        simp [hPrompt] at hSome
      by_cases hReview : session.step = plan.stepOfReview
      · have hPos : plan.stepOfReview ≠ 0 :=
          Nat.succ_ne_zero _
        simp [hReview, hPos]
      · have hLt :
            session.step = 0 ∨
              plan.stepOfReview < session.step := by
          unfold Plan.stepOfReview at hReview ⊢
          omega
        simp [hReview, hLt]

end Session

end Questionnaire

------------------------------------------------------------
-- Steps of a Session
------------------------------------------------------------

namespace Questionnaire

namespace Session

/- A session with an answer put down. -/
def record
    (session : Session)
    (id : String)
    (value : String) : Session :=
  { session with answers := session.answers.insert id value }

/- A session in which an option was just chosen. -/
def pick
    (session : Session)
    (prompt : Prompt)
    (value : String) : Session :=
  { session with
    locked := session.step :: session.locked
    answers := session.answers.insert prompt.id value
    pending := some session.step }

/- A session without a running delay. -/
def undelayed
    (session : Session) : Session :=
  { session with pending := none }

/- A session that has ended. -/
def ended
    (session : Session) : Session :=
  { session with finished := true }

/- A session that goes to a question to return when it is left. -/
def reopened
    (session : Session) : Session :=
  { session with editing := true }

@[simp] theorem goTo_step
    (step : Nat)
    (session : Session) :
    (session.goTo step).1.step = step := rfl

@[simp] theorem goTo_answers
    (step : Nat)
    (session : Session) :
    (session.goTo step).1.answers = session.answers := rfl

@[simp] theorem goTo_qualified
    (step : Nat)
    (session : Session) :
    (session.goTo step).1.qualified =
      session.qualified := rfl

@[simp] theorem goTo_editing
    (step : Nat)
    (session : Session) :
    (session.goTo step).1.editing = session.editing := rfl

@[simp] theorem goTo_finished
    (step : Nat)
    (session : Session) :
    (session.goTo step).1.finished = session.finished := rfl

@[simp] theorem goTo_pending
    (step : Nat)
    (session : Session) :
    (session.goTo step).1.pending = session.pending := rfl

@[simp] theorem goTo_transition
    (step : Nat)
    (session : Session) :
    (session.goTo step).2 =
      .moved session.step step := rfl

/- The step gone to is the only one that is unlocked. -/
@[simp] theorem mem_goTo_locked
    (step other : Nat)
    (session : Session) :
    other ∈ (session.goTo step).1.locked ↔
      other ∈ session.locked ∧ other ≠ step := by
  simp [goTo]

/- A session that returns to the review, with its verdict. -/
def reviewed
    (plan : Plan)
    (session : Session) : Session :=
  { session with
    editing := false
    qualified := plan.criteria.qualifies session.answers }

/-
  Completing a question leads back to the review, or on to the
  next question.
-/
theorem complete_cases
    (plan : Plan)
    (session : Session) :
    ((session.editing = true ∨
        plan.prompts.length ≤ session.step) ∧
      session.complete plan =
        (session.reviewed plan).goTo plan.stepOfReview) ∨
    ((session.editing = false ∧
        session.step < plan.prompts.length) ∧
      session.complete plan =
        session.goTo (session.step + 1)) := by
  cases hEditing : session.editing with
  | true =>
      refine .inl ⟨.inl rfl, ?_⟩
      simp [complete, hEditing, goToReview, reviewed]
  | false =>
      by_cases hLast : plan.prompts.length ≤ session.step
      · refine .inl ⟨.inr hLast, ?_⟩
        simp [complete, hLast, goToReview, reviewed]
      · refine .inr ⟨⟨rfl, Nat.lt_of_not_le hLast⟩, ?_⟩
        simp [complete, hEditing, hLast]

/- Completing a question changes no answer. -/
@[simp] theorem complete_answers
    (plan : Plan)
    (session : Session) :
    (session.complete plan).1.answers = session.answers := by
  rcases session.complete_cases plan with
    ⟨_, hComplete⟩ | ⟨_, hComplete⟩
  · rw [hComplete]
    rfl
  · rw [hComplete]
    rfl

/- Completing a question moves to where it leads. -/
theorem complete_moved
    (plan : Plan)
    (session : Session) :
    (session.complete plan).2 =
      .moved session.step (session.complete plan).1.step := by
  rcases session.complete_cases plan with
    ⟨_, hComplete⟩ | ⟨_, hComplete⟩
  · rw [hComplete]
    rfl
  · rw [hComplete]
    rfl

theorem complete_transition
    (plan : Plan)
    (session : Session) :
    ∃ destination,
      (session.complete plan).2 =
        .moved session.step destination :=
  ⟨_, session.complete_moved plan⟩

/- Completing a question leaves a running delay alone. -/
@[simp] theorem complete_pending
    (plan : Plan)
    (session : Session) :
    (session.complete plan).1.pending = session.pending := by
  rcases session.complete_cases plan with
    ⟨_, hComplete⟩ | ⟨_, hComplete⟩
  · rw [hComplete]
    rfl
  · rw [hComplete]
    rfl

/- A plan that asks something is begun at its first question. -/
theorem start_eq_of_promptAt?
    {plan : Plan}
    {step : Nat}
    {prompt : Prompt}
    (hPrompt : plan.promptAt? step = some prompt) :
    Session.start plan = {} := by
  rcases Plan.step_of_promptAt? hPrompt with ⟨hPos, hLe⟩
  unfold Session.start
  cases hPrompts : plan.prompts with
  | nil =>
      rw [hPrompts, List.length_nil] at hLe
      omega
  | cons => rfl

/- Nothing has been answered, edited or chosen at the start. -/
@[simp] theorem start_answers
    (plan : Plan) :
    (Session.start plan).answers = .empty := by
  unfold Session.start
  split
  · rfl
  · rfl

@[simp] theorem start_editing
    (plan : Plan) :
    (Session.start plan).editing = false := by
  unfold Session.start
  split
  · rfl
  · rfl

@[simp] theorem start_pending
    (plan : Plan) :
    (Session.start plan).pending = none := by
  unfold Session.start
  split
  · rfl
  · rfl

@[simp] theorem start_finished
    (plan : Plan) :
    (Session.start plan).finished = false := by
  unfold Session.start
  split
  · rfl
  · rfl

@[simp] theorem start_locked
    (plan : Plan) :
    (Session.start plan).locked = [] := by
  unfold Session.start
  split
  · rfl
  · rfl

/- Every session starts at the first step. -/
theorem start_step
    (plan : Plan) :
    (Session.start plan).step = 1 := by
  unfold Session.start
  cases hPrompts : plan.prompts with
  | nil => simp [goToReview, Plan.stepOfReview, hPrompts]
  | cons prompt prompts => rfl

/- The option can be chosen at the question on screen. -/
structure Offers
    (plan : Plan)
    (session : Session)
    (prompt : Prompt)
    (value : String) : Prop where
  asked : plan.promptAt? session.step = some prompt
  choice : prompt.kind.isChoice = true
  unlocked : session.step ∉ session.locked
  offered : value ∈ prompt.options

/-
  The event completes the question on screen, and the session
  is left as `ready` before it goes on.
-/
inductive Ready
    (plan : Plan)
    (session : Session) : Event → Session → Prop where
  | advanced
      {prompt : Prompt}
      {validator : Validator}
      (asked : plan.promptAt? session.step = some prompt)
      (judged : Validator.ofKind? prompt.kind = some validator)
      (valid :
        (validator.judge
          ((session.answers.get? prompt.id).getD "")
          prompt.required).valid = true) :
      Ready plan session .advance session
  | elapsed
      (pending : session.pending = some session.step) :
      Ready plan session .timer session.undelayed
  | chosen
      {prompt : Prompt}
      {value : String}
      (offers : session.Offers plan prompt value) :
      Ready plan session (.choose value)
        (session.pick prompt value).undelayed

/- What is ready to go on stands where the session stood. -/
theorem Ready.place
    {plan : Plan}
    {session ready : Session}
    {event : Event}
    (hReady : session.Ready plan event ready) :
    ready.step = session.step ∧
      ready.editing = session.editing ∧
        ready.finished = session.finished ∧
          (ready.pending = session.pending ∨
            ready.pending = none) := by
  cases hReady with
  | advanced => exact ⟨rfl, rfl, rfl, .inl rfl⟩
  | elapsed => exact ⟨rfl, rfl, rfl, .inr rfl⟩
  | chosen => exact ⟨rfl, rfl, rfl, .inr rfl⟩

/- What an event can lead to, and what it gives back then. -/
inductive Step
    (plan : Plan)
    (now : Instant)
    (session : Session) : Event → Session → Outcome → Prop where
  | refused
      (event : Event)
      (refusal : Refusal)
      (idle : event = .timer → session.pending = none) :
      Step plan now session event session
        (.transition (.ignored refusal))
  | untyped
      (raw : String) :
      Step plan now session (.input raw) session (.entry none)
  | typed
      {raw : String}
      {prompt : Prompt}
      {validator : Validator}
      (unfinished : session.finished = false)
      (asked : plan.promptAt? session.step = some prompt)
      (judged : Validator.ofKind? prompt.kind = some validator) :
      Step plan now session (.input raw)
        (session.record prompt.id
          (validator.judge raw prompt.required).value)
        (.entry (some (validator.judge raw prompt.required)))
  | picked
      {prompt : Prompt}
      {value : String}
      (unfinished : session.finished = false)
      (offers : session.Offers plan prompt value) :
      Step plan now session (.select value)
        (session.pick prompt value)
        (.transition
          (.scheduled session.step plan.delays.afterChoice))
  | dropped
      {step : Nat}
      {refusal : Refusal}
      (pending : session.pending = some step)
      (gone : session.finished = true ∨ step ≠ session.step) :
      Step plan now session .timer session.undelayed
        (.transition (.ignored refusal))
  | completed
      {event : Event}
      {ready : Session}
      (unfinished : session.finished = false)
      (isReady : session.Ready plan event ready) :
      Step plan now session event (ready.complete plan).1
        (.transition (ready.complete plan).2)
  | wentBack
      (unfinished : session.finished = false)
      (later : 1 < session.step) :
      Step plan now session .back
        (session.goTo (session.step - 1)).1
        (.transition (.moved session.step (session.step - 1)))
  | edited
      {step : Nat}
      {prompt : Prompt}
      (unfinished : session.finished = false)
      (atReview : session.step = plan.stepOfReview)
      (asked : plan.promptAt? step = some prompt) :
      Step plan now session (.edit step)
        (session.reopened.goTo step).1
        (.transition (.moved session.step step))
  | passed
      {event : Event}
      (confirming : event = .confirm ∨ event = .advance)
      (unfinished : session.finished = false)
      (atReview : session.step = plan.stepOfReview)
      (qualified : session.qualified = true) :
      Step plan now session event
        (session.goTo plan.stepOfCommitment).1
        (.transition
          (.moved session.step plan.stepOfCommitment))
  | failed
      {event : Event}
      (confirming : event = .confirm ∨ event = .advance)
      (unfinished : session.finished = false)
      (atReview : session.step = plan.stepOfReview)
      (disqualified : session.qualified = false) :
      Step plan now session event session.ended
        (.transition
          (.submitted
            (.make .disqualified plan.targets
              session.answers now)))
  | committed
      {confirmed : Bool}
      (unfinished : session.finished = false)
      (atCommitment : session.screen plan = .commitment) :
      Step plan now session (.commit confirmed) session.ended
        (.transition
          (.submitted
            (.make (.ofVerdict confirmed) plan.targets
              session.answers now)))

end Session

end Questionnaire

------------------------------------------------------------
-- All Steps
------------------------------------------------------------

namespace Questionnaire

namespace Session

variable {plan : Plan}
variable {now : Instant}
variable {session : Session}

/- An ignored event that is not the clock is a refusal. -/
theorem step_of_ignore
    {event : Event}
    {result : Session × Transition}
    (refusal : Refusal)
    (hTimer : event ≠ .timer)
    (hResult : result = session.ignore refusal) :
    Step plan now session event
      result.1 (.transition result.2) := by
  rw [hResult]
  exact .refused event refusal (fun hEq => absurd hEq hTimer)

/- Typing is put down where a field is on screen. -/
theorem step_input
    (raw : String) :
    Step plan now session (.input raw)
      (session.input plan raw).1
      (.entry (session.input plan raw).2) := by
  cases hFinished : session.finished with
  | true =>
      have hInput :
          session.input plan raw = (session, none) := by
        simp [input, hFinished]
      rw [hInput]
      exact .untyped raw
  | false =>
      cases hScreen : session.screen plan with
      | question prompt =>
          cases hValidator : Validator.ofKind? prompt.kind with
          | none =>
              have hInput :
                  session.input plan raw =
                    (session, none) := by
                simp [input, hFinished, hScreen, hValidator]
              rw [hInput]
              exact .untyped raw
          | some validator =>
              have hInput :
                  session.input plan raw =
                    (session.record prompt.id
                        (validator.judge raw
                          prompt.required).value,
                      some (validator.judge raw
                        prompt.required)) := by
                simp [input, hFinished, hScreen, hValidator,
                  record]
              rw [hInput]
              exact .typed hFinished
                (screen_eq_question_iff.mp hScreen) hValidator
      | review =>
          have hInput :
              session.input plan raw = (session, none) := by
            simp [input, hFinished, hScreen]
          rw [hInput]
          exact .untyped raw
      | commitment =>
          have hInput :
              session.input plan raw = (session, none) := by
            simp [input, hFinished, hScreen]
          rw [hInput]
          exact .untyped raw

/- The review is left as its verdict says. -/
theorem step_confirm
    {event : Event}
    (hEvent : event = .confirm ∨ event = .advance) :
    Step plan now session event
      (session.confirm plan now).1
      (.transition (session.confirm plan now).2) := by
  have hTimer : event ≠ .timer := by
    rcases hEvent with h | h
    · simp [h]
    · simp [h]
  cases hFinished : session.finished with
  | true =>
      apply step_of_ignore .finished hTimer
      simp [confirm, hFinished]
  | false =>
      by_cases hReview : session.screen plan = .review
      · have hStep := screen_eq_review_iff.mp hReview
        cases hQualified : session.qualified with
        | true =>
            have hConfirm :
                session.confirm plan now =
                  session.goTo plan.stepOfCommitment := by
              simp [confirm, hFinished, hReview, hQualified]
            rw [hConfirm]
            exact .passed hEvent hFinished hStep hQualified
        | false =>
            have hConfirm :
                session.confirm plan now =
                  session.submit plan now .disqualified := by
              simp [confirm, hFinished, hReview, hQualified]
            rw [hConfirm]
            exact .failed hEvent hFinished hStep hQualified
      · apply step_of_ignore .unavailable hTimer
        simp [confirm, hFinished, hReview]

/- Going on completes a valid field, or leaves the review. -/
theorem step_advance :
    Step plan now session .advance
      (session.advance plan now).1
      (.transition (session.advance plan now).2) := by
  cases hFinished : session.finished with
  | true =>
      refine step_of_ignore .finished (by simp) ?_
      simp [advance, hFinished]
  | false =>
      cases hScreen : session.screen plan with
      | question prompt =>
          have hAsked := screen_eq_question_iff.mp hScreen
          cases hValidator : Validator.ofKind? prompt.kind with
          | none =>
              refine step_of_ignore .unavailable (by simp) ?_
              simp [advance, hFinished, hScreen, hValidator]
          | some validator =>
              cases hValid :
                  (validator.judge
                    ((session.answers.get? prompt.id).getD "")
                    prompt.required).valid with
              | true =>
                  have hAdvance :
                      session.advance plan now =
                        session.complete plan := by
                    simp [advance, hFinished, hScreen,
                      hValidator, answer?, hValid]
                  rw [hAdvance]
                  exact .completed hFinished
                    (.advanced hAsked hValidator hValid)
              | false =>
                  refine step_of_ignore .invalid (by simp) ?_
                  simp [advance, hFinished, hScreen,
                    hValidator, answer?, hValid]
      | review =>
          have hAdvance :
              session.advance plan now =
                session.confirm plan now := by
            simp [advance, hFinished, hScreen]
          rw [hAdvance]
          exact step_confirm (.inr rfl)
      | commitment =>
          refine step_of_ignore .unavailable (by simp) ?_
          simp [advance, hFinished, hScreen]

/- A choice is refused, or an offered option is chosen. -/
theorem select_cases
    (plan : Plan)
    (session : Session)
    (value : String) :
    (∃ refusal,
      session.select plan value =
        session.ignore refusal) ∨
    (session.finished = false ∧
      ∃ prompt,
        session.Offers plan prompt value ∧
          session.select plan value =
            (session.pick prompt value,
              .scheduled session.step
                plan.delays.afterChoice)) := by
  cases hFinished : session.finished with
  | true =>
      exact .inl ⟨.finished, by simp [select, hFinished]⟩
  | false =>
      cases hScreen : session.screen plan with
      | question prompt =>
          have hAsked := screen_eq_question_iff.mp hScreen
          by_cases hChoice : prompt.kind.isChoice = true
          · by_cases hLocked : session.step ∈ session.locked
            · refine .inl ⟨.locked, ?_⟩
              simp [select, hFinished, hScreen, hChoice,
                hLocked]
            · by_cases hOffered : value ∈ prompt.options
              · refine .inr ⟨rfl, prompt, ?_, ?_⟩
                · exact
                    ⟨hAsked, hChoice, hLocked, hOffered⟩
                · simp [select, hFinished, hScreen, hChoice,
                    hLocked, hOffered, pick]
              · refine .inl ⟨.unknownOption, ?_⟩
                simp [select, hFinished, hScreen, hChoice,
                  hLocked, hOffered]
          · refine .inl ⟨.unavailable, ?_⟩
            simp [select, hFinished, hScreen, hChoice]
      | review =>
          refine .inl ⟨.unavailable, ?_⟩
          simp [select, hFinished, hScreen]
      | commitment =>
          refine .inl ⟨.unavailable, ?_⟩
          simp [select, hFinished, hScreen]

/- Choosing starts a delay, or nothing happens. -/
theorem step_select
    (value : String) :
    Step plan now session (.select value)
      (session.select plan value).1
      (.transition (session.select plan value).2) := by
  rcases select_cases plan session value with
    ⟨refusal, hSelect⟩ |
      ⟨hFinished, prompt, hOffers, hSelect⟩
  · exact step_of_ignore refusal (by simp) hSelect
  · rw [hSelect]
    exact .picked hFinished hOffers

/- A delay completes the question at which it began. -/
theorem step_elapse :
    Step plan now session .timer
      (session.elapse plan).1
      (.transition (session.elapse plan).2) := by
  cases hPending : session.pending with
  | none =>
      have hElapse :
          session.elapse plan =
            session.ignore .unavailable := by
        simp [elapse, hPending]
      rw [hElapse]
      exact .refused .timer .unavailable (fun _ => hPending)
  | some step =>
      cases hFinished : session.finished with
      | true =>
          have hElapse :
              session.elapse plan =
                session.undelayed.ignore .finished := by
            simp [elapse, hPending, hFinished, undelayed]
          rw [hElapse]
          exact .dropped hPending (.inl hFinished)
      | false =>
          by_cases hStep : step = session.step
          · have hElapse :
                session.elapse plan =
                  session.undelayed.complete plan := by
              simp [elapse, hPending, hFinished, hStep,
                undelayed]
            rw [hElapse]
            exact .completed hFinished
              (.elapsed (hStep ▸ hPending))
          · have hElapse :
                session.elapse plan =
                  session.undelayed.ignore .unavailable := by
              simp [elapse, hPending, hFinished, hStep,
                undelayed]
            rw [hElapse]
            exact .dropped hPending (.inr hStep)

/-
  Choosing without a delay is refused as choosing with one is,
  or it completes the question.
-/
theorem choose_cases
    (plan : Plan)
    (session : Session)
    (value : String) :
    (∃ refusal,
      session.select plan value = session.ignore refusal ∧
        session.choose plan value = session.ignore refusal) ∨
    (session.finished = false ∧
      ∃ prompt,
        session.Offers plan prompt value ∧
          session.choose plan value =
            (session.pick prompt value).undelayed.complete
              plan) := by
  rcases select_cases plan session value with
    ⟨refusal, hSelect⟩ |
      ⟨hFinished, prompt, hOffers, hSelect⟩
  · refine .inl ⟨refusal, hSelect, ?_⟩
    simp [choose, hSelect, ignore]
  · refine .inr ⟨hFinished, prompt, hOffers, ?_⟩
    simp [choose, hSelect, elapse, pick, undelayed,
      hFinished]

/- Choosing without a delay completes the question at once. -/
theorem step_choose
    (value : String) :
    Step plan now session (.choose value)
      (session.choose plan value).1
      (.transition (session.choose plan value).2) := by
  rcases choose_cases plan session value with
    ⟨refusal, _, hChoose⟩ |
      ⟨hFinished, prompt, hOffers, hChoose⟩
  · exact step_of_ignore refusal (by simp) hChoose
  · rw [hChoose]
    exact .completed hFinished (.chosen hOffers)

/- Going back leads one step back. -/
theorem step_back :
    Step plan now session .back
      session.back.1
      (.transition session.back.2) := by
  cases hFinished : session.finished with
  | true =>
      refine step_of_ignore .finished (by simp) ?_
      simp [back, hFinished]
  | false =>
      by_cases hFirst : session.step ≤ 1
      · refine step_of_ignore .unavailable (by simp) ?_
        simp [back, hFinished, hFirst]
      · have hBack :
            session.back = session.goTo (session.step - 1) := by
          simp [back, hFinished, hFirst]
        rw [hBack]
        exact .wentBack hFinished (by omega)

/- A question is edited from the review only. -/
theorem step_edit
    (step : Nat) :
    Step plan now session (.edit step)
      (session.edit plan step).1
      (.transition (session.edit plan step).2) := by
  cases hFinished : session.finished with
  | true =>
      refine step_of_ignore .finished (by simp) ?_
      simp [edit, hFinished]
  | false =>
      by_cases hReview : session.screen plan = .review
      · cases hAsked : plan.promptAt? step with
        | none =>
            refine step_of_ignore .unavailable (by simp) ?_
            simp [edit, hFinished, hAsked]
        | some prompt =>
            have hEdit :
                session.edit plan step =
                  session.reopened.goTo step := by
              simp [edit, hFinished, hReview, hAsked,
                reopened]
            rw [hEdit]
            exact .edited hFinished
              (screen_eq_review_iff.mp hReview) hAsked
      · refine step_of_ignore .unavailable (by simp) ?_
        simp [edit, hFinished, hReview]

/- Either answer to the commitment ends the session. -/
theorem step_commit
    (confirmed : Bool) :
    Step plan now session (.commit confirmed)
      (session.commit plan now confirmed).1
      (.transition (session.commit plan now confirmed).2) := by
  cases hFinished : session.finished with
  | true =>
      refine step_of_ignore .finished (by simp) ?_
      simp [commit, hFinished]
  | false =>
      by_cases hScreen : session.screen plan = .commitment
      · have hCommit :
            session.commit plan now confirmed =
              session.submit plan now
                (.ofVerdict confirmed) := by
          simp [commit, hFinished, hScreen]
        rw [hCommit]
        exact .committed hFinished hScreen
      · refine step_of_ignore .unavailable (by simp) ?_
        simp [commit, hFinished, hScreen]

/- Every event leads to what a step lists. -/
theorem step_handle
    (plan : Plan)
    (now : Instant)
    (session : Session)
    (event : Event) :
    Step plan now session event
      (session.handle plan now event).1
      (session.handle plan now event).2 := by
  cases event with
  | input raw => exact step_input raw
  | advance => exact step_advance
  | select value => exact step_select value
  | timer => exact step_elapse
  | choose value => exact step_choose value
  | back => exact step_back
  | edit step => exact step_edit step
  | confirm => exact step_confirm (.inl rfl)
  | commit confirmed => exact step_commit confirmed

end Session

end Questionnaire
