import Questionnaire.Entry.Validator
import Questionnaire.Submission.Basic

/-
  Sessions: one respondent's way through a plan.

  Key definitions include:
    * `Session`
    * `Screen`
    * `Transition`
    * `Session.start`
    * `Event`
    * `Session.handle`

  A session stands at a step and changes by events only.  An
  event that has no place there is ignored, with the reason.
-/

------------------------------------------------------------
-- Sessions and Screens
------------------------------------------------------------

namespace Questionnaire

/-
  Where a respondent stands.  A step that was chosen at is
  locked until it is shown again, and `pending` is the step that
  a running delay will leave.
-/
structure Session where
  step : Nat := 1
  answers : Answers := .empty
  qualified : Bool := true
  editing : Bool := false
  finished : Bool := false
  locked : List Nat := []
  pending : Option Nat := none
  deriving DecidableEq

/- What is on screen. -/
inductive Screen where
  | question (prompt : Prompt)
  | review
  | commitment
  deriving DecidableEq, Repr

/- Why an event was ignored. -/
inductive Refusal where
  | invalid
  | locked
  | unavailable
  | unknownOption
  | finished
  deriving DecidableEq, Repr

/- What an event led to. -/
inductive Transition where
  | moved (origin : Nat) (destination : Nat)
  | scheduled (step : Nat) (delay : Nat)
  | submitted (submission : Submission)
  | ignored (refusal : Refusal)
  deriving DecidableEq

/- A line of the review: an answer and the step that edits it. -/
structure ReviewLine where
  step : Nat
  questionId : String
  label : String
  value : String
  deriving DecidableEq, Repr

namespace Session

/- The screen at a session's step. -/
def screen
    (plan : Plan)
    (session : Session) : Screen :=
  match plan.promptAt? session.step with
  | some prompt => .question prompt
  | none =>
      if session.step = plan.stepOfReview then
        .review
      else
        .commitment

/- The answer to a question. -/
def answer?
    (session : Session)
    (questionId : String) : Option String :=
  session.answers.get? questionId

/- The answers that are not empty, in the order of the questions. -/
def reviewLines
    (plan : Plan)
    (session : Session) : List ReviewLine :=
  plan.prompts.zipIdx.filterMap (fun (prompt, index) =>
    match session.answer? prompt.id with
    | none => none
    | some value =>
        if value.isEmpty then
          none
        else
          some ⟨index + 1, prompt.id, prompt.label, value⟩)

/-
  How far a session is, in percent of the plan's steps.  A plan
  may name any number of steps, also none.
-/
def progress
    (plan : Plan)
    (session : Session) : Nat :=
  let done := (Magnitude.nearest (session.step - 1)).toFloat
  let total := (Magnitude.nearest plan.totalSteps).toFloat
  (done / total * 100.0).round.toUInt32.toNat

end Session

end Questionnaire

------------------------------------------------------------
-- Moving
------------------------------------------------------------

namespace Questionnaire

namespace Session

/- Go to a step, which can then be chosen at again. -/
def goTo
    (step : Nat)
    (session : Session) : Session × Transition :=
  ({ session with
      step := step
      locked := session.locked.filter (fun other => other != step) },
    .moved session.step step)

/- Reach the verdict and go to the review. -/
def goToReview
    (plan : Plan)
    (session : Session) : Session × Transition :=
  { session with
    qualified := plan.criteria.qualifies session.answers }.goTo
      plan.stepOfReview

/- Leave a question, to the next one or to the review. -/
def complete
    (plan : Plan)
    (session : Session) : Session × Transition :=
  if session.editing || plan.prompts.length ≤ session.step then
    { session with editing := false }.goToReview plan
  else
    session.goTo (session.step + 1)

/- End with a status. -/
def submit
    (plan : Plan)
    (now : Instant)
    (status : Status)
    (session : Session) : Session × Transition :=
  ({ session with finished := true },
    .submitted (.make status plan.targets session.answers now))

/- The session before its first event. -/
def start
    (plan : Plan) : Session :=
  if plan.prompts.isEmpty then
    (({} : Session).goToReview plan).1
  else
    {}

end Session

end Questionnaire

------------------------------------------------------------
-- Events
------------------------------------------------------------

namespace Questionnaire

namespace Session

/- Ignore an event. -/
def ignore
    (session : Session)
    (refusal : Refusal) : Session × Transition :=
  (session, .ignored refusal)

/- Type into the field on screen, if there is one. -/
def input
    (plan : Plan)
    (raw : String)
    (session : Session) : Session × Option Entry :=
  if session.finished then
    (session, none)
  else
    match session.screen plan with
    | .question prompt =>
        match Validator.ofKind? prompt.kind with
        | none => (session, none)
        | some validator =>
            let entry := validator.judge raw prompt.required
            ({ session with
                answers :=
                  session.answers.insert prompt.id entry.value },
              some entry)
    | _ => (session, none)

/- Leave the review: commit, or end when disqualified. -/
def confirm
    (plan : Plan)
    (now : Instant)
    (session : Session) : Session × Transition :=
  if session.finished then
    session.ignore .finished
  else if session.screen plan ≠ .review then
    session.ignore .unavailable
  else if session.qualified then
    session.goTo plan.stepOfCommitment
  else
    session.submit plan now .disqualified

/- Go on from a field whose answer will do, or from the review. -/
def advance
    (plan : Plan)
    (now : Instant)
    (session : Session) : Session × Transition :=
  if session.finished then
    session.ignore .finished
  else
    match session.screen plan with
    | .question prompt =>
        match Validator.ofKind? prompt.kind with
        | none => session.ignore .unavailable
        | some validator =>
            let current := (session.answer? prompt.id).getD ""
            if (validator.judge current prompt.required).valid then
              session.complete plan
            else
              session.ignore .invalid
    | .review => session.confirm plan now
    | .commitment => session.ignore .unavailable

/- Choose an option and let the delay begin. -/
def select
    (plan : Plan)
    (value : String)
    (session : Session) : Session × Transition :=
  if session.finished then
    session.ignore .finished
  else
    match session.screen plan with
    | .question prompt =>
        if !prompt.kind.isChoice then
          session.ignore .unavailable
        else if session.locked.contains session.step then
          session.ignore .locked
        else if !prompt.options.contains value then
          session.ignore .unknownOption
        else
          ({ session with
              locked := session.step :: session.locked
              answers := session.answers.insert prompt.id value
              pending := some session.step },
            .scheduled session.step plan.delays.afterChoice)
    | _ => session.ignore .unavailable

/- The delay is over.  Only the step that began it is left. -/
def elapse
    (plan : Plan)
    (session : Session) : Session × Transition :=
  match session.pending with
  | none => session.ignore .unavailable
  | some step =>
      let session := { session with pending := none }
      if session.finished then
        session.ignore .finished
      else if step ≠ session.step then
        session.ignore .unavailable
      else
        session.complete plan

/- Choose an option and let the delay pass. -/
def choose
    (plan : Plan)
    (value : String)
    (session : Session) : Session × Transition :=
  match session.select plan value with
  | (session, .scheduled _ _) => session.elapse plan
  | other => other

/- Go back one step. -/
def back
    (session : Session) : Session × Transition :=
  if session.finished then
    session.ignore .finished
  else if session.step ≤ 1 then
    session.ignore .unavailable
  else
    session.goTo (session.step - 1)

/- Go from the review to a question, to return when it is left. -/
def edit
    (plan : Plan)
    (step : Nat)
    (session : Session) : Session × Transition :=
  if session.finished then
    session.ignore .finished
  else if session.screen plan ≠ .review
      || (plan.promptAt? step).isNone then
    session.ignore .unavailable
  else
    { session with editing := true }.goTo step

/- Answer the commitment; either answer ends the session. -/
def commit
    (plan : Plan)
    (now : Instant)
    (confirmed : Bool)
    (session : Session) : Session × Transition :=
  if session.finished then
    session.ignore .finished
  else if session.screen plan ≠ .commitment then
    session.ignore .unavailable
  else
    session.submit plan now (.ofVerdict confirmed)

end Session

/- What a respondent, or the clock, can do. -/
inductive Event where
  | input (raw : String)
  | advance
  | select (value : String)
  | timer
  | choose (value : String)
  | back
  | edit (step : Nat)
  | confirm
  | commit (confirmed : Bool)
  deriving DecidableEq, Repr

/- What an event gives back. -/
inductive Outcome where
  | entry (entry : Option Entry)
  | transition (transition : Transition)
  deriving DecidableEq

/- The session after an event, and what the event gives back. -/
def Session.handle
    (plan : Plan)
    (now : Instant)
    (session : Session)
    (event : Event) : Session × Outcome :=
  match event with
  | .input raw =>
      let (session, entry) := session.input plan raw
      (session, .entry entry)
  | .advance => moving (session.advance plan now)
  | .select value => moving (session.select plan value)
  | .timer => moving (session.elapse plan)
  | .choose value => moving (session.choose plan value)
  | .back => moving session.back
  | .edit step => moving (session.edit plan step)
  | .confirm => moving (session.confirm plan now)
  | .commit confirmed => moving (session.commit plan now confirmed)
where
  moving : Session × Transition → Session × Outcome
    | (session, transition) => (session, .transition transition)

end Questionnaire
