import Questionnaire.Session.Basic

/-
  Walking a session straight through a plan with given answers.

  Key definitions include:
    * `WalkError`
    * `Report`
    * `walkStep`
    * `walkQuestions`
    * `Plan.walk`

  Each question is answered once, in order; then the answers
  are confirmed, and those who qualify are asked to commit.
-/

------------------------------------------------------------
-- Outcomes of a Walk
------------------------------------------------------------

namespace Questionnaire

/- Why a walk did not reach its end. -/
inductive WalkError where
  | invalid (questionId : String) (answer : String)
  | unknownOption (questionId : String) (answer : String)
  | stuckAtQuestion (questionId : String) (transition : Transition)
  | stuckAtReview (transition : Transition)
  | notSubmitted (transition : Transition)
  deriving DecidableEq

/- How a walk ended. -/
structure Report where
  qualified : Bool
  finalStep : Nat
  submission : Submission
  deriving DecidableEq

/- The name of a reason to ignore an event. -/
def Refusal.name : Refusal → String
  | .invalid => "Invalid"
  | .locked => "Locked"
  | .unavailable => "Unavailable"
  | .unknownOption => "UnknownOption"
  | .finished => "Finished"

/- A transition in the words of a message. -/
def Transition.text : Transition → String
  | .moved origin destination =>
      "Moved \x7b from: " ++ toString origin ++ ", to: "
        ++ toString destination ++ " \x7d"
  | .scheduled step delay =>
      "Scheduled \x7b step: " ++ toString step ++ ", delay_ms: "
        ++ toString delay ++ " \x7d"
  | .submitted _ => "Submitted"
  | .ignored refusal => "Ignored(" ++ refusal.name ++ ")"

/- The message for a walk that did not reach its end. -/
def WalkError.message : WalkError → String
  | .invalid questionId answer =>
      "answer for '" ++ questionId ++ "' is invalid: '"
        ++ answer ++ "'"
  | .unknownOption questionId answer =>
      "answer for '" ++ questionId ++ "' is not one of its options: '"
        ++ answer ++ "'"
  | .stuckAtQuestion questionId transition =>
      "question '" ++ questionId ++ "' did not advance: "
        ++ transition.text
  | .stuckAtReview transition =>
      "review did not advance: " ++ transition.text
  | .notSubmitted transition =>
      "funnel did not submit: " ++ transition.text

end Questionnaire

------------------------------------------------------------
-- The Walk
------------------------------------------------------------

namespace Questionnaire

/- Answer the question on screen and go on. -/
def walkStep
    (plan : Plan)
    (now : Instant)
    (prompt : Prompt)
    (answer : String)
    (session : Session) : Session × Transition :=
  if prompt.kind.isChoice then
    session.choose plan answer
  else
    (session.input plan answer).1.advance plan now

/-
  Answer the questions that come up, as long as rounds are
  left.  A plan needs one round for each of its questions.
-/
def walkQuestions
    (plan : Plan)
    (now : Instant)
    (given : Answers) : Nat → Session → Except WalkError Session
  | 0, session => .ok session
  | rounds + 1, session =>
      match session.screen plan with
      | .question prompt =>
          let answer := (given.get? prompt.id).getD ""
          match walkStep plan now prompt answer session with
          | (next, .moved _ _) =>
              walkQuestions plan now given rounds next
          | (_, .ignored .invalid) =>
              .error (.invalid prompt.id answer)
          | (_, .ignored .unknownOption) =>
              .error (.unknownOption prompt.id answer)
          | (_, transition) =>
              .error (.stuckAtQuestion prompt.id transition)
      | _ => .ok session

/- Confirm the answers, and commit or decline if asked to. -/
def walkEnd
    (plan : Plan)
    (now : Instant)
    (decline : Bool)
    (session : Session) : Except WalkError (Session × Transition) :=
  if session.qualified then
    match session.confirm plan now with
    | (next, .moved _ _) => .ok (next.commit plan now (!decline))
    | (_, transition) => .error (.stuckAtReview transition)
  else
    .ok (session.confirm plan now)

/- Walk through a plan with the given answers. -/
def Plan.walk
    (plan : Plan)
    (now : Instant)
    (given : Answers)
    (decline : Bool) : Except WalkError Report := do
  let session ←
    walkQuestions plan now given plan.prompts.length
      (Session.start plan)
  match ← walkEnd plan now decline session with
  | (last, .submitted submission) =>
      return ⟨session.qualified, last.step, submission⟩
  | (_, transition) => throw (.notSubmitted transition)

end Questionnaire

------------------------------------------------------------
-- Reports in JSON
------------------------------------------------------------

namespace Questionnaire

/- A text, or nothing. -/
def Json.ofOption : Option String → Json
  | some text => .string text
  | none => .null

/- The JSON value of a report. -/
def Report.toJson
    (report : Report) : Json :=
  .object [
    ("qualified", .bool report.qualified),
    ("status", .string report.submission.status.name),
    ("finalStep", .number (.integer report.finalStep)),
    ("webhook", .ofOption report.submission.webhook),
    ("redirect", .ofOption report.submission.redirect),
    ("payload", report.submission.payloadJson)]

end Questionnaire
