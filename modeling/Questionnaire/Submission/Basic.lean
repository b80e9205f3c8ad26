import Questionnaire.Json.Print
import Questionnaire.Plan.Basic
import Questionnaire.Qualification
import Questionnaire.Submission.Instant
import Questionnaire.Submission.Url

/-
  Submissions: what is sent, and where, once a session ends.

  Key definitions include:
    * `Status`
    * `Submission`
    * `payloadOf`
    * `Submission.make`
    * `Submission.body`

  The payload has every answer that is not empty.  The status
  and the time take the place of answers with their names.
-/

------------------------------------------------------------
-- Submissions
------------------------------------------------------------

namespace Questionnaire

/- The verdict that is sent. -/
inductive Status where
  | qualified
  | disqualified
  deriving DecidableEq, Repr

namespace Status

/- The status of a verdict. -/
def ofVerdict
    (qualified : Bool) : Status :=
  if qualified then .qualified else .disqualified

/- The name of a status in the payload. -/
def name : Status → String
  | .qualified => "qualificado"
  | .disqualified => "desqualificado"

end Status

/- The target for a status. -/
def Targets.forStatus
    (targets : Targets) : Status → Target
  | .qualified => targets.qualified
  | .disqualified => targets.disqualified

/-
  What is done once a session ends.  A target that is no
  absolute address is left out.
-/
structure Submission where
  status : Status
  webhook : Option String
  redirect : Option String
  submittedAt : Instant
  payload : Table String
  deriving DecidableEq

/- The answers that are not empty, the status and the time. -/
def payloadOf
    (status : Status)
    (answers : Answers)
    (now : Instant) : Table String :=
  ((answers.filter (fun value => !value.isEmpty)).insert
    "status" status.name).insert "submittedAt" now.text

namespace Submission

/- The submission of some answers. -/
def make
    (status : Status)
    (targets : Targets)
    (answers : Answers)
    (now : Instant) : Submission :=
  let target := targets.forStatus status
  { status := status
    webhook := Url.usable? target.webhook
    redirect := Url.usable? target.redirect
    submittedAt := now
    payload := payloadOf status answers now }

/- The payload as a JSON value. -/
def payloadJson
    (submission : Submission) : Json :=
  .object
    (submission.payload.rows.map
      (fun (id, text) => (id, .string text)))

/- The text that is sent to the webhook. -/
def body
    (submission : Submission) : String :=
  submission.payloadJson.compact

end Submission

end Questionnaire
