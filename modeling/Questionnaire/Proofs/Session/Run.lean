import Questionnaire.Proofs.Session.Step

/-
  Runs of a session: one event after another.

  Key definitions include:
    * `Moment`
    * `Session.after`
    * `Plan.sessionAfter`

  What every step keeps holds after every run
  (`Session.after_induction`).
-/

------------------------------------------------------------
-- Runs
------------------------------------------------------------

namespace Questionnaire

/- An event and the time at which it comes. -/
structure Moment where
  now : Instant
  event : Event
  deriving DecidableEq

/- Moments at one and the same time. -/
def momentsAt
    (now : Instant)
    (events : List Event) : List Moment :=
  events.map (fun event => ⟨now, event⟩)

namespace Session

/- The session after the events of some moments. -/
def after
    (plan : Plan)
    (session : Session)
    (moments : List Moment) : Session :=
  moments.foldl
    (fun session moment =>
      (session.handle plan moment.now moment.event).1)
    session

end Session

/- The session of a plan after some moments. -/
def Plan.sessionAfter
    (plan : Plan)
    (moments : List Moment) : Session :=
  (Session.start plan).after plan moments

namespace Session

variable {plan : Plan}

@[simp] theorem after_nil
    (session : Session) :
    session.after plan [] = session := rfl

@[simp] theorem after_cons
    (session : Session)
    (moment : Moment)
    (moments : List Moment) :
    session.after plan (moment :: moments) =
      (session.handle plan moment.now moment.event).1.after
        plan moments := rfl

/- A run goes on where its first part ends. -/
theorem after_append
    (session : Session)
    (earlier later : List Moment) :
    session.after plan (earlier ++ later) =
      (session.after plan earlier).after plan later :=
  List.foldl_append

/- A run ends with its last event. -/
theorem after_concat
    (session : Session)
    (earlier : List Moment)
    (moment : Moment) :
    session.after plan (earlier ++ [moment]) =
      ((session.after plan earlier).handle plan
        moment.now moment.event).1 :=
  after_append session earlier [moment]

/- What every step keeps holds after every run. -/
theorem after_induction
    {Keeps : Session → Prop}
    {session : Session}
    (hStart : Keeps session)
    (hStep :
      ∀ {now : Instant} {session next : Session}
        {event : Event} {outcome : Outcome},
        Keeps session →
          Step plan now session event next outcome →
            Keeps next)
    (moments : List Moment) :
    Keeps (session.after plan moments) := by
  induction moments generalizing session with
  | nil => exact hStart
  | cons moment moments ih =>
      have hNext :=
        step_handle plan moment.now session moment.event
      exact ih (hStep hStart hNext)

end Session

/- A run of a plan ends with its last event. -/
theorem Plan.sessionAfter_concat
    (plan : Plan)
    (earlier : List Moment)
    (moment : Moment) :
    plan.sessionAfter (earlier ++ [moment]) =
      ((plan.sessionAfter earlier).handle plan
        moment.now moment.event).1 :=
  Session.after_concat _ earlier moment

end Questionnaire
