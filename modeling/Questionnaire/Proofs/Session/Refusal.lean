import Questionnaire.Proofs.Session.Verdict

/-
  Events of which nothing comes.

  Key definitions include:
    * `Outcome.refused`
    * `Outcome.submission?`
    * `Session.outcomes`

  A refused event leaves a session as it is; only the end of a
  delay is used up (`Session.Step.same_of_refused`).  A session
  that has ended refuses every event
  (`Session.Step.refused_of_finished`), so a submission is the
  last thing that comes of a run.
-/

------------------------------------------------------------
-- Refused Events
------------------------------------------------------------

namespace Questionnaire

/- Nothing comes of the event. -/
def Outcome.refused : Outcome → Bool
  | .entry none => true
  | .transition (.ignored _) => true
  | _ => false

/- What the event submits, if anything. -/
def Outcome.submission? : Outcome → Option Submission
  | .transition (.submitted submission) => some submission
  | _ => none

/- A refused event submits nothing. -/
theorem Outcome.submission?_of_refused
    {outcome : Outcome}
    (hRefused : outcome.refused = true) :
    outcome.submission? = none := by
  cases outcome with
  | entry => rfl
  | transition transition =>
      cases transition with
      | ignored => rfl
      | moved => simp [refused] at hRefused
      | scheduled => simp [refused] at hRefused
      | submitted => simp [refused] at hRefused

namespace Session

variable {plan : Plan}
variable {now : Instant}
variable {session next : Session}
variable {event : Event}
variable {outcome : Outcome}

/- What a question that is completed gives back is no refusal. -/
@[simp] theorem refused_complete
    (plan : Plan)
    (session : Session) :
    (Outcome.transition (session.complete plan).2).refused =
      false := by
  rw [complete_moved]
  rfl

/- A refused event changes nothing, but may use up a delay. -/
theorem Step.same_of_refused
    (hStep : session.Step plan now event next outcome)
    (hRefused : outcome.refused = true) :
    next = session ∨
      (event = .timer ∧ next = session.undelayed) := by
  cases hStep with
  | refused | untyped => exact .inl rfl
  | dropped => exact .inr ⟨rfl, rfl⟩
  | completed => simp at hRefused
  | _ => simp [Outcome.refused] at hRefused

/- A session that has ended refuses every event. -/
theorem Step.refused_of_finished
    (hStep : session.Step plan now event next outcome)
    (hFinished : session.finished = true) :
    outcome.refused = true := by
  cases hStep with
  | refused | untyped | dropped => rfl
  | typed unfinished | picked unfinished | completed unfinished
  | wentBack unfinished | edited unfinished | passed _ unfinished
  | failed _ unfinished | committed unfinished =>
      simp [hFinished] at unfinished

end Session

end Questionnaire

------------------------------------------------------------
-- Runs That Have Ended
------------------------------------------------------------

namespace Questionnaire

namespace Session

/- What the events of a run give back, in their order. -/
def outcomes
    (plan : Plan)
    (session : Session) : List Moment → List Outcome
  | [] => []
  | moment :: moments =>
      (session.handle plan moment.now moment.event).2
        :: outcomes plan
          (session.handle plan moment.now moment.event).1
          moments

/- What the events of a run submit, in their order. -/
def submissions
    (plan : Plan)
    (session : Session)
    (moments : List Moment) : List Submission :=
  (session.outcomes plan moments).filterMap
    Outcome.submission?

variable {plan : Plan}
variable {session : Session}

/-
  A session that has ended stays so: no event changes it, but a
  delay that was running may be used up.
-/
theorem after_of_finished
    (hFinished : session.finished = true)
    (moments : List Moment) :
    (∀ outcome ∈ session.outcomes plan moments,
      outcome.refused = true) ∧
    (session.after plan moments = session ∨
      session.after plan moments = session.undelayed) := by
  induction moments generalizing session with
  | nil => exact ⟨by simp [outcomes], .inl rfl⟩
  | cons moment moments ih =>
      have hStep :=
        session.step_handle plan moment.now moment.event
      have hRefused := hStep.refused_of_finished hFinished
      rw [outcomes, List.forall_mem_cons, after_cons]
      rcases hStep.same_of_refused hRefused with
        hSame | ⟨_, hUndelayed⟩
      · rw [hSame]
        exact ⟨⟨hRefused, (ih hFinished).1⟩, (ih hFinished).2⟩
      · rw [hUndelayed]
        have hOver : session.undelayed.finished = true := hFinished
        refine ⟨⟨hRefused, (ih hOver).1⟩, .inr ?_⟩
        rcases (ih hOver).2 with hSame | hAgain
        · exact hSame
        · exact hAgain

/- A session that has ended submits nothing. -/
theorem submissions_of_finished
    (hFinished : session.finished = true)
    (moments : List Moment) :
    session.submissions plan moments = [] := by
  rw [submissions, List.filterMap_eq_nil_iff]
  intro outcome hMem
  exact Outcome.submission?_of_refused
    ((after_of_finished hFinished moments).1 outcome hMem)

/- A submission ends its session. -/
theorem Step.finished_of_submitted
    {now : Instant}
    {next : Session}
    {event : Event}
    {submission : Submission}
    (hStep :
      session.Step plan now event next
        (.transition (.submitted submission))) :
    next.finished = true := by
  rw [hStep.submitted_cases.1]
  rfl

/- So a run submits once at most. -/
theorem length_submissions_le
    (plan : Plan)
    (session : Session)
    (moments : List Moment) :
    (session.submissions plan moments).length ≤ 1 := by
  induction moments generalizing session with
  | nil => simp [submissions, outcomes]
  | cons moment moments ih =>
      have hStep :=
        session.step_handle plan moment.now moment.event
      unfold submissions
      rw [outcomes]
      cases hOutcome :
          (session.handle plan moment.now moment.event).2 with
      | entry => exact ih _
      | transition transition =>
          rw [hOutcome] at hStep
          cases transition with
          | submitted submission =>
              have hRest :
                  submissions plan _ moments = [] :=
                submissions_of_finished
                  hStep.finished_of_submitted moments
              unfold submissions at hRest
              simp [Outcome.submission?, hRest]
          | moved => exact ih _
          | scheduled => exact ih _
          | ignored => exact ih _

end Session

/-
  In any session, whether a run leads to it or not, an event of
  which nothing comes changes nothing, but for a delay that is
  used up when it is over.  Choosing without a delay is refused
  exactly as choosing with one is, or it leaves the question.
  After a submission every event is refused and the session
  stays as it is, but for such a delay, so that no run submits
  twice.
-/
theorem refused_changes_nothing
    (plan : Plan)
    (session : Session) :
    (∀ now event,
      (session.handle plan now event).2.refused = true →
        (session.handle plan now event).1 = session ∨
          (event = .timer ∧
            (session.handle plan now event).1 =
              session.undelayed)) ∧
    (∀ now value,
      (∃ refusal,
        session.handle plan now (.select value) =
            (session, .transition (.ignored refusal)) ∧
          session.handle plan now (.choose value) =
            (session, .transition (.ignored refusal))) ∨
      ∃ destination,
        (session.handle plan now (.choose value)).2 =
          .transition (.moved session.step destination)) ∧
    (∀ now event submission,
      (session.handle plan now event).2 =
          .transition (.submitted submission) →
        ∀ later,
          let last := (session.handle plan now event).1
          (∀ outcome ∈ last.outcomes plan later,
            outcome.refused = true) ∧
          (last.after plan later = last ∨
            last.after plan later = last.undelayed)) ∧
    ∀ moments,
      (session.submissions plan moments).length ≤ 1 := by
  refine ⟨?_, ?_, ?_, session.length_submissions_le plan⟩
  · intro now event hRefused
    have hStep := session.step_handle plan now event
    exact hStep.same_of_refused hRefused
  · intro now value
    rcases session.choose_cases plan value with
      ⟨refusal, hSelect, hChoose⟩ | ⟨_, prompt, _, hChoose⟩
    · refine .inl ⟨refusal, ?_, ?_⟩
      · simp [Session.handle, Session.handle.moving, hSelect,
          Session.ignore]
      · simp [Session.handle, Session.handle.moving, hChoose,
          Session.ignore]
    · rcases Session.complete_transition plan
        (session.pick prompt value).undelayed with
        ⟨destination, hMoved⟩
      refine .inr ⟨destination, ?_⟩
      simp only [Session.handle, Session.handle.moving, hChoose,
        hMoved]
      rfl
  · intro now event submission hSubmitted later
    have hStep := session.step_handle plan now event
    rw [hSubmitted] at hStep
    exact
      Session.after_of_finished hStep.finished_of_submitted later

end Questionnaire
