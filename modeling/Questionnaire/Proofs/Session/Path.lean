import Questionnaire.Proofs.Qualification.Blank
import Questionnaire.Proofs.Session.Acceptance
import Questionnaire.Proofs.Session.Store
import Questionnaire.Proofs.Session.Verdict
import Questionnaire.Proofs.Session.Walk

/-
  What is submitted does not depend on the way to it.

  An empty answer counts as none, both for the criteria and for
  a submission.  So a walk with the answers that a session holds
  fills in the same ones (`Plan.Holds.nonEmpty_filled`) and comes
  to the same submission, if it comes to its end; and it does
  exactly if no question was abandoned.
-/

------------------------------------------------------------
-- Empty Answers
------------------------------------------------------------

namespace Questionnaire

variable {answers others : Answers}

/- Answers that differ in empty ones only make one payload. -/
theorem payloadOf_congr
    (status : Status)
    (now : Instant)
    (hSame : others.nonEmpty = answers.nonEmpty) :
    payloadOf status others now = payloadOf status answers now := by
  unfold payloadOf
  rw [← Answers.nonEmpty, hSame, Answers.nonEmpty]

/- No question makes an answer out of none. -/
theorem Prompt.stored_empty
    (prompt : Prompt) :
    prompt.stored "" = "" := by
  unfold stored
  cases Validator.ofKind? prompt.kind with
  | none => rfl
  | some validator =>
      cases validator with
      | text => rfl
      | email => rfl
      | phone => simp [Validator.judge, Phone.format,
          Phone.digits, Phone.layOut]

end Questionnaire

------------------------------------------------------------
-- Walking with Held Answers
------------------------------------------------------------

namespace Questionnaire

variable {plan : Plan}
variable {answers : Answers}
variable {prompt : Prompt}

/- A walk with held answers fills in these and no others. -/
theorem Plan.Holds.nonEmpty_filled
    (hHolds : plan.Holds answers)
    (hDistinct : plan.Distinct) :
    (plan.filled answers).nonEmpty = answers.nonEmpty := by
  apply Table.ext_get?
  intro id
  unfold Answers.nonEmpty
  rw [Table.get?_filter, Table.get?_filter, Plan.get?_filled]
  cases hFind :
      plan.prompts.reverse.find?
        (fun prompt => prompt.id == id) with
  | none =>
      -- No question has this id, so nothing is held under it.
      have hNone : answers.get? id = none := by
        apply Option.eq_none_iff_forall_ne_some.mpr
        intro value hAnswer
        rcases hHolds id value hAnswer with
          ⟨prompt, hPrompt, hId, _⟩
        have hOther :=
          List.find?_eq_none.mp hFind prompt
            (List.mem_reverse.mpr hPrompt)
        simp [hId] at hOther
      rw [hNone]
      rfl
  | some prompt =>
      have hId : prompt.id = id := by
        simpa using List.find?_some hFind
      have hPrompt : prompt ∈ plan.prompts :=
        List.mem_reverse.mp (List.mem_of_find?_eq_some hFind)
      rw [← hId, Option.map_some, Answers.answerTo]
      cases hAnswer : answers.get? prompt.id with
      | none =>
          rw [Option.getD_none, Prompt.stored_empty]
          rfl
      | some value =>
          have hKeeps :=
            hHolds.keeps hDistinct hPrompt hAnswer
          rw [Option.getD_some, hKeeps.settled]

/- An answer that will do is taken by a walk. -/
theorem Prompt.takes_of_accepts
    (hAccepts : prompt.accepts answers = true) :
    prompt.takes answers = true := by
  unfold accepts at hAccepts
  unfold takes admits Answers.answerTo
  cases hJudged : Validator.ofKind? prompt.kind with
  | some validator =>
      rw [hJudged] at hAccepts
      exact hAccepts
  | none =>
      rw [hJudged] at hAccepts
      cases hAnswer : answers.get? prompt.id with
      | none => simp [hAnswer] at hAccepts
      | some value =>
          rw [hAnswer] at hAccepts
          exact hAccepts

/- What a walk takes for a field will do. -/
theorem Prompt.accepts_of_takes
    (hField : prompt.kind.isChoice = false)
    (hTakes : prompt.takes answers = true) :
    prompt.accepts answers = true := by
  rcases exists_validator hField with ⟨validator, hJudged⟩
  apply accepts_of_valid hJudged
  rw [takes, admits_of_field hJudged] at hTakes
  exact hTakes

/-
  In a run that is past its questions, a walk with the answers
  takes all that were not abandoned.
-/
theorem Plan.Distinct.takes_iff_not_abandoned
    (hDistinct : plan.Distinct)
    (moments : List Moment)
    (hPast :
      plan.prompts.length < (plan.sessionAfter moments).step)
    (hPrompt : prompt ∈ plan.prompts) :
    prompt.takes (plan.sessionAfter moments).answers = true ↔
      ¬ plan.Abandoned prompt moments := by
  rcases Plan.exists_promptAt?_of_mem hPrompt with
    ⟨place, hAsked⟩
  constructor
  · rintro hTakes ⟨earlier, moment, later, _, hAbandons, hSame⟩
    have hRejected :
        prompt.accepts (plan.sessionAfter moments).answers =
          false := by
      rw [Prompt.accepts_congr hSame]
      exact hAbandons.rejected
    have hAccepts :
        prompt.accepts (plan.sessionAfter moments).answers =
          true := by
      cases hKind : prompt.kind.isChoice with
      | false => exact Prompt.accepts_of_takes hKind hTakes
      | true =>
          have hSettled :=
            Settled.of_choice hDistinct hAsked hKind moments
          exact (hSettled.confirmed hPast).resolve_right id
    simp [hRejected] at hAccepts
  · intro hKept
    have hSettled :=
      Settled.or_abandoned hDistinct hAsked moments
    exact
      Prompt.takes_of_accepts
        ((hSettled.confirmed hPast).resolve_right hKept)

end Questionnaire

------------------------------------------------------------
-- The Same Submission
------------------------------------------------------------

namespace Questionnaire

/-
  Two submissions of one status and of the same answers differ
  in nothing but their time.
-/
structure Submission.Matches
    (other submission : Submission) : Prop where
  status : other.status = submission.status
  webhook : other.webhook = submission.webhook
  redirect : other.redirect = submission.redirect
  payload :
    ∀ id,
      id ≠ "submittedAt" →
        other.payload.get? id = submission.payload.get? id

namespace Submission

variable {answers others : Answers}

/- Answers that differ in empty ones only are sent alike. -/
theorem matches_make
    (status : Status)
    (targets : Targets)
    (hSame : others.nonEmpty = answers.nonEmpty)
    (later now : Instant) :
    (make status targets others later).Matches
      (make status targets answers now) := by
  refine ⟨rfl, rfl, rfl, ?_⟩
  intro id hId
  simp only [make]
  rw [payloadOf_congr status later hSame]
  simp [payloadOf, hId]

end Submission

/-
  What a run submits depends on its last answers and its last
  event only.  A walk with these answers that declines where the
  run has declined submits the same, at the same step, whatever
  the way was; only the time is its own.  It comes to its end
  exactly if no question was abandoned in the run.
-/
theorem submission_independent_of_path
    {plan : Plan}
    (hDistinct : plan.Distinct)
    (moments : List Moment)
    {now : Instant}
    {event : Event}
    {submission : Submission}
    (hSubmitted :
      ((plan.sessionAfter moments).handle plan now event).2 =
        .transition (.submitted submission))
    (later : Instant) :
    let last :=
      ((plan.sessionAfter moments).handle plan now event).1
    let decline := decide (event = .commit false)
    ((∃ report,
        plan.walk later last.answers decline = .ok report) ↔
      ∀ prompt ∈ plan.prompts,
        ¬ plan.Abandoned prompt moments) ∧
    ∀ report,
      plan.walk later last.answers decline = .ok report →
        report.submission.Matches submission ∧
          report.finalStep = last.step := by
  intro last decline
  rcases plan.made_of_submitted moments hSubmitted with
    ⟨hNext, hPast, hMade, hStep⟩
  have hLast : last = (plan.sessionAfter moments).ended := hNext
  have hAnswers :
      last.answers = (plan.sessionAfter moments).answers := by
    rw [hLast]
    rfl
  have hLastStep :
      last.step = (plan.sessionAfter moments).step := by
    rw [hLast]
    rfl
  refine ⟨?_, ?_⟩
  · rw [Plan.walk_eq_straight, Plan.exists_straight_eq_ok_iff,
      hAnswers]
    constructor
    · intro hTakes prompt hPrompt
      exact
        (hDistinct.takes_iff_not_abandoned moments hPast
          hPrompt).mp (hTakes prompt hPrompt)
    · intro hKept prompt hPrompt
      exact
        (hDistinct.takes_iff_not_abandoned moments hPast
          hPrompt).mpr (hKept prompt hPrompt)
  · intro report hReport
    have hSame :
        (plan.filled last.answers).nonEmpty =
          (plan.sessionAfter moments).answers.nonEmpty := by
      rw [hAnswers]
      exact
        (Plan.Holds.sessionAfter plan moments).nonEmpty_filled
          hDistinct
    have hVerdict := plan.criteria.qualifies_congr hSame
    rw [Plan.walk_eq_straight] at hReport
    rw [Plan.report_of_straight_eq_ok hReport]
    simp only [Plan.reported, hVerdict]
    refine ⟨?_, ?_⟩
    · rw [hMade]
      exact Submission.matches_make _ _ hSame later now
    · rw [hLastStep]
      exact hStep.symm

/-
  The respondent then looks at the number again, corrects it,
  and changes the size on review.
-/
def callRearranged : List Moment :=
  callArranged ++ momentsAt ⟨60, 0⟩ [
    .back, .back, .input "21912345678", .advance, .advance,
    .timer, .edit 3, .choose "10", .edit 3, .choose "30",
    .confirm]

/- The answers at the end of it all. -/
def callAnswers : Answers :=
  .ofList [("phone", "(21) 91234-5678"), ("size", "30")]

/- A walk with these answers submits what the run submits. -/
theorem callRearranged_walked :
    Plan.callback.Distinct ∧
      ((Plan.callback.sessionAfter callRearranged).handle
        Plan.callback ⟨90, 0⟩ (.commit false)).2 =
          .transition
            (.submitted
              (.make .disqualified Plan.callback.targets
                callAnswers ⟨90, 0⟩)) ∧
      ∃ report,
        Plan.callback.walk ⟨3600, 0⟩ callAnswers true =
            .ok report ∧
          report.submission.Matches
            (.make .disqualified Plan.callback.targets
              callAnswers ⟨90, 0⟩) ∧
          report.finalStep = 5 := by
  have hDistinct : Plan.callback.Distinct := by
    rw [← Plan.ofForm_callback]
    exact Plan.distinct_ofForm Form.audit_callback {}
  have hSubmitted :
      ((Plan.callback.sessionAfter callRearranged).handle
        Plan.callback ⟨90, 0⟩ (.commit false)).2 =
          .transition
            (.submitted
              (.make .disqualified Plan.callback.targets
                callAnswers ⟨90, 0⟩)) := by
    decide +kernel
  have hAnswers :
      ((Plan.callback.sessionAfter callRearranged).handle
        Plan.callback ⟨90, 0⟩ (.commit false)).1.answers =
          callAnswers := by
    decide +kernel
  have hStep :
      ((Plan.callback.sessionAfter callRearranged).handle
        Plan.callback ⟨90, 0⟩ (.commit false)).1.step = 5 := by
    decide +kernel
  have hWalked :
      Plan.callback.walk ⟨3600, 0⟩ callAnswers true =
        .ok ⟨true, 5,
          .make .disqualified Plan.callback.targets
            callAnswers ⟨3600, 0⟩⟩ := by
    decide +kernel
  have hSame :=
    (submission_independent_of_path hDistinct callRearranged
      hSubmitted ⟨3600, 0⟩).2
  simp only [hAnswers, hStep, decide_true] at hSame
  exact
    ⟨hDistinct, hSubmitted, _, hWalked, hSame _ hWalked⟩

end Questionnaire
