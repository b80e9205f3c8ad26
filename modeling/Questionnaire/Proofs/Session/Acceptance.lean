import Questionnaire.Proofs.Form.Audit
import Questionnaire.Proofs.Session.Place
import Mathlib.Data.List.Induction

/-
  Which answers can be confirmed.

  Key definitions include:
    * `Prompt.accepts`
    * `Session.Confirms`
    * `Session.Abandons`
    * `Plan.Abandoned`
    * `Settled`

  An answer is judged when its question is completed, and in
  edit mode the next completion leads to the review, whichever
  question it completes.  So an answer that will not do is
  confirmed exactly when its question was left backwards while
  it was edited.
-/

------------------------------------------------------------
-- Answers That Will Do
------------------------------------------------------------

namespace Questionnaire

/-
  Whether the answer to a question will do.  A missing answer
  to a field counts as an empty one.
-/
def Prompt.accepts
    (prompt : Prompt)
    (answers : Answers) : Bool :=
  match Validator.ofKind? prompt.kind with
  | some validator =>
      (validator.judge ((answers.get? prompt.id).getD "")
        prompt.required).valid
  | none =>
      match answers.get? prompt.id with
      | some value => prompt.options.contains value
      | none => false

namespace Prompt

variable {prompt : Prompt}
variable {answers : Answers}

/- Whether an answer will do depends on nothing else. -/
theorem accepts_congr
    {others : Answers}
    (hSame :
      others.get? prompt.id = answers.get? prompt.id) :
    prompt.accepts others = prompt.accepts answers := by
  unfold accepts
  rw [hSame]

/- A field accepts what its validator does. -/
theorem accepts_of_valid
    {validator : Validator}
    (hJudged :
      Validator.ofKind? prompt.kind = some validator)
    (hValid :
      (validator.judge ((answers.get? prompt.id).getD "")
        prompt.required).valid = true) :
    prompt.accepts answers = true := by
  unfold accepts
  rw [hJudged]
  exact hValid

/- A kind is a choice or has a validator. -/
theorem isChoice_eq_false
    {validator : Validator}
    (hJudged :
      Validator.ofKind? prompt.kind = some validator) :
    prompt.kind.isChoice = false := by
  cases hKind : prompt.kind with
  | choiceList => simp [hKind, Validator.ofKind?] at hJudged
  | choiceCards => simp [hKind, Validator.ofKind?] at hJudged
  | _ => rfl

/- A choice accepts the options that it offers. -/
theorem accepts_of_option
    {value : String}
    (hChoice : prompt.kind.isChoice = true)
    (hOption : value ∈ prompt.options) :
    prompt.accepts (answers.insert prompt.id value) = true := by
  have hNone : Validator.ofKind? prompt.kind = none := by
    cases hJudged : Validator.ofKind? prompt.kind with
    | none => rfl
    | some validator =>
        simp [isChoice_eq_false hJudged] at hChoice
  unfold accepts
  rw [hNone]
  simpa using hOption

end Prompt

end Questionnaire

------------------------------------------------------------
-- Confirming and Abandoning
------------------------------------------------------------

namespace Questionnaire

namespace Session

/- The answers are up for review or further on. -/
def Confirms
    (plan : Plan)
    (session : Session) : Prop :=
  session.screen plan = .review ∨
    session.screen plan = .commitment ∨
      session.finished = true

instance
    (plan : Plan)
    (session : Session) :
    Decidable (session.Confirms plan) := by
  unfold Confirms
  infer_instance

/-
  The event goes back from the question on screen, which is
  being edited and whose answer will not do.
-/
structure Abandons
    (plan : Plan)
    (session : Session)
    (prompt : Prompt)
    (event : Event) : Prop where
  goesBack : event = .back
  unfinished : session.finished = false
  editing : session.editing = true
  later : 1 < session.step
  asked : plan.promptAt? session.step = some prompt
  rejected : prompt.accepts session.answers = false

/- Sessions that confirm have all questions behind them. -/
theorem Placed.past_of_confirms
    {plan : Plan}
    {session : Session}
    (hPlaced : session.Placed plan)
    (hConfirms : session.Confirms plan) :
    plan.prompts.length < session.step := by
  rcases hConfirms with hReview | hCommitment | hFinished
  · exact hPlaced.past_of_screen (.inl hReview)
  · exact hPlaced.past_of_screen (.inr hCommitment)
  · exact hPlaced.past hFinished

end Session

/-
  In the course of a run a question was abandoned with the
  answer that it has at the end.
-/
def Plan.Abandoned
    (plan : Plan)
    (prompt : Prompt)
    (moments : List Moment) : Prop :=
  ∃ earlier moment later,
    moments = earlier ++ moment :: later ∧
      (plan.sessionAfter earlier).Abandons plan prompt
        moment.event ∧
      (plan.sessionAfter moments).answers.get? prompt.id =
        (plan.sessionAfter earlier).answers.get? prompt.id

end Questionnaire

------------------------------------------------------------
-- Settled Questions
------------------------------------------------------------

namespace Questionnaire

/-
  What is known of the question of one step.  Its answer will
  do where a session has gone past it, but for an excuse.  The
  question that is edited is not past.
-/
structure Settled
    (plan : Plan)
    (place : Nat)
    (prompt : Prompt)
    (excused : Prop)
    (session : Session) : Prop where
  chosen :
    session.pending = some place →
      prompt.accepts session.answers = true
  confirmed :
    plan.prompts.length < session.step →
      prompt.accepts session.answers = true ∨ excused
  edited :
    session.editing = true →
      prompt.accepts session.answers = true ∨ excused ∨
        (session.step = place ∧ prompt.kind.isChoice = false)
  passed :
    session.editing = false →
      session.step ≤ plan.prompts.length →
        session.step ≤ place ∨
          prompt.accepts session.answers = true ∨ excused

namespace Settled

variable {plan : Plan}
variable {place : Nat}
variable {prompt : Prompt}
variable {excused excused' : Prop}
variable {session next : Session}

/- Nothing has been passed at the start. -/
theorem start
    (hPrompt : plan.promptAt? place = some prompt) :
    Settled plan place prompt excused
      (Session.start plan) := by
  rcases Plan.step_of_promptAt? hPrompt with ⟨hPos, hLe⟩
  rw [Session.start_eq_of_promptAt? hPrompt]
  refine ⟨?_, ?_, ?_, ?_⟩
  · simp
  · intro hLt
    simp only at hLt
    omega
  · simp
  · intro _ _
    exact .inl hPos

/- An answer that will do, or is excused, settles its question. -/
theorem of_accepts
    (hChosen :
      session.pending = some place →
        prompt.accepts session.answers = true)
    (hAccepts :
      prompt.accepts session.answers = true ∨ excused) :
    Settled plan place prompt excused session :=
  ⟨hChosen, fun _ => hAccepts, fun _ => hAccepts.imp_right .inl,
    fun _ _ => .inr hAccepts⟩

/-
  Where the answer and the edit mode stay as they are, and so
  does the step, the same is known.
-/
theorem frame
    (hSettled : Settled plan place prompt excused session)
    (hExcused : excused → excused')
    (hStep : next.step = session.step)
    (hEditing : next.editing = session.editing)
    (hPending :
      next.pending = some place →
        session.pending = some place)
    (hSame :
      next.answers.get? prompt.id =
        session.answers.get? prompt.id) :
    Settled plan place prompt excused' next := by
  have hAccepts := Prompt.accepts_congr hSame
  refine ⟨?_, ?_, ?_, ?_⟩
  · intro hNext
    rw [hAccepts]
    exact hSettled.chosen (hPending hNext)
  · rw [hStep, hAccepts]
    intro hLt
    exact (hSettled.confirmed hLt).imp_right hExcused
  · rw [hStep, hEditing, hAccepts]
    intro hEdit
    exact
      (hSettled.edited hEdit).imp_right (.imp_left hExcused)
  · rw [hStep, hEditing, hAccepts]
    intro hPlain hLe
    exact
      (hSettled.passed hPlain hLe).imp_right
        (.imp_right hExcused)

/-
  When the question on screen is left to the review, no other
  one is unsettled.
-/
theorem of_returns
    (hSettled : Settled plan place prompt excused session)
    (hLe : place ≤ plan.prompts.length)
    (hHere :
      session.step = place →
        prompt.accepts session.answers = true)
    (hReturns :
      session.editing = true ∨
        plan.prompts.length ≤ session.step) :
    prompt.accepts session.answers = true ∨ excused := by
  cases hEditing : session.editing with
  | true =>
      rcases hSettled.edited hEditing with
        hAccepts | hExcused | ⟨hStep, _⟩
      · exact .inl hAccepts
      · exact .inr hExcused
      · exact .inl (hHere hStep)
  | false =>
      have hLast : plan.prompts.length ≤ session.step := by
        simpa [hEditing] using hReturns
      by_cases hPast : plan.prompts.length < session.step
      · exact hSettled.confirmed hPast
      · have hStep : session.step ≤ plan.prompts.length :=
          Nat.le_of_not_lt hPast
        rcases hSettled.passed hEditing hStep with
          hBefore | hAccepts
        -- The session stands at the last question, which is this one.
        · exact .inl (hHere (by omega))
        · exact hAccepts

/- Completing a question settles it and goes past it. -/
theorem complete
    (hSettled : Settled plan place prompt excused session)
    (hLe : place ≤ plan.prompts.length)
    (hHere :
      session.step = place →
        prompt.accepts session.answers = true) :
    Settled plan place prompt excused
      (session.complete plan).1 := by
  rcases session.complete_cases plan with
    ⟨hReturns, hComplete⟩ | ⟨⟨hEditing, hLt⟩, hComplete⟩
  · rw [hComplete]
    exact of_accepts hSettled.chosen
      (hSettled.of_returns hLe hHere hReturns)
  · rw [hComplete]
    refine ⟨hSettled.chosen, ?_, ?_, ?_⟩
    · intro hNext
      simp only [Session.goTo_step] at hNext
      omega
    · intro hNext
      simp [hEditing] at hNext
    · intro _ _
      rcases hSettled.passed hEditing (Nat.le_of_lt hLt) with
        hBefore | hAccepts
      · by_cases hStep : session.step = place
        · exact .inr (.inl (hHere hStep))
        · refine .inl ?_
          simp only [Session.goTo_step]
          omega
      · exact .inr hAccepts

/-
  Going back leaves no question unsettled but the one that is
  abandoned.
-/
theorem back
    (hSettled : Settled plan place prompt excused session)
    (hExcused : excused → excused')
    (hAbandons :
      session.editing = true →
        session.step = place →
          prompt.accepts session.answers = false → excused') :
    Settled plan place prompt excused'
      (session.goTo (session.step - 1)).1 := by
  refine ⟨hSettled.chosen, ?_, ?_, ?_⟩
  · intro hNext
    simp only [Session.goTo_step] at hNext
    exact
      (hSettled.confirmed (by omega)).imp_right hExcused
  · intro hEditing
    rcases hSettled.edited hEditing with
      hAccepts | hOld | ⟨hStep, _⟩
    · exact .inl hAccepts
    · exact .inr (.inl (hExcused hOld))
    · cases hAccepts : prompt.accepts session.answers with
      | true => exact .inl hAccepts
      | false =>
          exact .inr (.inl
            (hAbandons hEditing hStep hAccepts))
  · intro hEditing hNext
    simp only [Session.goTo_step] at hNext
    by_cases hPast : plan.prompts.length < session.step
    · exact .inr
        ((hSettled.confirmed hPast).imp_right hExcused)
    · rcases hSettled.passed hEditing (by omega) with
        hBefore | hAccepts
      · refine .inl ?_
        simp only [Session.goTo_step]
        omega
      · exact .inr (hAccepts.imp_right hExcused)

/- Typing into the question on screen settles no other one. -/
theorem typed
    {asked : Prompt}
    {value : String}
    (hSettled : Settled plan place prompt excused session)
    (hDistinct : plan.Distinct)
    (hPlaced : session.Placed plan)
    (hPrompt : plan.promptAt? place = some prompt)
    (hAsked : plan.promptAt? session.step = some asked)
    (hKind : asked.kind.isChoice = false)
    (hExcused :
      (session.record asked.id value).answers.get?
          prompt.id =
        session.answers.get? prompt.id →
          excused → excused') :
    Settled plan place prompt excused'
      (session.record asked.id value) := by
  by_cases hId : prompt.id = asked.id
  · have hPlace : place = session.step :=
      hDistinct.step_eq hAsked hPrompt hId
    subst hPlace
    have hSamePrompt : asked = prompt :=
      Option.some.inj (hAsked.symm.trans hPrompt)
    subst hSamePrompt
    rcases Plan.step_of_promptAt? hAsked with ⟨_, hLe⟩
    refine ⟨?_, ?_, ?_, ?_⟩
    · intro hPending
      rcases hPlaced.waiting session.step hPending with
        ⟨other, hOther, hChoice⟩
      have hEq : other = asked :=
        Option.some.inj (hOther.symm.trans hAsked)
      simp [hEq, hKind] at hChoice
    · intro hLt
      exact absurd hLt (Nat.not_lt.mpr hLe)
    · intro _
      exact .inr (.inr ⟨rfl, hKind⟩)
    · intro _ _
      exact .inl (Nat.le_refl _)
  · have hSame :
        (session.record asked.id value).answers.get?
            prompt.id =
          session.answers.get? prompt.id := by
      simp [Session.record, hId]
    exact hSettled.frame (hExcused hSame) rfl rfl id hSame

/- An offered option settles its question. -/
theorem picked
    {asked : Prompt}
    {value : String}
    (hSettled : Settled plan place prompt excused session)
    (hDistinct : plan.Distinct)
    (hPrompt : plan.promptAt? place = some prompt)
    (hOffers : session.Offers plan asked value)
    (hExcused :
      (session.pick asked value).answers.get? prompt.id =
        session.answers.get? prompt.id →
          excused → excused') :
    Settled plan place prompt excused'
      (session.pick asked value) := by
  by_cases hId : prompt.id = asked.id
  · have hPlace : place = session.step :=
      hDistinct.step_eq hOffers.asked hPrompt hId
    subst hPlace
    have hSamePrompt : asked = prompt :=
      Option.some.inj (hOffers.asked.symm.trans hPrompt)
    subst hSamePrompt
    have hAccepts :
        asked.accepts (session.pick asked value).answers =
          true :=
      Prompt.accepts_of_option hOffers.choice hOffers.offered
    exact of_accepts (fun _ => hAccepts) (.inl hAccepts)
  · have hSame :
        (session.pick asked value).answers.get? prompt.id =
          session.answers.get? prompt.id := by
      simp [Session.pick, hId]
    have hOther : session.step ≠ place := by
      intro hStep
      have hEq : asked = prompt := by
        apply Option.some.inj
        rw [← hOffers.asked, ← hPrompt, hStep]
      exact hId (congrArg Prompt.id hEq.symm)
    have hFrame :
        Settled plan place prompt excused'
          (session.record asked.id value) :=
      hSettled.frame (hExcused hSame) rfl rfl id hSame
    refine
      ⟨?_, hFrame.confirmed, hFrame.edited, hFrame.passed⟩
    intro hPending
    exact absurd (Option.some.inj hPending) hOther

/- What is ready to go on has settled its question. -/
theorem ready
    {event : Event}
    (hSettled : Settled plan place prompt excused session)
    (hDistinct : plan.Distinct)
    (hPrompt : plan.promptAt? place = some prompt)
    (hReady : session.Ready plan event next)
    (hExcused :
      next.answers.get? prompt.id =
        session.answers.get? prompt.id →
          excused → excused') :
    Settled plan place prompt excused' next ∧
      (next.step = place →
        prompt.accepts next.answers = true) := by
  cases hReady with
  | advanced asked judged valid =>
      refine ⟨?_, ?_⟩
      · exact hSettled.frame (hExcused rfl) rfl rfl id rfl
      · intro hStep
        rw [hStep, hPrompt] at asked
        have hEq := Option.some.inj asked
        subst hEq
        exact Prompt.accepts_of_valid judged valid
  | elapsed pending =>
      refine ⟨?_, ?_⟩
      · exact hSettled.frame (hExcused rfl) rfl rfl
          (fun hNone => by simp [Session.undelayed] at hNone)
          rfl
      · intro hStep
        have hHere : session.step = place := hStep
        exact hSettled.chosen (hHere ▸ pending)
  | @chosen asked value offers =>
      have hPicked :=
        hSettled.picked hDistinct hPrompt offers hExcused
      refine ⟨?_, ?_⟩
      · exact hPicked.frame id rfl rfl
          (fun hNone => by simp [Session.undelayed] at hNone)
          rfl
      · intro hStep
        have hHere : session.step = place := hStep
        apply hPicked.chosen
        simp [Session.pick, hHere]

/- Every step settles what it goes past. -/
theorem step
    {now : Instant}
    {event : Event}
    {outcome : Outcome}
    (hSettled : Settled plan place prompt excused session)
    (hDistinct : plan.Distinct)
    (hPlaced : session.Placed plan)
    (hPrompt : plan.promptAt? place = some prompt)
    (hStep : session.Step plan now event next outcome)
    (hExcused :
      next.answers.get? prompt.id =
        session.answers.get? prompt.id →
          excused → excused')
    (hAbandons :
      session.Abandons plan prompt event → excused') :
    Settled plan place prompt excused' next := by
  rcases Plan.step_of_promptAt? hPrompt with ⟨_, hLe⟩
  cases hStep with
  | refused | untyped =>
      exact hSettled.frame (hExcused rfl) rfl rfl id rfl
  | typed _ asked judged =>
      exact hSettled.typed hDistinct hPlaced hPrompt asked
        (Prompt.isChoice_eq_false judged) hExcused
  | picked _ offers =>
      exact hSettled.picked hDistinct hPrompt offers hExcused
  | dropped =>
      exact hSettled.frame (hExcused rfl) rfl rfl
        (fun hNone => by simp [Session.undelayed] at hNone)
        rfl
  | completed _ isReady =>
      rw [Session.complete_answers] at hExcused
      rcases
          hSettled.ready hDistinct hPrompt isReady hExcused with
        ⟨hReady, hHere⟩
      exact hReady.complete hLe hHere
  | wentBack unfinished later =>
      apply hSettled.back (hExcused rfl)
      intro hEditing hHere hRejected
      exact hAbandons
        ⟨rfl, unfinished, hEditing, later,
          hHere ▸ hPrompt, hRejected⟩
  -- Whatever is up for review has been settled.
  | edited _ atReview | passed _ _ atReview =>
      have hPast : plan.prompts.length < session.step := by
        rw [atReview]
        exact Nat.lt_succ_self _
      exact of_accepts hSettled.chosen
        ((hSettled.confirmed hPast).imp_right (hExcused rfl))
  | failed | committed =>
      exact hSettled.frame (hExcused rfl) rfl rfl id rfl

end Settled

end Questionnaire

------------------------------------------------------------
-- What Is Confirmed
------------------------------------------------------------

namespace Questionnaire

namespace Plan

variable {plan : Plan}
variable {prompt : Prompt}
variable {earlier : List Moment}
variable {moment : Moment}

/- It stays abandoned until its answer changes. -/
theorem Abandoned.concat
    (hAbandoned : plan.Abandoned prompt earlier)
    (hSame :
      (plan.sessionAfter (earlier ++ [moment])).answers.get?
          prompt.id =
        (plan.sessionAfter earlier).answers.get? prompt.id) :
    plan.Abandoned prompt (earlier ++ [moment]) := by
  rcases hAbandoned with
    ⟨before, leaving, later, hMoments, hAbandons, hAnswer⟩
  refine
    ⟨before, leaving, later ++ [moment], ?_, hAbandons, ?_⟩
  · simp [hMoments]
  · exact hSame.trans hAnswer

/- It is abandoned once the session has gone back from it. -/
theorem abandoned_of_abandons
    (hAbandons :
      (plan.sessionAfter earlier).Abandons plan prompt
        moment.event) :
    plan.Abandoned prompt (earlier ++ [moment]) := by
  refine ⟨earlier, moment, [], rfl, hAbandons, ?_⟩
  have hBack :
      (plan.sessionAfter earlier).back.1.answers =
        (plan.sessionAfter earlier).answers := by
    unfold Session.back
    split
    · rfl
    · split
      · rfl
      · rfl
  rw [sessionAfter_concat, hAbandons.goesBack]
  exact congrArg (fun answers => answers.get? prompt.id) hBack

end Plan

namespace Settled

variable {plan : Plan}
variable {place : Nat}
variable {prompt : Prompt}

/-
  In a run a question stays settled but for an excuse that lasts
  while its answer does, and that abandoning it gives.
-/
theorem sessionAfter
    (excuse : List Moment → Prop)
    (hDistinct : plan.Distinct)
    (hPrompt : plan.promptAt? place = some prompt)
    (hLasts :
      ∀ earlier moment,
        (plan.sessionAfter (earlier ++ [moment])).answers.get?
            prompt.id =
          (plan.sessionAfter earlier).answers.get? prompt.id →
            excuse earlier → excuse (earlier ++ [moment]))
    (hAbandons :
      ∀ earlier moment,
        Settled plan place prompt (excuse earlier)
            (plan.sessionAfter earlier) →
          (plan.sessionAfter earlier).Abandons plan prompt
              moment.event →
            excuse (earlier ++ [moment]))
    (moments : List Moment) :
    Settled plan place prompt (excuse moments)
      (plan.sessionAfter moments) := by
  induction moments using List.reverseRecOn with
  | nil => exact start hPrompt
  | append_singleton earlier moment ih =>
      have hPlaced :=
        Session.Placed.sessionAfter plan earlier
      have hStep :=
        Session.step_handle plan moment.now
          (plan.sessionAfter earlier) moment.event
      rw [← Plan.sessionAfter_concat] at hStep
      exact
        ih.step hDistinct hPlaced hPrompt hStep
          (hLasts earlier moment)
          (hAbandons earlier moment ih)

/- Only an abandoned question stays unsettled. -/
theorem or_abandoned
    (hDistinct : plan.Distinct)
    (hPrompt : plan.promptAt? place = some prompt)
    (moments : List Moment) :
    Settled plan place prompt
      (plan.Abandoned prompt moments)
      (plan.sessionAfter moments) := by
  apply sessionAfter (plan.Abandoned prompt) hDistinct hPrompt
  · intro earlier moment hSame hAbandoned
    exact hAbandoned.concat hSame
  · intro earlier moment _ hAbandons
    exact Plan.abandoned_of_abandons hAbandons

/- A choice cannot be abandoned. -/
theorem of_choice
    (hDistinct : plan.Distinct)
    (hPrompt : plan.promptAt? place = some prompt)
    (hChoice : prompt.kind.isChoice = true)
    (moments : List Moment) :
    Settled plan place prompt False
      (plan.sessionAfter moments) := by
  apply sessionAfter (fun _ => False) hDistinct hPrompt
  · intro earlier moment _ hFalse
    exact hFalse
  · intro earlier moment hSettled hAbandons
    rcases hSettled.edited hAbandons.editing with
      hAccepts | hFalse | ⟨_, hField⟩
    · simp [hAbandons.rejected] at hAccepts
    · exact hFalse
    · simp [hChoice] at hField

end Settled

/-
  In a run of an audited form, an answer that will not do is
  confirmed exactly when its question was abandoned with it: the
  session went back from the question while it was edited, and
  the answer has not changed since.  No choice is ever
  confirmed without one of its options.
-/
theorem rejected_iff_abandoned
    {form : Form}
    {warnings : List Warning}
    (hAudit : form.audit = .ok warnings)
    (delays : Delays)
    (moments : List Moment)
    (hConfirms :
      ((Plan.ofForm form delays).sessionAfter moments).Confirms
        (Plan.ofForm form delays))
    {prompt : Prompt}
    (hPrompt : prompt ∈ (Plan.ofForm form delays).prompts) :
    (prompt.accepts
        ((Plan.ofForm form delays).sessionAfter
          moments).answers = false ↔
      (Plan.ofForm form delays).Abandoned prompt moments) ∧
    (prompt.kind.isChoice = true →
      prompt.accepts
        ((Plan.ofForm form delays).sessionAfter
          moments).answers = true) := by
  have hDistinct := Plan.distinct_ofForm hAudit delays
  have hPlaced :=
    Session.Placed.sessionAfter
      (Plan.ofForm form delays) moments
  have hPast := hPlaced.past_of_confirms hConfirms
  rcases Plan.exists_promptAt?_of_mem hPrompt with ⟨place, hAsked⟩
  refine ⟨⟨?_, ?_⟩, ?_⟩
  · intro hRejected
    have hSettled :=
      Settled.or_abandoned hDistinct hAsked moments
    rcases hSettled.confirmed hPast with hAccepts | hAbandoned
    · simp [hRejected] at hAccepts
    · exact hAbandoned
  · rintro ⟨earlier, moment, later, _, hAbandons, hSame⟩
    rw [Prompt.accepts_congr hSame]
    exact hAbandons.rejected
  · intro hChoice
    have hSettled :=
      Settled.of_choice hDistinct hAsked hChoice moments
    exact (hSettled.confirmed hPast).resolve_right id

/-
  A respondent who edits the address, clears it and goes back
  returns to the review from the question before.
-/
def addressLost : List Moment :=
  momentsAt ⟨0, 0⟩ [
    .input "Ana", .advance, .choose "30",
    .input "ana@example.com", .advance,
    .edit 3, .input "", .back, .choose "10"]

/- The address of the small form. -/
def addressPrompt : Prompt :=
  { id := "email"
    kind := .email
    label := "E-mail"
    required := true }

theorem addressPrompt_abandoned :
    Form.small.audit = .ok [] ∧
    ((Plan.ofForm Form.small {}).sessionAfter
      addressLost).Confirms (Plan.ofForm Form.small {}) ∧
    addressPrompt ∈ (Plan.ofForm Form.small {}).prompts ∧
    (Plan.ofForm Form.small {}).Abandoned addressPrompt
      addressLost := by
  have hConfirms :
      ((Plan.ofForm Form.small {}).sessionAfter
        addressLost).Confirms (Plan.ofForm Form.small {}) := by
    rw [Plan.ofForm_small]
    decide +kernel
  have hMem :
      addressPrompt ∈ (Plan.ofForm Form.small {}).prompts := by
    rw [Plan.ofForm_small]
    decide
  have hRejected :
      addressPrompt.accepts
        ((Plan.ofForm Form.small {}).sessionAfter
          addressLost).answers = false := by
    rw [Plan.ofForm_small]
    decide +kernel
  have hIff :=
    (rejected_iff_abandoned Form.audit_small {} addressLost
      hConfirms hMem).1
  exact
    ⟨Form.audit_small, hConfirms, hMem, hIff.mp hRejected⟩

/- So not all that is confirmed will do. -/
theorem confirms_rejected :
    ¬ ∀ (form : Form) (warnings : List Warning)
        (delays : Delays) (moments : List Moment),
      form.audit = .ok warnings →
        ((Plan.ofForm form delays).sessionAfter
          moments).Confirms (Plan.ofForm form delays) →
        ∀ prompt ∈ (Plan.ofForm form delays).prompts,
          prompt.accepts
            ((Plan.ofForm form delays).sessionAfter
              moments).answers = true := by
  intro hAll
  have hAccepts :=
    hAll Form.small [] {} addressLost Form.audit_small
  rw [Plan.ofForm_small] at hAccepts
  have hAddress :=
    hAccepts (by decide +kernel) addressPrompt (by decide)
  revert hAddress
  decide +kernel

end Questionnaire
