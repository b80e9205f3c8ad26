import Questionnaire.Proofs.Entry.Stored
import Questionnaire.Proofs.Session.Step
import Questionnaire.Session.Walk

/-
  What becomes of a session when its question is answered.

  Key definitions include:
    * `Prompt.admits`
    * `Prompt.stored`
    * `Prompt.refusal`
    * `Session.Answered`

  An answer that its question admits completes the question,
  with the answer stored (`Session.walkStep_of_admits`).  Any
  other answer is refused, for a reason that depends on the kind
  of the question only (`Session.walkStep_of_not_admits`).
-/

------------------------------------------------------------
-- Admitted Answers
------------------------------------------------------------

namespace Questionnaire

namespace Prompt

/- Whether a question can be answered so. -/
def admits
    (prompt : Prompt)
    (answer : String) : Bool :=
  match Validator.ofKind? prompt.kind with
  | some validator => (validator.judge answer prompt.required).valid
  | none => prompt.options.contains answer

/- What is stored of an answer. -/
def stored
    (prompt : Prompt)
    (answer : String) : String :=
  match Validator.ofKind? prompt.kind with
  | some validator => (validator.judge answer prompt.required).value
  | none => answer

/- Why an answer that is not admitted is refused. -/
def refusal
    (prompt : Prompt) : Refusal :=
  if prompt.kind.isChoice then .unknownOption else .invalid

variable {prompt : Prompt}
variable {validator : Validator}

/- A field admits what its validator finds valid. -/
theorem admits_of_field
    (hJudged : Validator.ofKind? prompt.kind = some validator)
    (answer : String) :
    prompt.admits answer =
      (validator.judge answer prompt.required).valid := by
  simp [admits, hJudged]

/- It stores the answer as the validator writes it. -/
theorem stored_of_field
    (hJudged : Validator.ofKind? prompt.kind = some validator)
    (answer : String) :
    prompt.stored answer =
      (validator.judge answer prompt.required).value := by
  simp [stored, hJudged]

/- A choice admits its options. -/
theorem admits_of_choice
    (hChoice : prompt.kind.isChoice = true)
    (answer : String) :
    prompt.admits answer = prompt.options.contains answer := by
  have hNone := (Validator.ofKind?_eq_none_iff _).mpr hChoice
  simp [admits, hNone]

/- It stores them as they are. -/
theorem stored_of_choice
    (hChoice : prompt.kind.isChoice = true)
    (answer : String) :
    prompt.stored answer = answer := by
  have hNone := (Validator.ofKind?_eq_none_iff _).mpr hChoice
  simp [stored, hNone]

/- A question that is no choice has a validator. -/
theorem exists_validator
    (hField : prompt.kind.isChoice = false) :
    ∃ validator,
      Validator.ofKind? prompt.kind = some validator := by
  apply Option.ne_none_iff_exists'.mp
  intro hNone
  have hChoice := (Validator.ofKind?_eq_none_iff _).mp hNone
  simp [hField] at hChoice

end Prompt

end Questionnaire

------------------------------------------------------------
-- Answering the Question on Screen
------------------------------------------------------------

namespace Questionnaire

namespace Session

/-
  A session whose question was answered, before it goes on.  At
  most its own step got locked.
-/
structure Answered
    (session : Session)
    (prompt : Prompt)
    (value : String)
    (ready : Session) : Prop where
  step : ready.step = session.step
  answers :
    ready.answers = session.answers.insert prompt.id value
  editing : ready.editing = session.editing
  finished : ready.finished = session.finished
  locked :
    ∀ place ∈ ready.locked,
      place = session.step ∨ place ∈ session.locked

variable {plan : Plan}
variable {now : Instant}
variable {session : Session}
variable {prompt : Prompt}
variable {validator : Validator}
variable {answer : String}

/- A field takes what is typed into it. -/
theorem input_of_field
    (hOpen : session.finished = false)
    (hAsked : plan.promptAt? session.step = some prompt)
    (hJudged : Validator.ofKind? prompt.kind = some validator) :
    session.input plan answer =
      (session.record prompt.id (prompt.stored answer),
        some (validator.judge answer prompt.required)) := by
  have hScreen := screen_eq_question_iff.mpr hAsked
  simp [input, hOpen, hScreen, hJudged, record,
    Prompt.stored_of_field hJudged]

/- What is stored of an entry is judged like the entry. -/
theorem advance_of_typed
    (hOpen : session.finished = false)
    (hAsked : plan.promptAt? session.step = some prompt)
    (hJudged : Validator.ofKind? prompt.kind = some validator) :
    (session.record prompt.id (prompt.stored answer)).advance
        plan now =
      if prompt.admits answer then
        (session.record prompt.id (prompt.stored answer)).complete
          plan
      else
        (session.record prompt.id (prompt.stored answer)).ignore
          .invalid := by
  have hScreen :
      (session.record prompt.id (prompt.stored answer)).screen
          plan = .question prompt :=
    screen_eq_question_iff.mpr hAsked
  have hFinished :
      (session.record prompt.id
        (prompt.stored answer)).finished = false := hOpen
  have hAnswer :
      (session.record prompt.id
          (prompt.stored answer)).answer? prompt.id =
        some (prompt.stored answer) := by
    simp [answer?, record]
  simp only [advance, hFinished, hScreen, hJudged, hAnswer,
    Option.getD_some]
  rw [Prompt.stored_of_field hJudged, Validator.judge_value,
    Prompt.admits_of_field hJudged]
  simp

/- A choice takes the options that it offers. -/
theorem choose_of_choice
    (hOpen : session.finished = false)
    (hAsked : plan.promptAt? session.step = some prompt)
    (hChoice : prompt.kind.isChoice = true)
    (hUnlocked : session.step ∉ session.locked) :
    session.choose plan answer =
      if prompt.admits answer then
        (session.pick prompt answer).undelayed.complete plan
      else
        session.ignore .unknownOption := by
  have hScreen := screen_eq_question_iff.mpr hAsked
  rw [Prompt.admits_of_choice hChoice]
  by_cases hOffered : answer ∈ prompt.options
  · simp [choose, select, elapse, hOpen, hScreen, hChoice,
      hUnlocked, hOffered, pick, undelayed]
  · simp [choose, select, ignore, hOpen, hScreen, hChoice,
      hUnlocked, hOffered]

/- An admitted answer completes the question. -/
theorem walkStep_of_admits
    (now : Instant)
    (hOpen : session.finished = false)
    (hAsked : plan.promptAt? session.step = some prompt)
    (hUnlocked : session.step ∉ session.locked)
    (hAdmits : prompt.admits answer = true) :
    ∃ ready,
      session.Answered prompt (prompt.stored answer) ready ∧
        walkStep plan now prompt answer session =
          ready.complete plan := by
  unfold walkStep
  cases hKind : prompt.kind.isChoice with
  | true =>
      refine ⟨(session.pick prompt answer).undelayed, ?_, ?_⟩
      · rw [Prompt.stored_of_choice hKind]
        exact ⟨rfl, rfl, rfl, rfl, fun _ => List.mem_cons.mp⟩
      · rw [if_pos rfl,
          choose_of_choice hOpen hAsked hKind hUnlocked,
          if_pos hAdmits]
  | false =>
      rcases Prompt.exists_validator hKind with
        ⟨validator, hJudged⟩
      refine
        ⟨session.record prompt.id (prompt.stored answer), ?_, ?_⟩
      · exact ⟨rfl, rfl, rfl, rfl, fun _ => .inr⟩
      · rw [if_neg (by simp),
          input_of_field hOpen hAsked hJudged,
          advance_of_typed hOpen hAsked hJudged, if_pos hAdmits]

/- Any other answer is refused. -/
theorem walkStep_of_not_admits
    (now : Instant)
    (hOpen : session.finished = false)
    (hAsked : plan.promptAt? session.step = some prompt)
    (hUnlocked : session.step ∉ session.locked)
    (hRejects : prompt.admits answer = false) :
    (walkStep plan now prompt answer session).2 =
      .ignored prompt.refusal := by
  unfold walkStep Prompt.refusal
  cases hKind : prompt.kind.isChoice with
  | true =>
      rw [if_pos rfl, if_pos rfl,
        choose_of_choice hOpen hAsked hKind hUnlocked,
        if_neg (by simp [hRejects])]
      rfl
  | false =>
      rcases Prompt.exists_validator hKind with
        ⟨validator, hJudged⟩
      rw [if_neg (by simp), if_neg (by simp),
        input_of_field hOpen hAsked hJudged,
        advance_of_typed hOpen hAsked hJudged,
        if_neg (by simp [hRejects])]
      rfl

end Session

end Questionnaire
