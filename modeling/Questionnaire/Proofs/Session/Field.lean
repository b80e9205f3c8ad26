import Questionnaire.Proofs.Session.Place
import Questionnaire.Proofs.Session.Store

/-
  What a field shows of an entry, and what going on decides.

  An entry is judged when it is typed, and what is stored of it
  is judged when its session goes on.  Both find the same, so a
  session goes on exactly if the field says that its entry will
  do (`field_decides_advance`).
-/

------------------------------------------------------------
-- Typing and Going On
------------------------------------------------------------

namespace Questionnaire

namespace Session

variable {plan : Plan}
variable {now : Instant}
variable {session : Session}
variable {prompt : Prompt}
variable {validator : Validator}
variable {raw : String}

/- An entry that will do completes its question. -/
theorem advance_of_valid
    (hOpen : session.finished = false)
    (hAsked : plan.promptAt? session.step = some prompt)
    (hJudged : Validator.ofKind? prompt.kind = some validator)
    (hValid :
      (validator.judge raw prompt.required).valid = true) :
    (session.record prompt.id (prompt.stored raw)).advance
        plan now =
      (session.record prompt.id (prompt.stored raw)).complete
        plan := by
  rw [← Prompt.admits_of_field hJudged] at hValid
  rw [advance_of_typed hOpen hAsked hJudged, if_pos hValid]

/- Any other entry keeps its session where it is. -/
theorem advance_of_invalid
    (hOpen : session.finished = false)
    (hAsked : plan.promptAt? session.step = some prompt)
    (hJudged : Validator.ofKind? prompt.kind = some validator)
    (hInvalid :
      (validator.judge raw prompt.required).valid = false) :
    (session.record prompt.id (prompt.stored raw)).advance
        plan now =
      (session.record prompt.id (prompt.stored raw)).ignore
        .invalid := by
  rw [← Prompt.admits_of_field hJudged] at hInvalid
  rw [advance_of_typed hOpen hAsked hJudged,
    if_neg (by simp [hInvalid])]

/- What is put down twice stands as if it was put down once. -/
theorem record_record
    (session : Session)
    (id value : String) :
    (session.record id value).record id value =
      session.record id value := by
  have hAnswers :
      (session.answers.insert id value).insert id value =
        session.answers.insert id value := by
    apply Table.ext_get?
    intro key
    by_cases hKey : key = id <;> simp [hKey]
  simp [record, hAnswers]

/- What is stored of an entry is typed like the entry. -/
theorem input_stored
    (hOpen : session.finished = false)
    (hAsked : plan.promptAt? session.step = some prompt)
    (hJudged : Validator.ofKind? prompt.kind = some validator) :
    (session.record prompt.id (prompt.stored raw)).input plan
        (prompt.stored raw) =
      (session.record prompt.id (prompt.stored raw),
        some (validator.judge raw prompt.required)) := by
  have hAgain :
      (session.record prompt.id (prompt.stored raw)).input plan
          (prompt.stored raw) =
        ((session.record prompt.id (prompt.stored raw)).record
            prompt.id (prompt.stored (prompt.stored raw)),
          some (validator.judge (prompt.stored raw)
            prompt.required)) :=
    input_of_field hOpen hAsked hJudged
  have hSettled :
      prompt.stored (prompt.stored raw) = prompt.stored raw :=
    (Prompt.keeps_of_field hJudged raw).settled
  have hSame :
      validator.judge (prompt.stored raw) prompt.required =
        validator.judge raw prompt.required := by
    rw [Prompt.stored_of_field hJudged, Validator.judge_value]
  rw [hAgain, hSettled, hSame, record_record]

end Session

/-
  In every session that comes to a field, all that typing changes
  is the answer to its question.  Going on then moves exactly if
  the entry was said to do, and is refused with nothing changed
  otherwise.  Typing what was stored changes nothing, and is
  judged as before.
-/
theorem field_decides_advance
    {plan : Plan}
    {moments : List Moment}
    {prompt : Prompt}
    (hScreen :
      (plan.sessionAfter moments).screen plan = .question prompt)
    (hField : prompt.kind.isChoice = false)
    (raw : String) :
    let session := plan.sessionAfter moments
    session.finished = false ∧
      ∃ entry next,
        session.input plan raw = (next, some entry) ∧
          next.answers.get? prompt.id = some entry.value ∧
          (∀ id,
            id ≠ prompt.id →
              next.answers.get? id = session.answers.get? id) ∧
          next = { session with answers := next.answers } ∧
          (∀ now,
            ((∃ origin destination,
              (next.advance plan now).2 =
                .moved origin destination) ↔
              entry.valid = true) ∧
            (entry.valid = false →
              next.advance plan now =
                (next, .ignored .invalid))) ∧
          next.input plan entry.value = (next, some entry) := by
  intro session
  have hAsked : plan.promptAt? session.step = some prompt :=
    Session.screen_eq_question_iff.mp hScreen
  have hOpen : session.finished = false :=
    (Session.Placed.sessionAfter plan moments).open_of_promptAt?
      hAsked
  rcases Prompt.exists_validator hField with ⟨validator, hJudged⟩
  have hStored := Prompt.stored_of_field hJudged raw
  refine
    ⟨hOpen, validator.judge raw prompt.required,
      session.record prompt.id (prompt.stored raw),
      Session.input_of_field hOpen hAsked hJudged, ?_, ?_, rfl, ?_,
      ?_⟩
  · simp [Session.record, hStored]
  · intro id hOther
    simp [Session.record, hOther]
  · intro now
    cases hValid : (validator.judge raw prompt.required).valid with
    | true =>
        rw [Session.advance_of_valid hOpen hAsked hJudged hValid]
        refine ⟨⟨fun _ => rfl, fun _ => ?_⟩, ?_⟩
        · exact ⟨_, Session.complete_transition plan _⟩
        · intro hInvalid
          exact absurd hInvalid.symm Bool.false_ne_true
    | false =>
        rw [Session.advance_of_invalid hOpen hAsked hJudged hValid]
        refine ⟨⟨?_, ?_⟩, fun _ => rfl⟩
        · rintro ⟨_, _, hMoved⟩
          cases hMoved
        · intro hMoved
          exact absurd hMoved Bool.false_ne_true
  · rw [← hStored]
    exact Session.input_stored hOpen hAsked hJudged

/- A number that was given is edited from the review. -/
def callCorrected : List Moment :=
  callArranged ++ momentsAt ⟨0, 0⟩ [.timer, .edit 1]

/- A number that is too short is shown so, and is not left. -/
theorem callCorrected_refused :
    (Plan.callback.sessionAfter callCorrected).editing = true ∧
      ∃ entry next,
        (Plan.callback.sessionAfter callCorrected).input
            Plan.callback "11 9876" =
          (next, some entry) ∧
        entry = ⟨"(11) 9876", false⟩ ∧
        next.advance Plan.callback ⟨0, 0⟩ =
          (next, .ignored .invalid) := by
  have hEditing :
      (Plan.callback.sessionAfter callCorrected).editing =
        true := by
    decide +kernel
  have hScreen :
      (Plan.callback.sessionAfter callCorrected).screen
          Plan.callback =
        .question
          { id := "phone"
            kind := .phone
            label := "Phone"
            required := true } := by
    decide +kernel
  have hShown :
      ((Plan.callback.sessionAfter callCorrected).input
        Plan.callback "11 9876").2 =
          some ⟨"(11) 9876", false⟩ := by
    decide +kernel
  rcases field_decides_advance hScreen rfl "11 9876" with
    ⟨_, entry, next, hInput, _, _, _, hAdvance, _⟩
  have hEntry : entry = ⟨"(11) 9876", false⟩ := by
    rw [hInput] at hShown
    exact Option.some.inj hShown
  exact
    ⟨hEditing, entry, next, hInput, hEntry,
      (hAdvance ⟨0, 0⟩).2 (congrArg Entry.valid hEntry)⟩

end Questionnaire
