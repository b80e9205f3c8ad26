import Questionnaire.Proofs.Form.Audit
import Questionnaire.Proofs.Session.Answering
import Questionnaire.Proofs.Session.Run

/-
  The answers that a session holds.

  Key definitions include:
    * `Prompt.Keeps`
    * `Plan.Holds`

  An event changes no answer but that to the question on screen,
  and only by typing or choosing (`Session.Step.answers_cases`).
  So after every run each answer stands as its question stores
  it (`Plan.Holds.sessionAfter`).
-/

------------------------------------------------------------
-- What One Event Puts Down
------------------------------------------------------------

namespace Questionnaire

/- The value can stand as the answer to the question. -/
structure Prompt.Keeps
    (prompt : Prompt)
    (value : String) : Prop where
  settled : prompt.stored value = value
  offered :
    prompt.kind.isChoice = true → value ∈ prompt.options

namespace Prompt

variable {prompt : Prompt}

/- What a field stores of a text can stand. -/
theorem keeps_of_field
    {validator : Validator}
    (hJudged : Validator.ofKind? prompt.kind = some validator)
    (given : String) :
    prompt.Keeps (prompt.stored given) := by
  refine ⟨?_, ?_⟩
  · simp only [stored_of_field hJudged, Validator.judge_value]
  · intro hChoice
    rw [(Validator.ofKind?_eq_none_iff _).mpr hChoice] at hJudged
    simp at hJudged

/- So can the options of a choice. -/
theorem keeps_of_option
    {value : String}
    (hChoice : prompt.kind.isChoice = true)
    (hOption : value ∈ prompt.options) :
    prompt.Keeps value :=
  ⟨stored_of_choice hChoice value, fun _ => hOption⟩

/- A telephone number stands as it is laid out, and fits. -/
theorem Keeps.phone
    {value : String}
    (hKeeps : prompt.Keeps value)
    (hPhone : prompt.kind = .phone) :
    Phone.format value = value ∧
      value.length ≤ Phone.maxLength := by
  have hStored : prompt.stored value = Phone.format value := by
    simp [stored, hPhone, Validator.ofKind?, Validator.judge]
  have hFixed : Phone.format value = value :=
    hStored.symm.trans hKeeps.settled
  refine ⟨hFixed, ?_⟩
  rw [← hFixed]
  exact Phone.length_format_le value

end Prompt

namespace Session

variable {plan : Plan}
variable {now : Instant}
variable {session next : Session}

/-
  A step leaves all answers as they are, or puts down what was
  typed or chosen at the question on screen.
-/
theorem Step.answers_cases
    {event : Event}
    {outcome : Outcome}
    (hStep : session.Step plan now event next outcome) :
    next.answers = session.answers ∨
      ∃ prompt given,
        plan.promptAt? session.step = some prompt ∧
          (event = .input given ∨ event = .select given ∨
            event = .choose given) ∧
          prompt.Keeps (prompt.stored given) ∧
          next.answers =
            session.answers.insert prompt.id
              (prompt.stored given) := by
  cases hStep with
  | @typed raw prompt validator _ asked judged =>
      refine
        .inr ⟨prompt, raw, asked, .inl rfl,
          Prompt.keeps_of_field judged raw, ?_⟩
      rw [Prompt.stored_of_field judged]
      rfl
  | @picked prompt value _ offers =>
      refine
        .inr ⟨prompt, value, offers.asked, .inr (.inl rfl), ?_⟩
      rw [Prompt.stored_of_choice offers.choice]
      exact
        ⟨Prompt.keeps_of_option offers.choice offers.offered,
          rfl⟩
  | completed _ isReady =>
      rw [complete_answers]
      cases isReady with
      | advanced => exact .inl rfl
      | elapsed => exact .inl rfl
      | @chosen prompt value offers =>
          refine
            .inr ⟨prompt, value, offers.asked,
              .inr (.inr rfl), ?_⟩
          rw [Prompt.stored_of_choice offers.choice]
          exact
            ⟨Prompt.keeps_of_option offers.choice
                offers.offered,
              rfl⟩
  | _ => exact .inl rfl

end Session

end Questionnaire

------------------------------------------------------------
-- What a Run Holds
------------------------------------------------------------

namespace Questionnaire

/-
  Every answer stands under the id of a question that can have
  stored it.
-/
def Plan.Holds
    (plan : Plan)
    (answers : Answers) : Prop :=
  ∀ id value,
    answers.get? id = some value →
      ∃ prompt ∈ plan.prompts,
        prompt.id = id ∧ prompt.Keeps value

namespace Plan.Holds

variable {plan : Plan}
variable {answers : Answers}
variable {prompt : Prompt}

/- No answers stand at the start. -/
theorem start
    (plan : Plan) :
    plan.Holds (Session.start plan).answers := by
  intro id value hAnswer
  simp at hAnswer

/- An answer that its question stored can be put down. -/
theorem insert
    {value : String}
    (hHolds : plan.Holds answers)
    (hPrompt : prompt ∈ plan.prompts)
    (hKeeps : prompt.Keeps value) :
    plan.Holds (answers.insert prompt.id value) := by
  intro id other hAnswer
  rw [Table.get?_insert] at hAnswer
  by_cases hId : id = prompt.id
  · rw [if_pos hId] at hAnswer
    rw [← Option.some.inj hAnswer]
    exact ⟨prompt, hPrompt, hId.symm, hKeeps⟩
  · rw [if_neg hId] at hAnswer
    exact hHolds id other hAnswer

/- Every step keeps the answers so. -/
theorem step
    {now : Instant}
    {session next : Session}
    {event : Event}
    {outcome : Outcome}
    (hHolds : plan.Holds session.answers)
    (hStep : session.Step plan now event next outcome) :
    plan.Holds next.answers := by
  rcases hStep.answers_cases with
    hSame | ⟨prompt, given, hAsked, _, hKeeps, hPut⟩
  · rw [hSame]
    exact hHolds
  · rw [hPut]
    have hPrompt : prompt ∈ plan.prompts :=
      List.mem_of_getElem?
        (Plan.promptAt?_eq_some_iff.mp hAsked).2
    exact hHolds.insert hPrompt hKeeps

/- They are so after every run. -/
theorem sessionAfter
    (plan : Plan)
    (moments : List Moment) :
    plan.Holds (plan.sessionAfter moments).answers :=
  @Session.after_induction plan
    (fun session => plan.Holds session.answers) _
    (start plan) step moments

/- Where ids are distinct, no other question stored it. -/
theorem keeps
    {value : String}
    (hHolds : plan.Holds answers)
    (hDistinct : plan.Distinct)
    (hPrompt : prompt ∈ plan.prompts)
    (hAnswer : answers.get? prompt.id = some value) :
    prompt.Keeps value := by
  rcases hHolds prompt.id value hAnswer with
    ⟨other, hOther, hId, hKeeps⟩
  have hSame : other = prompt :=
    List.inj_on_of_nodup_map hDistinct hOther hPrompt hId
  rw [← hSame]
  exact hKeeps

end Plan.Holds

/-
  In a run of an audited form, an event changes no answer but
  that to the question on screen, and only by typing or
  choosing.  All answers that are held belong to questions: a
  choice has one of its options, and a telephone number is laid
  out in full and fits into its field.
-/
theorem answers_belong_to_questions
    {form : Form}
    {warnings : List Warning}
    (hAudit : form.audit = .ok warnings)
    (delays : Delays)
    (moments : List Moment) :
    let plan := Plan.ofForm form delays
    let session := plan.sessionAfter moments
    (∀ now event,
      (session.handle plan now event).1.answers =
          session.answers ∨
        ∃ prompt given,
          session.screen plan = .question prompt ∧
            (event = .input given ∨ event = .select given ∨
              event = .choose given) ∧
            (session.handle plan now event).1.answers =
              session.answers.insert prompt.id
                (prompt.stored given)) ∧
    ∀ id value,
      session.answers.get? id = some value →
        (∃ prompt ∈ plan.prompts, prompt.id = id) ∧
        ∀ prompt ∈ plan.prompts,
          prompt.id = id →
            (prompt.kind.isChoice = true →
              value ∈ prompt.options) ∧
            (prompt.kind = .phone →
              Phone.format value = value ∧
                value.length ≤ Phone.maxLength) := by
  intro plan session
  have hDistinct : plan.Distinct :=
    Plan.distinct_ofForm hAudit delays
  have hHolds : plan.Holds session.answers :=
    Plan.Holds.sessionAfter plan moments
  refine ⟨?_, ?_⟩
  · intro now event
    rcases (session.step_handle plan now event).answers_cases with
      hSame | ⟨prompt, given, hAsked, hEvent, _, hPut⟩
    · exact .inl hSame
    · exact
        .inr ⟨prompt, given,
          Session.screen_eq_question_iff.mpr hAsked, hEvent,
          hPut⟩
  · intro id value hAnswer
    rcases hHolds id value hAnswer with ⟨prompt, hPrompt, hId, _⟩
    refine ⟨⟨prompt, hPrompt, hId⟩, ?_⟩
    intro asked hAsked hAskedId
    have hKeeps : asked.Keeps value :=
      hHolds.keeps hDistinct hAsked (hAskedId ▸ hAnswer)
    exact ⟨hKeeps.offered, hKeeps.phone⟩

/- A form that asks whom to call, and about what. -/
def Form.callback : Form :=
  { company := { name := "Acme", slug := "acme" }
    questions := [
      { id := "phone"
        kind := .phone
        label := "Phone"
        required := true },
      { id := "email"
        kind := .email
        label := "E-mail"
        order := 1 },
      { id := "size"
        kind := .choiceCards
        label := "Size"
        order := 2
        options := [
          ⟨"small", "Small", "10"⟩,
          ⟨"large", "Large", "30"⟩] }]
    criteria := {
      rules := [⟨"large", "size", .greaterThan, "20"⟩] } }

/- It passes its audit without warnings. -/
theorem Form.audit_callback :
    Form.callback.audit = .ok [] := rfl

/- Its plan. -/
def Plan.callback : Plan :=
  Plan.asListed Form.callback {}

theorem Plan.ofForm_callback :
    Plan.ofForm Form.callback {} = Plan.callback :=
  Plan.ofForm_eq_asListed (by decide) {}

/-
  A respondent who gives a number and no address, and chooses
  a second time after a look back.
-/
def callArranged : List Moment :=
  momentsAt ⟨0, 0⟩ [
    .input "11 98765 4321", .advance, .advance,
    .select "10", .back, .advance, .select "30"]

/- The number and the choice that the session then holds. -/
theorem callArranged_belongs :
    Form.callback.audit = .ok [] ∧
      ((Plan.ofForm Form.callback {}).sessionAfter
        callArranged).answers.rows =
          [("phone", "(11) 98765-4321"), ("size", "30")] ∧
      Phone.format "(11) 98765-4321" = "(11) 98765-4321" ∧
      "(11) 98765-4321".length ≤ Phone.maxLength := by
  have hRows :
      ((Plan.ofForm Form.callback {}).sessionAfter
        callArranged).answers.rows =
          [("phone", "(11) 98765-4321"), ("size", "30")] := by
    rw [Plan.ofForm_callback]
    decide +kernel
  have hNumber :
      ((Plan.ofForm Form.callback {}).sessionAfter
        callArranged).answers.get? "phone" =
          some "(11) 98765-4321" := by
    rw [Table.get?, hRows]
    rfl
  have hBelongs :=
    (answers_belong_to_questions Form.audit_callback {}
      callArranged).2 "phone" _ hNumber
  rw [Plan.ofForm_callback] at hBelongs
  have hPhone :=
    (hBelongs.2
      { id := "phone"
        kind := .phone
        label := "Phone"
        required := true }
      (by decide) rfl).2 rfl
  exact ⟨Form.audit_callback, hRows, hPhone⟩

end Questionnaire
