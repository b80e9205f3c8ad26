import Questionnaire.Proofs.Session.Answering
import Mathlib.Data.List.Find
import Mathlib.Data.List.Induction

/-
  A walk is determined by what its answers are worth.

  Key definitions include:
    * `Answers.answerTo`
    * `Plan.filled`
    * `OnWay`
    * `Plan.reported`
    * `Plan.straight`

  A walk goes from question to question (`OnWay.answered`), so
  the questions before the first one whose answer is rejected
  are passed (`OnWay.walkQuestions_append`) and the walk
  ends there, or else at the end of the plan
  (`Plan.walk_eq_straight`).
-/

------------------------------------------------------------
-- Given Answers
------------------------------------------------------------

namespace Questionnaire

/- The given answer to a question, or else the empty one. -/
def Answers.answerTo
    (given : Answers)
    (prompt : Prompt) : String :=
  (given.get? prompt.id).getD ""

/- A question with what is stored of its given answer. -/
def Prompt.row
    (given : Answers)
    (prompt : Prompt) : String × String :=
  (prompt.id, prompt.stored (given.answerTo prompt))

/- Whether a question takes its given answer. -/
def Prompt.takes
    (given : Answers)
    (prompt : Prompt) : Bool :=
  prompt.admits (given.answerTo prompt)

/- What is said of a given answer that is not taken. -/
def Prompt.objection
    (given : Answers)
    (prompt : Prompt) : WalkError :=
  if prompt.kind.isChoice then
    .unknownOption prompt.id (given.answerTo prompt)
  else
    .invalid prompt.id (given.answerTo prompt)

/- What is stored once all questions are answered. -/
def Plan.filled
    (plan : Plan)
    (given : Answers) : Answers :=
  Table.ofList (plan.prompts.map (·.row given))

/- Put rows into a table, one after another. -/
def putRows
    (answers : Answers)
    (rows : List (String × String)) : Answers :=
  rows.foldl
    (fun answers row => answers.insert row.1 row.2) answers

/- Of the rows with a key the last one answers. -/
theorem get?_putRows
    (answers : Answers)
    (rows : List (String × String))
    (id : String) :
    (putRows answers rows).get? id =
      (rows.reverse.lookup id).or (answers.get? id) := by
  induction rows using List.reverseRecOn with
  | nil => simp [putRows]
  | append_singleton rows row ih =>
      rcases row with ⟨key, value⟩
      unfold putRows at ih ⊢
      rw [List.foldl_append, List.foldl_cons, List.foldl_nil,
        Table.get?_insert, List.reverse_append,
        List.reverse_singleton, List.singleton_append,
        lookup_cons_row, ih]
      by_cases hKey : id = key
      · simp [hKey]
      · simp [hKey]

/- Looking rows up finds the first question with an id. -/
theorem lookup_rows
    (given : Answers)
    (prompts : List Prompt)
    (id : String) :
    (prompts.map (·.row given)).lookup id =
      (prompts.find? (fun prompt => prompt.id == id)).map
        (fun prompt => prompt.stored (given.answerTo prompt)) := by
  induction prompts with
  | nil => rfl
  | cons prompt prompts ih =>
      rw [List.map_cons, Prompt.row, lookup_cons_row, ih,
        List.find?_cons]
      by_cases hId : prompt.id = id
      · simp [hId]
      · have hBeq : (prompt.id == id) = false := by
          simpa using hId
        rw [if_neg (Ne.symm hId), hBeq]

/- What is stored for an id is the answer to its last question. -/
theorem Plan.get?_filled
    (plan : Plan)
    (given : Answers)
    (id : String) :
    (plan.filled given).get? id =
      (plan.prompts.reverse.find?
          (fun prompt => prompt.id == id)).map
        (fun prompt => prompt.stored (given.answerTo prompt)) := by
  have hRows :=
    get?_putRows .empty (plan.prompts.map (·.row given)) id
  rw [Table.get?_empty, Option.or_none, ← List.map_reverse,
    lookup_rows] at hRows
  exact hRows

end Questionnaire

------------------------------------------------------------
-- On the Way
------------------------------------------------------------

namespace Questionnaire

/-
  A session that has answered some questions of a plan straight
  on.  None of the steps before it is locked, and at the end it
  has its verdict.
-/
structure OnWay
    (plan : Plan)
    (passed : Nat)
    (answers : Answers)
    (session : Session) : Prop where
  place : session.step = passed + 1
  held : session.answers = answers
  straight : session.editing = false
  unfinished : session.finished = false
  behind : ∀ place ∈ session.locked, place ≤ passed
  judged :
    passed = plan.prompts.length →
      session.qualified = plan.criteria.qualifies answers

namespace OnWay

variable {plan : Plan}
variable {passed : Nat}
variable {answers : Answers}
variable {session ready : Session}
variable {prompt : Prompt}
variable {value : String}

/- The first session has answered nothing. -/
theorem start
    (plan : Plan) :
    OnWay plan 0 .empty (Session.start plan) where
  place := Session.start_step plan
  held := Session.start_answers plan
  straight := Session.start_editing plan
  unfinished := Session.start_finished plan
  behind := by simp
  judged hNone := by
    have hPrompts := List.eq_nil_of_length_eq_zero hNone.symm
    simp [Session.start, Session.goToReview, hPrompts]

/- The step on screen is not locked. -/
theorem unlocked
    (hWay : OnWay plan passed answers session) :
    session.step ∉ session.locked := by
  intro hLocked
  have hBehind := hWay.behind session.step hLocked
  rw [hWay.place] at hBehind
  omega

/- Answering the question on screen is one step on the way. -/
theorem answered
    (hWay : OnWay plan passed answers session)
    (hLt : passed < plan.prompts.length)
    (hAnswered : session.Answered prompt value ready) :
    OnWay plan (passed + 1) (answers.insert prompt.id value)
      (ready.complete plan).1 := by
  have hStep : ready.step = passed + 1 :=
    hAnswered.step.trans hWay.place
  have hEditing : ready.editing = false :=
    hAnswered.editing.trans hWay.straight
  have hFinished : ready.finished = false :=
    hAnswered.finished.trans hWay.unfinished
  have hAnswers :
      ready.answers = answers.insert prompt.id value := by
    rw [hAnswered.answers, hWay.held]
  have hBehind : ∀ place ∈ ready.locked, place ≤ passed + 1 := by
    intro place hLocked
    rcases hAnswered.locked place hLocked with hHere | hBefore
    · exact Nat.le_of_eq (hHere.trans hWay.place)
    · exact Nat.le_succ_of_le (hWay.behind place hBefore)
  rcases ready.complete_cases plan with
    ⟨hReturns, hComplete⟩ | ⟨⟨_, hNext⟩, hComplete⟩
  · -- The last question is answered, so the review comes next.
    have hLast : passed + 1 = plan.prompts.length := by
      have hLe : plan.prompts.length ≤ ready.step := by
        simpa [hEditing] using hReturns
      omega
    rw [hComplete]
    refine ⟨?_, hAnswers, rfl, hFinished, ?_, ?_⟩
    · rw [Session.goTo_step, Plan.stepOfReview, hLast]
    · intro place hLocked
      rcases (Session.mem_goTo_locked _ _ _).mp hLocked with
        ⟨hReady, _⟩
      exact hBehind place hReady
    · intro _
      rw [← hAnswers]
      rfl
  · rw [hComplete]
    refine ⟨?_, hAnswers, hEditing, hFinished, ?_, ?_⟩
    · rw [Session.goTo_step, hStep]
    · intro place hLocked
      rcases (Session.mem_goTo_locked _ _ _).mp hLocked with
        ⟨hReady, _⟩
      exact hBehind place hReady
    · intro hLast
      omega

end OnWay

end Questionnaire

------------------------------------------------------------
-- Passing Questions
------------------------------------------------------------

namespace Questionnaire

namespace OnWay

variable {plan : Plan}
variable {now : Instant}
variable {given answers : Answers}
variable {passed : Nat}
variable {session : Session}
variable {prompt : Prompt}

/- The question on screen is the next one of the plan. -/
theorem asked
    (hWay : OnWay plan passed answers session)
    (hPrompt : plan.prompts[passed]? = some prompt) :
    plan.promptAt? session.step = some prompt := by
  rw [hWay.place]
  exact hPrompt

/- A question that takes its answer is passed. -/
theorem walkQuestions_of_takes
    (now : Instant)
    (hWay : OnWay plan passed answers session)
    (hPrompt : plan.prompts[passed]? = some prompt)
    (hTakes : prompt.takes given = true) :
    ∃ next,
      OnWay plan (passed + 1)
          (putRows answers [prompt.row given]) next ∧
        ∀ rounds,
          walkQuestions plan now given (rounds + 1) session =
            walkQuestions plan now given rounds next := by
  have hAsked := hWay.asked hPrompt
  have hLt := (List.getElem?_eq_some_iff.mp hPrompt).1
  rcases
      Session.walkStep_of_admits now hWay.unfinished hAsked
        hWay.unlocked hTakes with
    ⟨ready, hAnswered, hStep⟩
  have hNext := hWay.answered hLt hAnswered
  rcases ready.complete_transition plan with
    ⟨destination, hMoved⟩
  generalize ready.complete plan = result
    at hStep hNext hMoved
  rcases result with ⟨next, transition⟩
  simp only at hMoved
  refine ⟨next, hNext, ?_⟩
  intro rounds
  have hScreen := Session.screen_eq_question_iff.mpr hAsked
  rw [walkQuestions, hScreen]
  simp only
  rw [← Answers.answerTo, hStep, hMoved]

/- A question that does not take its answer ends the walk. -/
theorem walkQuestions_of_not_takes
    (hWay : OnWay plan passed answers session)
    (hPrompt : plan.prompts[passed]? = some prompt)
    (hRejects : prompt.takes given = false)
    (rounds : Nat) :
    walkQuestions plan now given (rounds + 1) session =
      .error (prompt.objection given) := by
  have hAsked := hWay.asked hPrompt
  have hScreen := Session.screen_eq_question_iff.mpr hAsked
  have hRefused :=
    Session.walkStep_of_not_admits now hWay.unfinished hAsked
      hWay.unlocked hRejects
  generalize hResult :
      walkStep plan now prompt (given.answerTo prompt) session =
        result
    at hRefused
  rcases result with ⟨next, transition⟩
  simp only at hRefused
  rw [walkQuestions, hScreen]
  simp only
  rw [← Answers.answerTo, hResult, hRefused]
  unfold Prompt.objection Prompt.refusal
  cases prompt.kind.isChoice with
  | true => rfl
  | false => rfl

/- Questions that take their answers are all passed. -/
theorem walkQuestions_append
    {earlier taking later : List Prompt}
    (now : Instant)
    (hWay : OnWay plan earlier.length answers session)
    (hPrompts : plan.prompts = earlier ++ (taking ++ later))
    (hTakes : ∀ prompt ∈ taking, prompt.takes given = true) :
    ∃ next,
      OnWay plan (earlier.length + taking.length)
          (putRows answers (taking.map (·.row given))) next ∧
        ∀ rounds,
          walkQuestions plan now given (taking.length + rounds)
              session =
            walkQuestions plan now given rounds next := by
  induction taking generalizing earlier answers session with
  | nil =>
      refine ⟨session, hWay, ?_⟩
      intro rounds
      rw [List.length_nil, Nat.zero_add]
  | cons prompt taking ih =>
      have hPrompt :
          plan.prompts[earlier.length]? = some prompt := by
        simp [hPrompts]
      rcases
          hWay.walkQuestions_of_takes now hPrompt
            (hTakes prompt List.mem_cons_self) with
        ⟨next, hNext, hRounds⟩
      have hLength :
          earlier.length + 1 = (earlier ++ [prompt]).length := by
        simp
      rw [hLength] at hNext
      rcases
          ih hNext (by simp [hPrompts])
            (fun other hOther =>
              hTakes other (List.mem_cons_of_mem _ hOther)) with
        ⟨last, hLast, hRest⟩
      refine ⟨last, ?_, ?_⟩
      · rw [List.length_cons, Nat.add_comm taking.length,
          ← Nat.add_assoc, hLength]
        exact hLast
      · intro rounds
        rw [List.length_cons, Nat.add_right_comm, hRounds, hRest]

/- Past the last question the review is on screen. -/
theorem screen_eq_review
    (hWay : OnWay plan plan.prompts.length answers session) :
    session.screen plan = .review :=
  Session.screen_eq_review_iff.mpr hWay.place

/- There a walk has asked its last question. -/
theorem walkQuestions_of_past
    (hWay : OnWay plan plan.prompts.length answers session)
    (rounds : Nat) :
    walkQuestions plan now given rounds session = .ok session := by
  cases rounds with
  | zero => rfl
  | succ rounds => rw [walkQuestions, hWay.screen_eq_review]

/- From the review a walk gets to a submission. -/
theorem walkEnd_eq
    (now : Instant)
    (hWay : OnWay plan plan.prompts.length answers session)
    (decline : Bool) :
    ∃ last,
      walkEnd plan now decline session =
          .ok (last, .submitted
            (.make
              (.ofVerdict (session.qualified && !decline))
              plan.targets answers now)) ∧
        last.step =
          if session.qualified then
            plan.stepOfCommitment
          else
            plan.stepOfReview := by
  have hReview := hWay.screen_eq_review
  have hOpen := hWay.unfinished
  cases hQualified : session.qualified with
  | true =>
      have hConfirm :
          session.confirm plan now =
            session.goTo plan.stepOfCommitment := by
        simp [Session.confirm, hOpen, hReview, hQualified]
      have hScreen :
          (session.goTo plan.stepOfCommitment).1.screen plan =
            .commitment := by
        apply Session.screen_eq_commitment_iff.mpr
        exact .inr (Nat.lt_succ_self _)
      have hCommit :
          (session.goTo plan.stepOfCommitment).1.commit plan now
              (!decline) =
            (session.goTo plan.stepOfCommitment).1.submit plan now
              (.ofVerdict (!decline)) := by
        simp [Session.commit, hOpen, hScreen]
      refine ⟨(session.goTo plan.stepOfCommitment).1.ended, ?_,
        rfl⟩
      unfold walkEnd
      rw [if_pos hQualified, hConfirm]
      simp only [Session.goTo] at hCommit ⊢
      rw [hCommit, ← hWay.held]
      rfl
  | false =>
      have hConfirm :
          session.confirm plan now =
            session.submit plan now .disqualified := by
        simp [Session.confirm, hOpen, hReview, hQualified]
      refine ⟨session.ended, ?_, hWay.place⟩
      unfold walkEnd
      rw [if_neg (by simp [hQualified]), hConfirm,
        ← hWay.held]
      rfl

end OnWay

end Questionnaire

------------------------------------------------------------
-- The Whole Walk
------------------------------------------------------------

namespace Questionnaire

namespace Plan

/- What is reported where all answers are taken. -/
def reported
    (plan : Plan)
    (now : Instant)
    (given : Answers)
    (decline : Bool) : Report :=
  let answers := plan.filled given
  let qualified := plan.criteria.qualifies answers
  { qualified := qualified
    finalStep :=
      if qualified then
        plan.stepOfCommitment
      else
        plan.stepOfReview
    submission :=
      .make (.ofVerdict (qualified && !decline))
        plan.targets answers now }

/-
  What a walk comes to, said without a session: an objection to
  the first answer that is not taken, or the submission of all
  answers as they are stored.
-/
def straight
    (plan : Plan)
    (now : Instant)
    (given : Answers)
    (decline : Bool) : Except WalkError Report :=
  match plan.prompts.find? (fun prompt => !prompt.takes given) with
  | some prompt => .error (prompt.objection given)
  | none => .ok (plan.reported now given decline)

variable {plan : Plan}
variable {now : Instant}
variable {given : Answers}

/- With enough rounds a walk that goes on gets to the review. -/
theorem walkQuestions_of_all
    (now : Instant)
    (hTakes :
      ∀ prompt ∈ plan.prompts, prompt.takes given = true) :
    ∃ session,
      OnWay plan plan.prompts.length (plan.filled given)
          session ∧
        ∀ rounds, plan.prompts.length ≤ rounds →
          walkQuestions plan now given rounds
              (Session.start plan) =
            .ok session := by
  have hStart :
      OnWay plan ([] : List Prompt).length _ (Session.start plan) :=
    OnWay.start plan
  have hAll : plan.prompts = [] ++ (plan.prompts ++ []) := by
    simp
  rcases hStart.walkQuestions_append now hAll hTakes with
    ⟨session, hWay, hRounds⟩
  rw [List.length_nil, Nat.zero_add] at hWay
  refine ⟨session, hWay, ?_⟩
  intro rounds hEnough
  rcases Nat.exists_eq_add_of_le hEnough with ⟨more, hMore⟩
  rw [hMore, hRounds]
  exact hWay.walkQuestions_of_past more

/- It ends at the first question that does not take its answer. -/
theorem walkQuestions_of_first
    {earlier later : List Prompt}
    {prompt : Prompt}
    (now : Instant)
    (hPrompts : plan.prompts = earlier ++ prompt :: later)
    (hTakes : ∀ other ∈ earlier, other.takes given = true)
    (hRejects : prompt.takes given = false)
    {rounds : Nat}
    (hEnough : plan.prompts.length ≤ rounds) :
    walkQuestions plan now given rounds (Session.start plan) =
      .error (prompt.objection given) := by
  have hStart :
      OnWay plan ([] : List Prompt).length _ (Session.start plan) :=
    OnWay.start plan
  rcases hStart.walkQuestions_append now hPrompts hTakes with
    ⟨session, hWay, hRounds⟩
  rw [List.length_nil, Nat.zero_add] at hWay
  have hPrompt : plan.prompts[earlier.length]? = some prompt := by
    simp [hPrompts]
  have hLength :
      plan.prompts.length = earlier.length + (later.length + 1) := by
    simp [hPrompts]
  rw [hLength] at hEnough
  rcases Nat.exists_eq_add_of_le hEnough with ⟨more, hMore⟩
  have hMore' :
      rounds = earlier.length + (later.length + more + 1) := by
    omega
  rw [hMore', hRounds]
  exact hWay.walkQuestions_of_not_takes hPrompt hRejects _

/- All answers are taken, or there is a first that is not. -/
theorem takes_or_first
    (plan : Plan)
    (given : Answers) :
    (∀ prompt ∈ plan.prompts, prompt.takes given = true) ∨
      ∃ earlier prompt later,
        plan.prompts = earlier ++ prompt :: later ∧
          (∀ other ∈ earlier, other.takes given = true) ∧
          prompt.takes given = false := by
  cases hFind :
      plan.prompts.find? (fun prompt => !prompt.takes given) with
  | none =>
      refine .inl ?_
      simpa using List.find?_eq_none.mp hFind
  | some prompt =>
      rcases List.find?_eq_some_iff_append.mp hFind with
        ⟨hRejects, earlier, later, hPrompts, hTakes⟩
      refine .inr ⟨earlier, prompt, later, hPrompts, ?_, ?_⟩
      · simpa using hTakes
      · simpa using hRejects

/- If all answers are taken, the straight walk submits them. -/
theorem straight_of_all
    (decline : Bool)
    (hTakes :
      ∀ prompt ∈ plan.prompts, prompt.takes given = true) :
    plan.straight now given decline =
      .ok (plan.reported now given decline) := by
  have hNone :
      plan.prompts.find? (fun prompt => !prompt.takes given) =
        none := by
    simpa using hTakes
  rw [straight, hNone]

/- The first answer that is not taken is objected to. -/
theorem straight_of_first
    {earlier later : List Prompt}
    {prompt : Prompt}
    (decline : Bool)
    (hPrompts : plan.prompts = earlier ++ prompt :: later)
    (hTakes : ∀ other ∈ earlier, other.takes given = true)
    (hRejects : prompt.takes given = false) :
    plan.straight now given decline =
      .error (prompt.objection given) := by
  have hFirst :
      plan.prompts.find? (fun prompt => !prompt.takes given) =
        some prompt := by
    refine List.find?_eq_some_iff_append.mpr ⟨?_, earlier, later, ?_⟩
    · simpa using hRejects
    · exact ⟨hPrompts, by simpa using hTakes⟩
  rw [straight, hFirst]

/- A round for each question is enough; more change nothing. -/
theorem walkQuestions_of_enough
    (rounds : Nat)
    (hEnough : plan.prompts.length ≤ rounds) :
    walkQuestions plan now given rounds (Session.start plan) =
      walkQuestions plan now given plan.prompts.length
        (Session.start plan) := by
  rcases plan.takes_or_first given with
    hTakes | ⟨earlier, prompt, later, hPrompts, hTakes, hRejects⟩
  · rcases walkQuestions_of_all now hTakes with
      ⟨session, _, hWalk⟩
    rw [hWalk rounds hEnough, hWalk _ (Nat.le_refl _)]
  · rw [walkQuestions_of_first now hPrompts hTakes hRejects hEnough,
      walkQuestions_of_first now hPrompts hTakes hRejects
        (Nat.le_refl _)]

/- A walk that has asked all it asks stands at the review. -/
theorem screen_of_walkQuestions
    (session : Session)
    (hWalk :
      walkQuestions plan now given plan.prompts.length
        (Session.start plan) = .ok session) :
    session.screen plan = .review := by
  rcases plan.takes_or_first given with
    hTakes | ⟨earlier, prompt, later, hPrompts, hTakes, hRejects⟩
  · rcases walkQuestions_of_all now hTakes with
      ⟨last, hWay, hLast⟩
    rw [hLast _ (Nat.le_refl _)] at hWalk
    rw [← Except.ok.inj hWalk]
    exact hWay.screen_eq_review
  · rw [walkQuestions_of_first now hPrompts hTakes hRejects
      (Nat.le_refl _)] at hWalk
    simp at hWalk

/- A walk comes to what is said without a session. -/
theorem walk_eq_straight
    (plan : Plan)
    (now : Instant)
    (given : Answers)
    (decline : Bool) :
    plan.walk now given decline =
      plan.straight now given decline := by
  rcases plan.takes_or_first given with
    hTakes | ⟨earlier, prompt, later, hPrompts, hTakes, hRejects⟩
  · rcases walkQuestions_of_all now hTakes with
      ⟨session, hWay, hWalk⟩
    rcases hWay.walkEnd_eq now decline with
      ⟨last, hEnd, hStep⟩
    rw [straight_of_all decline hTakes, walk, hWalk _ (Nat.le_refl _)]
    simp only [bind, Except.bind]
    rw [hEnd]
    simp only [pure, Except.pure]
    rw [hStep, hWay.judged rfl]
    rfl
  · rw [straight_of_first decline hPrompts hTakes hRejects, walk,
      walkQuestions_of_first now hPrompts hTakes hRejects
        (Nat.le_refl _)]
    rfl

/- Answers to other ids make no difference. -/
theorem straight_congr
    {others : Answers}
    (decline : Bool)
    (hSame :
      ∀ prompt ∈ plan.prompts,
        others.get? prompt.id = given.get? prompt.id) :
    plan.straight now others decline =
      plan.straight now given decline := by
  have hAnswer :
      ∀ prompt ∈ plan.prompts,
        others.answerTo prompt = given.answerTo prompt := by
    intro prompt hPrompt
    unfold Answers.answerTo
    rw [hSame prompt hPrompt]
  have hFilled : plan.filled others = plan.filled given := by
    unfold filled
    congr 1
    apply List.map_congr_left
    intro prompt hPrompt
    unfold Prompt.row
    rw [hAnswer prompt hPrompt]
  have hFind :
      plan.prompts.find? (fun prompt => !prompt.takes others) =
        plan.prompts.find? (fun prompt => !prompt.takes given) := by
    apply List.find?_congr
    intro prompt hPrompt
    unfold Prompt.takes
    rw [hAnswer prompt hPrompt]
  unfold straight reported
  rw [hFind, hFilled]
  cases hFound :
      plan.prompts.find? (fun prompt => !prompt.takes given) with
  | none => rfl
  | some prompt =>
      have hPrompt := List.mem_of_find?_eq_some hFound
      simp only [Prompt.objection, hAnswer prompt hPrompt]

end Plan

end Questionnaire

------------------------------------------------------------
-- What a Walk Comes To
------------------------------------------------------------

namespace Questionnaire

namespace Plan

variable {plan : Plan}
variable {now : Instant}
variable {given : Answers}
variable {decline : Bool}

/- A walk gets to its end exactly if all answers are taken. -/
theorem exists_straight_eq_ok_iff :
    (∃ report, plan.straight now given decline = .ok report) ↔
      ∀ prompt ∈ plan.prompts, prompt.takes given = true := by
  constructor
  · rintro ⟨report, hReport⟩
    rcases plan.takes_or_first given with
      hTakes | ⟨earlier, prompt, later, hPrompts, hTakes, hRejects⟩
    · exact hTakes
    · rw [straight_of_first decline hPrompts hTakes hRejects]
        at hReport
      cases hReport
  · intro hTakes
    exact ⟨_, straight_of_all decline hTakes⟩

/- Otherwise it objects to the first answer that is not taken. -/
theorem first_of_straight_eq_error
    {error : WalkError}
    (hError : plan.straight now given decline = .error error) :
    ∃ earlier prompt later,
      plan.prompts = earlier ++ prompt :: later ∧
        (∀ other ∈ earlier, other.takes given = true) ∧
        prompt.takes given = false ∧
        error = prompt.objection given := by
  rcases plan.takes_or_first given with
    hTakes | ⟨earlier, prompt, later, hPrompts, hTakes, hRejects⟩
  · rw [straight_of_all decline hTakes] at hError
    cases hError
  · rw [straight_of_first decline hPrompts hTakes hRejects] at hError
    exact
      ⟨earlier, prompt, later, hPrompts, hTakes, hRejects,
        (Except.error.inj hError).symm⟩

/- At its end it reports on the answers as they are stored. -/
theorem report_of_straight_eq_ok
    {report : Report}
    (hReport : plan.straight now given decline = .ok report) :
    report = plan.reported now given decline := by
  have hTakes := exists_straight_eq_ok_iff.mp ⟨report, hReport⟩
  rw [straight_of_all decline hTakes] at hReport
  exact (Except.ok.inj hReport).symm

/- So the verdict says where it ends, and with which status. -/
theorem eq_of_straight_eq_ok
    {report : Report}
    (hReport : plan.straight now given decline = .ok report) :
    report.qualified =
        plan.criteria.qualifies (plan.filled given) ∧
      report.finalStep =
        (if report.qualified then
          plan.prompts.length + 2
        else
          plan.prompts.length + 1) ∧
      (report.submission.status.name = "qualificado" ↔
        report.qualified = true ∧ decline = false) ∧
      report.submission =
        .make report.submission.status plan.targets
          (plan.filled given) now := by
  rw [report_of_straight_eq_ok hReport]
  refine ⟨rfl, rfl, ?_, rfl⟩
  simp only [reported]
  cases plan.criteria.qualifies (plan.filled given) with
  | false => simp [Submission.make, Status.ofVerdict, Status.name]
  | true =>
      cases decline with
      | false => simp [Submission.make, Status.ofVerdict, Status.name]
      | true => simp [Submission.make, Status.ofVerdict, Status.name]

end Plan

/-
  A walk asks no more questions than its plan has, and ends at
  the review if it asks them all.  It gets to a submission
  exactly if every question takes its given answer; or else it
  objects to the first one that does not, and to nothing else.
  What it submits is determined by the answers as they are
  stored, of which the last one for an id counts, and given
  answers for other ids make no difference.
-/
theorem walk_determined_by_answers
    (plan : Plan)
    (now : Instant)
    (given : Answers)
    (decline : Bool) :
    (∀ rounds, plan.prompts.length ≤ rounds →
      walkQuestions plan now given rounds (Session.start plan) =
        walkQuestions plan now given plan.prompts.length
          (Session.start plan)) ∧
    (∀ session,
      walkQuestions plan now given plan.prompts.length
          (Session.start plan) = .ok session →
        session.screen plan = .review) ∧
    ((∃ report, plan.walk now given decline = .ok report) ↔
      ∀ prompt ∈ plan.prompts,
        prompt.admits (given.answerTo prompt) = true) ∧
    (∀ error,
      plan.walk now given decline = .error error →
        ∃ earlier prompt later,
          plan.prompts = earlier ++ prompt :: later ∧
          (∀ other ∈ earlier,
            other.admits (given.answerTo other) = true) ∧
          prompt.admits (given.answerTo prompt) = false ∧
          error =
            if prompt.kind.isChoice then
              .unknownOption prompt.id (given.answerTo prompt)
            else
              .invalid prompt.id (given.answerTo prompt)) ∧
    (∀ report,
      plan.walk now given decline = .ok report →
        report.qualified =
          plan.criteria.qualifies (plan.filled given) ∧
        report.finalStep =
          (if report.qualified then
            plan.prompts.length + 2
          else
            plan.prompts.length + 1) ∧
        (report.submission.status.name = "qualificado" ↔
          report.qualified = true ∧ decline = false) ∧
        report.submission =
          .make report.submission.status plan.targets
            (plan.filled given) now) ∧
    (∀ id,
      (plan.filled given).get? id =
        (plan.prompts.reverse.find?
            (fun prompt => prompt.id == id)).map
          (fun prompt =>
            prompt.stored (given.answerTo prompt))) ∧
    ∀ others : Answers,
      (∀ prompt ∈ plan.prompts,
        others.get? prompt.id = given.get? prompt.id) →
      plan.walk now others decline =
        plan.walk now given decline := by
  simp only [Plan.walk_eq_straight]
  refine
    ⟨Plan.walkQuestions_of_enough,
      Plan.screen_of_walkQuestions,
      Plan.exists_straight_eq_ok_iff, ?_, ?_,
      plan.get?_filled given, ?_⟩
  · intro error hError
    exact Plan.first_of_straight_eq_error hError
  · intro report hReport
    exact Plan.eq_of_straight_eq_ok hReport
  · intro others hSame
    exact Plan.straight_congr decline hSame

end Questionnaire
