import Questionnaire.Proofs.Document.StepText
import Questionnaire.Proofs.Session.Acceptance

/-
  The controls on a page agree with what a session can do.

  Key definitions include:
    * `landmarksAt`
    * `StepText.Of`
    * `StepBlock.Agrees`

  The text of a form is made of the texts of the steps of its
  plan, in their order (`exists_stepTexts_page`).  The block of a
  step has the controls that the plan asks for at the step, and
  no others, whatever texts the form shows
  (`controls_agree_with_plan`).
-/

------------------------------------------------------------
-- The Landmarks of a Plan
------------------------------------------------------------

namespace Questionnaire.Document

/- The landmarks of a step that is no question. -/
def lastLandmarks
    (plan : Plan)
    (step : Nat) : List Landmark :=
  if step = plan.stepOfReview then
    [.confirm]
  else
    [.commit, .commit]

/- The landmarks of a step of a plan, after its number. -/
def landmarksAt
    (plan : Plan)
    (step : Nat) : List Landmark :=
  (if 1 < step then [.back] else [])
    ++ match plan.promptAt? step with
      | some prompt => promptLandmarks prompt
      | none => lastLandmarks plan step

/- The landmarks of a step are not of another one. -/
theorem within_landmarksAt
    {plan : Plan}
    {step : Nat}
    {landmark : Landmark}
    (hMem : landmark ∈ landmarksAt plan step) :
    landmark ≠ .step ∧ landmark ≠ .formEnd := by
  have hPrompt (prompt : Prompt) :
      ∀ landmark ∈ promptLandmarks prompt,
        landmark ≠ .step ∧ landmark ≠ .formEnd := by
    intro landmark hMem
    unfold promptLandmarks at hMem
    split at hMem
    · rcases List.mem_map.mp hMem with ⟨option, _, hEq⟩
      rw [← hEq]
      decide
    · rcases List.mem_pair.mp hMem with hEq | hEq
      · rw [hEq]
        decide
      · rw [hEq]
        cases prompt.required <;> decide
  have hLast :
      ∀ landmark ∈ lastLandmarks plan step,
        landmark ≠ .step ∧ landmark ≠ .formEnd := by
    unfold lastLandmarks
    split <;> decide
  rcases List.mem_append.mp hMem with hBack | hControl
  · split at hBack
    · rw [List.mem_singleton.mp hBack]
      decide
    · exact absurd hBack List.not_mem_nil
  · split at hControl
    · exact hPrompt _ _ hControl
    · exact hLast _ hControl

end Questionnaire.Document

------------------------------------------------------------
-- The Steps of a Page
------------------------------------------------------------

namespace Questionnaire.Document

/- The text of a step of a plan. -/
structure StepText.Of
    (plan : Plan)
    (step : Nat)
    (item : StepText) : Prop where
  sound : item.Sound
  number : item.step = step
  first : item.active = (step == (Session.start plan).step)
  landmarks : item.found = landmarksAt plan step

variable {layout : Layout}
variable {step : Nat}
variable {found : List Landmark}
variable {pieces : List Piece}
variable {plan : Plan}

/- The digits of a number are written as they are. -/
theorem escaped_toString
    (n : Nat) :
    (toString n).toList.flatMap escapedChar =
      (toString n).toList := by
  have hDigits :
      ∀ c ∈ (toString n).toList, escapedChar c = [c] := by
    intro c hMem
    apply escapedChar_of_isSmallHexDigit
    unfold isSmallHexDigit
    rw [isDigit_of_mem_toString hMem, Bool.true_or]
  rw [List.flatMap_congr hDigits]
  exact List.flatMap_singleton' _

/- A text without line breaks is not broken when it is indented. -/
theorem indentLines_eq_self
    {text : List Char}
    (hText : '\n' ∉ text) :
    indentLines text = text := by
  induction text with
  | nil => rfl
  | cons c text ih =>
      rcases List.ne_and_not_mem_of_not_mem_cons hText with
        ⟨hChar, hRest⟩
      rw [indentLines_cons hChar.symm, ih hRest]

/- No line begins after a number. -/
theorem startsLine_toString
    (n : Nat) :
    startsLine false (toString n).toList = false := by
  rcases unbroken_toString n with ⟨hBreak, hReturn⟩
  unfold startsLine
  cases hLast : (toString n).toList.getLast? with
  | none => rfl
  | some last =>
      have hNotBreak : last ≠ '\n' :=
        fun hEq => hBreak (hEq ▸ List.mem_of_getLast? hLast)
      have hNotReturn : last ≠ '\r' :=
        fun hEq => hReturn (hEq ▸ hLast)
      simp [endsLine, hNotBreak, hNotReturn]

/- A number is written first, and then its attribute ends. -/
theorem Numbered.exists_text
    (hPieces : Numbered layout step found pieces) :
    ∃ rest,
      layout.textOf false pieces =
        (toString step).toList ++ '"' :: rest := by
  rcases hPieces.begins with
    ⟨text, chars, more, rest, hEq, hText, hChars⟩
  have hMarkup : (Piece.markup text).written = '"' :: more := by
    rw [Piece.written, hText, String.toList_ofList, hChars]
  have hNumber :
      (shownNumber step).written = (toString step).toList :=
    escaped_toString step
  rw [hEq]
  cases layout with
  | asIs =>
      refine ⟨more ++ written rest, ?_⟩
      rw [Layout.textOf, written, List.flatMap_cons,
        List.flatMap_cons, hMarkup, hNumber]
      rfl
  | indented =>
      have hDigits :
          indentedPiece false (toString step).toList =
            (toString step).toList := by
        have hNone :
            indentBefore false (toString step).toList = [] := by
          unfold indentBefore
          split <;> rfl
        rw [indentedPiece, hNone, List.nil_append,
          indentLines_eq_self (unbroken_toString step).1]
      have hQuote :
          indentedPiece false ('"' :: more) =
            '"' :: indentLines more :=
        indentLines_cons (by decide) more
      rw [Layout.textOf, List.map_cons, List.map_cons,
        indentedFrom_cons, indentedFrom_cons, hMarkup, hNumber,
        startsLine_toString, hDigits, hQuote]
      exact ⟨_, rfl⟩

/- The text of a step from the pieces after its number's mark. -/
theorem Numbered.exists_stepText
    (hPieces : Numbered layout step (landmarksAt plan step) pieces)
    {lead : List Char}
    (hLead : BearsText lead []) :
    ∃ item,
      StepText.Of plan step item ∧
        item.chars =
          lead ++ stepTag (step == 1)
            ++ (Landmark.step.chars
              ++ layout.textOf false pieces) := by
  rcases hPieces.exists_text with ⟨rest, hText⟩
  have hBody := hPieces.bears false
  rw [hText] at hBody
  refine ⟨⟨lead, step == 1, step, rest, landmarksAt plan step⟩,
    ⟨⟨hLead, hBody, fun _ => within_landmarksAt⟩, rfl, ?_, rfl⟩,
    ?_⟩
  · rw [Session.start_step]
  · rw [hText]
    rfl

/- The tag of a step, indented. -/
theorem indented_stepTag
    (active : Bool)
    (pieces : List Piece) :
    indented
        (.markup "      <div class=\"step"
          :: whenTrue active [.markup " active"]
          ++ .markup "\" data-step=\"" :: pieces) =
      "          ".toList ++ stepTag active
        ++ (Landmark.step.chars
          ++ Layout.indented.textOf false pieces) := by
  unfold indented Layout.textOf
  cases active with
  | false =>
      simp only [whenTrue, List.cons_append, List.map_cons,
        indentedFrom_cons]
      rfl
  | true =>
      simp only [whenTrue, List.cons_append, List.map_cons,
        indentedFrom_cons]
      rfl

/- The tag of the review. -/
theorem written_reviewTag
    (active : Bool)
    (pieces : List Piece) :
    written
        (.markup "\n      <div class=\"step"
          :: whenTrue active [.markup " active"]
          ++ .markup "\" data-step=\"" :: pieces) =
      "\n      ".toList ++ stepTag active
        ++ (Landmark.step.chars
          ++ Layout.asIs.textOf false pieces) := by
  cases active <;> rfl

/- The tag of the commitment. -/
theorem written_commitmentTag
    (pieces : List Piece) :
    written
        (.markup "      <div class=\"step\" data-step=\""
          :: pieces) =
      "      ".toList ++ stepTag false
        ++ (Landmark.step.chars
          ++ Layout.asIs.textOf false pieces) :=
  rfl

end Questionnaire.Document

------------------------------------------------------------
-- The Form of a Page
------------------------------------------------------------

namespace Questionnaire.Document

variable {form : Form}
variable {plan : Plan}

/- The question of a step has a text. -/
theorem exists_stepText_question
    {question : Question}
    {step : Nat}
    (hPrompt :
      plan.promptAt? step = some (Prompt.ofQuestion question))
    (last : Nat) :
    ∃ item,
      StepText.Of plan step item ∧
        item.chars = indented (stepPieces step last question) := by
  rcases numbered_stepPieces step last question with
    ⟨pieces, hPieces, hNumbered⟩
  have hLandmarks :
      (if 1 < step then [.back] else [])
          ++ promptLandmarks (Prompt.ofQuestion question) =
        landmarksAt plan step := by
    unfold landmarksAt
    rw [hPrompt]
  have hLead : BearsText "          ".toList [] :=
    bearsText_blanks (by simp)
  rw [hLandmarks] at hNumbered
  rcases hNumbered.exists_stepText hLead with
    ⟨item, hItem, hChars⟩
  refine ⟨item, hItem, ?_⟩
  rw [hPieces, hChars, indented_stepTag]

/- The texts of some questions, from a step on. -/
theorem exists_stepTexts_questions
    (last : Nat)
    {questions : List Question}
    {index : Nat}
    (hPrompts :
      ∀ other question, questions[other]? = some question →
        plan.promptAt? (index + other + 1) =
          some (Prompt.ofQuestion question)) :
    ∃ items,
      List.Forall₂ (StepText.Of plan)
          (List.range' (index + 1) questions.length) items ∧
        items.flatMap StepText.chars =
          ((questions.zipIdx index).map
            (fun (question, index) =>
              indented
                (stepPieces (index + 1) last question))).flatten := by
  induction questions generalizing index with
  | nil => exact ⟨[], .nil, rfl⟩
  | cons question questions ih =>
      rcases
          exists_stepText_question (hPrompts 0 question rfl)
            last with
        ⟨item, hItem, hChars⟩
      have hMore :
          ∀ other question, questions[other]? = some question →
            plan.promptAt? (index + 1 + other + 1) =
              some (Prompt.ofQuestion question) := by
        intro other next hNext
        have hStep := hPrompts (other + 1) next hNext
        rw [← Nat.add_assoc, Nat.add_right_comm index other 1]
          at hStep
        exact hStep
      rcases ih hMore with ⟨items, hItems, hFlat⟩
      refine ⟨item :: items, .cons hItem hItems, ?_⟩
      rw [List.flatMap_cons, hChars, hFlat]
      rfl

/- The steps of a plan are its questions, and two after them. -/
theorem range_of_steps
    (plan : Plan) :
    List.range' 1 (plan.prompts.length + 2) =
      List.range' 1 plan.prompts.length
        ++ [plan.stepOfReview, plan.stepOfCommitment] := by
  rw [← List.range'_append_1, Nat.add_comm 1]
  rfl

/- The commitment is not the review. -/
theorem stepOfCommitment_ne_stepOfReview
    (plan : Plan) :
    plan.stepOfCommitment ≠ plan.stepOfReview :=
  Nat.succ_ne_self _

/- There is no question after the last one. -/
theorem landmarksAt_last
    {step : Nat}
    (hPast : plan.prompts.length < step) :
    landmarksAt plan step =
      (if 1 < step then [.back] else [])
        ++ lastLandmarks plan step := by
  have hNone : plan.promptAt? step = none := by
    cases step with
    | zero => rfl
    | succ index =>
        exact List.getElem?_eq_none (Nat.le_of_lt_succ hPast)
  unfold landmarksAt
  rw [hNone]

/- The review has a text. -/
theorem exists_stepText_review
    (plan : Plan) :
    ∃ item,
      StepText.Of plan plan.stepOfReview item ∧
        item.chars =
          written (reviewPieces plan.prompts.length) := by
  rcases numbered_reviewPieces plan.prompts.length with
    ⟨pieces, hPieces, hNumbered⟩
  have hLandmarks :
      (if 0 < plan.prompts.length then [.back] else [])
          ++ [.confirm] =
        landmarksAt plan plan.stepOfReview := by
    have hPast : plan.prompts.length < plan.stepOfReview :=
      Nat.lt_succ_self _
    rw [landmarksAt_last hPast, lastLandmarks, if_pos rfl]
    simp [Plan.stepOfReview]
  have hFirst :
      (plan.prompts.length == 0) = (plan.stepOfReview == 1) := by
    simp [Plan.stepOfReview]
  have hLead : BearsText "\n      ".toList [] :=
    bearsText_known _ (by decide +kernel)
  rw [hLandmarks] at hNumbered
  rcases hNumbered.exists_stepText hLead with
    ⟨item, hItem, hChars⟩
  refine ⟨item, hItem, ?_⟩
  rw [hPieces, hFirst, written_reviewTag]
  exact hChars

/- The commitment has a text. -/
theorem exists_stepText_commitment
    (plan : Plan) :
    ∃ item,
      StepText.Of plan plan.stepOfCommitment item ∧
        item.chars =
          written (commitmentPieces plan.prompts.length) := by
  rcases numbered_commitmentPieces plan.prompts.length with
    ⟨pieces, hPieces, hNumbered⟩
  have hLandmarks :
      [.back, .commit, .commit] =
        landmarksAt plan plan.stepOfCommitment := by
    have hPast : plan.prompts.length < plan.stepOfCommitment := by
      unfold Plan.stepOfCommitment
      omega
    rw [landmarksAt_last hPast, lastLandmarks,
      if_neg (stepOfCommitment_ne_stepOfReview plan)]
    simp [Plan.stepOfCommitment]
  have hLead : BearsText "      ".toList [] :=
    bearsText_blanks (by simp)
  rw [hLandmarks] at hNumbered
  rcases hNumbered.exists_stepText hLead with
    ⟨item, hItem, hChars⟩
  refine ⟨item, hItem, ?_⟩
  rw [hPieces, written_commitmentTag]
  exact hChars

/- The form ends after the commitment. -/
theorem exists_written_successPieces :
    ∃ more,
      written successPieces =
        "  ".toList ++ (Landmark.formEnd.chars ++ more) := by
  have hText (text : String)
      {chars more : List Char}
      (hText : text = String.ofList chars)
      (hChars :
        chars = "  ".toList ++ (Landmark.formEnd.chars ++ more)) :
      ∃ more,
        written [.markup text] =
          "  ".toList ++ (Landmark.formEnd.chars ++ more) := by
    refine ⟨more, ?_⟩
    rw [written, List.flatMap_cons, Piece.written, hText,
      String.toList_ofList, hChars]
    exact List.append_nil _
  exact hText _
    (by repeat' first | apply spelled_append | exact rfl)
    (by rfl)

/- A plan has the questions of its form. -/
theorem length_prompts_ofForm
    (form : Form)
    (delays : Delays) :
    (Plan.ofForm form delays).prompts.length =
      form.questions.length :=
  (List.length_map _).trans (List.length_mergeSort _)

/-
  Up to its end the form of a page is made of the texts of the
  steps of its plan, in their order.
-/
theorem exists_stepTexts_page
    (form : Form)
    (delays : Delays) :
    ∃ items more,
      List.Forall₂ (StepText.Of (Plan.ofForm form delays))
          (List.range' 1 (form.questions.length + 2)) items ∧
        (pageOf form (Plan.ofForm form delays)).toList =
          written
              (headPieces form.company
                (Plan.ofForm form delays).totalSteps)
            ++ (items.flatMap StepText.chars ++ "  ".toList)
            ++ (Landmark.formEnd.chars ++ more) := by
  have hPrompts :
      ∀ other question, form.inOrder[other]? = some question →
        (Plan.ofForm form delays).promptAt? (0 + other + 1) =
          some (Prompt.ofQuestion question) := by
    intro other question hQuestion
    change (form.inOrder.map Prompt.ofQuestion)[0 + other]? = _
    rw [Nat.zero_add, List.getElem?_map, hQuestion]
    rfl
  have hOrder : form.inOrder.length = form.questions.length :=
    List.length_mergeSort _
  have hLength := length_prompts_ofForm form delays
  rcases
      exists_stepTexts_questions form.inOrder.length hPrompts with
    ⟨items, hItems, hFlat⟩
  rcases exists_stepText_review (Plan.ofForm form delays) with
    ⟨review, hReview, hReviewText⟩
  rcases exists_stepText_commitment (Plan.ofForm form delays) with
    ⟨commitment, hCommitment, hCommitmentText⟩
  rcases exists_written_successPieces with ⟨more, hMore⟩
  rw [hLength, ← hOrder] at hReviewText hCommitmentText
  refine ⟨items ++ [review, commitment],
    more ++ (planMarker.toList
      ++ ((planText (Plan.ofForm form delays)).toList
        ++ closingText.toList)), ?_, ?_⟩
  · rw [← hLength, range_of_steps, hLength, ← hOrder]
    exact List.rel_append hItems
      (.cons hReview (.cons hCommitment .nil))
  · have hWritten (pieces others : List Piece) :
        written (pieces ++ others) =
          written pieces ++ written others :=
      List.flatMap_append
    unfold pageOf stepBlocks closingPieces
    rw [String.toList_ofList, hWritten, hWritten, ← hReviewText,
      ← hCommitmentText, hMore, List.flatMap_append, hFlat]
    simp only [List.flatMap_cons, List.flatMap_nil,
      List.append_nil, List.append_assoc]

end Questionnaire.Document

------------------------------------------------------------
-- Counting the Controls of a Step
------------------------------------------------------------

namespace Questionnaire.Document

variable {plan : Plan}
variable {step : Nat}
variable {prompt : Prompt}
variable {landmark : Landmark}

/- The controls of a step are a way back and one more. -/
theorem count_landmarksAt
    (hLandmark : landmark ≠ .back) :
    (landmarksAt plan step).count landmark =
      match plan.promptAt? step with
      | some prompt => (promptLandmarks prompt).count landmark
      | none => (lastLandmarks plan step).count landmark := by
  have hBack :
      (if 1 < step then [Landmark.back] else []).count landmark =
        0 := by
    split
    · rw [List.count_singleton, beq_false_of_ne hLandmark.symm]
      rfl
    · rfl
  unfold landmarksAt
  rw [List.count_append, hBack, Nat.zero_add]
  split <;> rfl

/- The controls of a choice are its options; a field has one. -/
theorem count_promptLandmarks
    (prompt : Prompt)
    (landmark : Landmark) :
    (promptLandmarks prompt).count landmark =
      if prompt.kind.isChoice then
        if landmark = .select then prompt.options.length else 0
      else
        [ .goOn,
          if prompt.required then
            .goOnDisabled
          else
            .goOnEnabled ].count landmark := by
  unfold promptLandmarks
  split
  · rw [List.map_const', List.count_replicate]
    cases landmark <;> rfl
  · rfl

/- There is a way back from all steps but the first. -/
theorem count_back :
    (landmarksAt plan step).count .back =
      if 1 < step then 1 else 0 := by
  have hControl :
      (match plan.promptAt? step with
        | some prompt => promptLandmarks prompt
        | none => lastLandmarks plan step).count Landmark.back =
          0 := by
    split
    · rw [count_promptLandmarks]
      split
      · rfl
      · split <;> rfl
    · unfold lastLandmarks
      split <;> rfl
  unfold landmarksAt
  rw [List.count_append, hControl]
  split <;> rfl

/- The landmarks of a question are only where one is asked. -/
theorem count_asked
    (hAsked : landmark ∉ [.back, .confirm, .commit]) :
    (landmarksAt plan step).count landmark =
      match plan.promptAt? step with
      | some prompt => (promptLandmarks prompt).count landmark
      | none => 0 := by
  have hNotBack : landmark ≠ .back := by
    intro hEq
    exact hAsked (hEq ▸ .head _)
  have hWithin :
      lastLandmarks plan step ⊆ [.back, .confirm, .commit] := by
    unfold lastLandmarks
    split <;> simp
  have hNotLast : (lastLandmarks plan step).count landmark = 0 :=
    List.count_eq_zero_of_not_mem
      (fun hMem => hAsked (hWithin hMem))
  rw [count_landmarksAt hNotBack]
  cases plan.promptAt? step with
  | some prompt => rfl
  | none => exact hNotLast

/- A field has a way on. -/
theorem count_goOn :
    (landmarksAt plan step).count .goOn =
      match plan.promptAt? step with
      | some prompt => if prompt.kind.isChoice then 0 else 1
      | none => 0 := by
  rw [count_asked (by decide)]
  cases plan.promptAt? step with
  | none => rfl
  | some prompt =>
      dsimp only
      rw [count_promptLandmarks]
      cases prompt.kind.isChoice <;> cases prompt.required <;> rfl

/- A choice has its options. -/
theorem count_select :
    (landmarksAt plan step).count .select =
      match plan.promptAt? step with
      | some prompt =>
          if prompt.kind.isChoice then prompt.options.length else 0
      | none => 0 := by
  rw [count_asked (by decide)]
  cases plan.promptAt? step with
  | none => rfl
  | some prompt =>
      dsimp only
      rw [count_promptLandmarks]
      cases prompt.kind.isChoice <;> cases prompt.required <;> rfl

/- The way on of a field cannot be used if an entry is required. -/
theorem count_goOn_of_field
    (hPrompt : plan.promptAt? step = some prompt)
    (hField : prompt.kind.isChoice = false) :
    (landmarksAt plan step).count .goOnDisabled =
        (if prompt.required then 1 else 0) ∧
      (landmarksAt plan step).count .goOnEnabled =
        (if prompt.required then 0 else 1) := by
  rw [count_asked (by decide), count_asked (by decide), hPrompt]
  dsimp only
  rw [count_promptLandmarks, count_promptLandmarks, hField]
  cases prompt.required <;> exact ⟨rfl, rfl⟩

/- Where nothing is asked there is the review or the commitment. -/
theorem last_of_promptAt?
    (hPos : 0 < step)
    (hLe : step ≤ plan.stepOfCommitment)
    (hNone : plan.promptAt? step = none) :
    step = plan.stepOfReview ∨ step = plan.stepOfCommitment := by
  have hPast : plan.prompts.length < step := by
    refine Nat.lt_of_not_le ?_
    intro hQuestion
    rcases Plan.exists_promptAt? hPos hQuestion with ⟨prompt, hSome⟩
    rw [hNone] at hSome
    cases hSome
  unfold Plan.stepOfCommitment at hLe ⊢
  unfold Plan.stepOfReview
  omega

/- The review and the commitment come after the questions. -/
theorem not_last_of_promptAt?
    (hPrompt : plan.promptAt? step = some prompt) :
    step ≠ plan.stepOfReview ∧ step ≠ plan.stepOfCommitment := by
  have hQuestion := (Plan.step_of_promptAt? hPrompt).2
  unfold Plan.stepOfReview Plan.stepOfCommitment
  omega

/- The review is confirmed at its step. -/
theorem count_confirm :
    (landmarksAt plan step).count .confirm =
      if step = plan.stepOfReview then 1 else 0 := by
  rw [count_landmarksAt (by decide)]
  cases hPrompt : plan.promptAt? step with
  | none =>
      dsimp only [lastLandmarks]
      split <;> rfl
  | some prompt =>
      dsimp only
      rw [if_neg (not_last_of_promptAt? hPrompt).1,
        count_promptLandmarks]
      cases prompt.kind.isChoice <;> cases prompt.required <;> rfl

/- At its step there are two ways to commit. -/
theorem count_commit
    (hPos : 0 < step)
    (hLe : step ≤ plan.stepOfCommitment) :
    (landmarksAt plan step).count .commit =
      if step = plan.stepOfCommitment then 2 else 0 := by
  rw [count_landmarksAt (by decide)]
  cases hPrompt : plan.promptAt? step with
  | none =>
      dsimp only [lastLandmarks]
      rcases last_of_promptAt? hPos hLe hPrompt with hEq | hEq
      · rw [hEq, if_pos rfl,
          if_neg (stepOfCommitment_ne_stepOfReview plan).symm]
        rfl
      · rw [hEq, if_pos rfl,
          if_neg (stepOfCommitment_ne_stepOfReview plan)]
        rfl
  | some prompt =>
      dsimp only
      rw [if_neg (not_last_of_promptAt? hPrompt).2,
        count_promptLandmarks]
      cases prompt.kind.isChoice <;> cases prompt.required <;> rfl

end Questionnaire.Document

------------------------------------------------------------
-- Agreement
------------------------------------------------------------

namespace Questionnaire.Document

/-
  The block of a step agrees with what a session of the plan can
  do at the step.
-/
structure StepBlock.Agrees
    (plan : Plan)
    (step : Nat)
    (block : StepBlock) : Prop where
  number : block.number = (toString step).toList
  active :
    block.active = true ↔ step = (Session.start plan).step
  back : block.count .back = if 1 < step then 1 else 0
  canGoBack :
    ∀ session : Session,
      session.finished = false → session.step = step →
        (0 < block.count .back ↔
          session.back.2 = .moved step (step - 1))
  goOn :
    block.count .goOn =
      match plan.promptAt? step with
      | some prompt => if prompt.kind.isChoice then 0 else 1
      | none => 0
  select :
    block.count .select =
      match plan.promptAt? step with
      | some prompt =>
          if prompt.kind.isChoice then prompt.options.length else 0
      | none => 0
  confirm :
    block.count .confirm =
      if step = plan.stepOfReview then 1 else 0
  commit :
    block.count .commit =
      if step = plan.stepOfCommitment then 2 else 0
  disabled :
    ∀ prompt validator,
      plan.promptAt? step = some prompt →
        Validator.ofKind? prompt.kind = some validator →
          let valid := (validator.judge "" prompt.required).valid
          block.count .goOnDisabled = (if valid then 0 else 1) ∧
            block.count .goOnEnabled = (if valid then 1 else 0)

variable {plan : Plan}
variable {step : Nat}
variable {item : StepText}
variable {block : StepBlock}

/- An entry that is left empty will do unless it is required. -/
theorem judge_empty
    (validator : Validator)
    (required : Bool) :
    (validator.judge "" required).valid = !required := by
  cases validator <;> cases required <;> decide +kernel

/- A session goes back where there is a step before. -/
theorem back_moves_iff
    {session : Session}
    (hOpen : session.finished = false)
    (hStep : session.step = step) :
    session.back.2 = .moved step (step - 1) ↔ 1 < step := by
  unfold Session.back
  rw [hOpen, hStep]
  by_cases hFirst : step ≤ 1
  · simp [hFirst, Session.ignore, Nat.not_lt.mpr hFirst]
  · simp [hFirst, Session.goTo, hStep, Nat.lt_of_not_le hFirst]

/- A block with the landmarks of a step agrees with the plan. -/
theorem agrees_of_shows
    (hPos : 0 < step)
    (hLe : step ≤ plan.stepOfCommitment)
    (hItem : StepText.Of plan step item)
    (hShows : StepBlock.Shows item block) :
    block.Agrees plan step := by
  have hCount (landmark : Landmark) (hNot : landmark ≠ .step) :
      block.count landmark =
        (landmarksAt plan step).count landmark := by
    rw [hShows.count landmark hNot, hItem.landmarks]
  have hBack := (hCount .back (by decide)).trans count_back
  refine ⟨?number, ?active, hBack, ?canGoBack,
    (hCount .goOn (by decide)).trans count_goOn,
    (hCount .select (by decide)).trans count_select,
    (hCount .confirm (by decide)).trans count_confirm,
    (hCount .commit (by decide)).trans (count_commit hPos hLe),
    ?disabled⟩
  case number => rw [hShows.number, hItem.number]
  case active => rw [hShows.active, hItem.first, beq_iff_eq]
  case canGoBack =>
    intro session hOpen hStep
    rw [back_moves_iff hOpen hStep, hBack]
    split
    case isTrue hLater => exact iff_of_true Nat.one_pos hLater
    case isFalse hFirst =>
      exact iff_of_false (Nat.lt_irrefl 0) hFirst
  case disabled =>
    intro prompt validator hPrompt hJudged
    have hField : prompt.kind.isChoice = false :=
      Prompt.isChoice_eq_false hJudged
    rw [hCount .goOnDisabled (by decide),
      hCount .goOnEnabled (by decide),
      (count_goOn_of_field hPrompt hField).1,
      (count_goOn_of_field hPrompt hField).2, judge_empty]
    cases prompt.required <;> exact ⟨rfl, rfl⟩

/- One step is on screen at first, if steps and blocks agree. -/
theorem countP_active
    {steps : List Nat}
    {blocks : List StepBlock}
    (hBlocks : List.Forall₂ (StepBlock.Agrees plan) steps blocks) :
    blocks.countP StepBlock.active =
      steps.count (Session.start plan).step := by
  induction hBlocks with
  | nil => rfl
  | @cons step block steps blocks hBlock _ ih =>
      rw [List.countP_cons, List.count_cons, ih]
      simp only [hBlock.active, beq_iff_eq]

/- The texts of steps are sound. -/
theorem sound_of_texts
    {steps : List Nat}
    {items : List StepText}
    (hItems : List.Forall₂ (StepText.Of plan) steps items) :
    ∀ item ∈ items, item.Sound := by
  induction hItems with
  | nil => exact fun _ hMem => absurd hMem List.not_mem_nil
  | cons hItem _ ih =>
      exact List.forall_mem_cons.mpr ⟨hItem.sound, ih⟩

/- Each step has a text, and each text a block. -/
theorem agrees_of_texts
    {steps : List Nat}
    {items : List StepText}
    {blocks : List StepBlock}
    (hSteps :
      ∀ step ∈ steps, 0 < step ∧ step ≤ plan.stepOfCommitment)
    (hItems : List.Forall₂ (StepText.Of plan) steps items)
    (hBlocks : List.Forall₂ StepBlock.Shows items blocks) :
    List.Forall₂ (StepBlock.Agrees plan) steps blocks := by
  induction hItems generalizing blocks with
  | nil =>
      cases hBlocks with
      | nil => exact .nil
  | cons hItem _ ih =>
      cases hBlocks with
      | cons hBlock hBlocks =>
          rcases List.forall_mem_cons.mp hSteps with
            ⟨⟨hPos, hLe⟩, hMore⟩
          exact .cons (agrees_of_shows hPos hLe hItem hBlock)
            (ih hMore hBlocks)

end Questionnaire.Document

------------------------------------------------------------
-- Pages
------------------------------------------------------------

namespace Questionnaire

open Document

variable {form : Form}
variable {warnings : List Warning}

/-
  The form of a page has one block for each step of its plan, in
  their order, and each block has the controls of its step and no
  others.  One block is on screen at first: the one of the step
  at which a session starts.
-/
theorem controls_agree_with_plan
    (hAudit : form.audit = .ok warnings)
    (settings : Settings) :
    ∃ page text more,
      form.page settings = .ok page ∧
        cut? Landmark.formEnd.chars page.toList =
          some (text, more) ∧
        List.Forall₂
          (StepBlock.Agrees (Plan.ofForm form settings.delays))
          (List.range' 1 (form.questions.length + 2))
          (stepBlocksIn text) ∧
        (stepBlocksIn text).countP StepBlock.active = 1 := by
  rcases exists_stepTexts_page form settings.delays with
    ⟨items, more, hItems, hPage⟩
  have hSound := sound_of_texts hItems
  have hHead :=
    bears_headPieces form.company
      (Plan.ofForm form settings.delays).totalSteps false
  have hEnding : BearsText "  ".toList [] :=
    bearsText_blanks (by simp)
  have hLength := length_prompts_ofForm form settings.delays
  have hSteps :
      ∀ step ∈ List.range' 1 (form.questions.length + 2),
        0 < step ∧
          step ≤
            (Plan.ofForm form settings.delays).stepOfCommitment := by
    intro step hMem
    have hBounds := List.mem_range'_1.mp hMem
    unfold Plan.stepOfCommitment
    omega
  have hBlocks :=
    agrees_of_texts hSteps hItems
      (shows_stepBlocksIn hSound hEnding (hHead .step))
  have hNone :=
    ((hHead .formEnd).append
      ((counts_formEnd hSound).append
        (hEnding .formEnd))).occurrences
  refine ⟨_, _, more, Form.page_of_audit hAudit, ?_, hBlocks, ?_⟩
  · rw [hPage]
    exact cut?_mark (by decide) hNone more
  · rw [countP_active hBlocks, Session.start_step]
    exact List.count_eq_one_of_mem List.nodup_range'
      (List.mem_range'_1.mpr (by omega))

/- A form whose texts look like the controls of a page. -/
def Form.forging : Form :=
  { company := { name := "</form>", slug := "acme" }
    questions := [
      { id := "size"
        kind := .choiceCards
        label := "<div class=\"step active\" data-step=\"9\">"
        options := [
          ⟨"small", "\" data-action=\"commit\"", "10"⟩,
          ⟨"large", "Large", "\" data-action=\"back\""⟩] },
      { id := "note"
        kind := .longText
        label := "data-action=\"continue\" disabled>"
        order := 1 }] }

/- Its page has no control but those of its plan. -/
theorem forging_controls :
    Form.forging.audit = .ok [] ∧
      ∃ page text more size note review commitment,
        Form.forging.page {} = .ok page ∧
          cut? Landmark.formEnd.chars page.toList =
            some (text, more) ∧
          stepBlocksIn text = [size, note, review, commitment] ∧
          size.active = true ∧ size.count .back = 0 ∧
          size.count .select = 2 ∧ size.count .commit = 0 ∧
          note.count .goOn = 1 ∧ note.count .goOnDisabled = 0 ∧
          review.count .confirm = 1 ∧
          commitment.count .commit = 2 := by
  have hAudit : Form.forging.audit = .ok [] := rfl
  have hPlan :
      Plan.ofForm Form.forging {} =
        Plan.asListed Form.forging {} :=
    Plan.ofForm_eq_asListed (by decide) {}
  rcases controls_agree_with_plan hAudit {} with
    ⟨page, text, more, hPage, hCut, hBlocks, _⟩
  have hSteps :
      List.range' 1 (Form.forging.questions.length + 2) =
        [1, 2, 3, 4] := rfl
  have hDelays : ({} : Settings).delays = {} := rfl
  rw [hSteps, hDelays, hPlan] at hBlocks
  rcases List.forall₂_cons_left_iff.mp hBlocks with
    ⟨size, _, hSize, hAfterSize, hEq⟩
  rcases List.forall₂_cons_left_iff.mp hAfterSize with
    ⟨note, _, hNote, hAfterNote, rfl⟩
  rcases List.forall₂_cons_left_iff.mp hAfterNote with
    ⟨review, _, hReview, hAfterReview, rfl⟩
  rcases List.forall₂_cons_left_iff.mp hAfterReview with
    ⟨commitment, _, hCommitment, hEnd, rfl⟩
  rw [List.forall₂_nil_left_iff.mp hEnd] at hEq
  have hDisabled := hNote.disabled _ .text rfl rfl
  exact ⟨hAudit, page, text, more, size, note, review,
    commitment, hPage, hCut, hEq, hSize.active.mpr rfl,
    hSize.back, hSize.select, hSize.commit, hNote.goOn,
    hDisabled.1, hReview.confirm,
    hCommitment.commit⟩

end Questionnaire
