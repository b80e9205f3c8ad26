import Questionnaire.Proofs.Document.Page
import Questionnaire.Proofs.Form.Audit

/-
  The names by which a page and its plan know a question and
  its options.

  Key definitions include:
    * `blockOf`
    * `blockValues`
    * `shownAs`
    * `Named`

  The script of a page looks the names that it finds in the
  attributes of a step up in the plan.  They are there exactly
  if no blanks of the indentation got into them
  (`named_iff_unbroken`): a name with a line break in it, or a
  carriage return at its end, is not found (`broken_unnamed`).
-/

------------------------------------------------------------
-- Blocks
------------------------------------------------------------

namespace Questionnaire.Document

/- Whether an attribute begins the block of a step. -/
def Attribute.beginsStep
    (item : Attribute) : Bool :=
  item.name == "data-step"

/- Whether an attribute begins the block of a given step. -/
def Attribute.begins
    (item : Attribute)
    (step : Nat) : Bool :=
  item.beginsStep && item.value == toString step

/- What comes after the number of a step, up to the next one. -/
def blockOf
    (step : Nat)
    (data : List Attribute) : List Attribute :=
  ((data.dropWhile (fun item => !item.begins step)).drop 1).takeWhile
    (fun item => !item.beginsStep)

/- The values of the attributes of a name, in their order. -/
def valuesOf
    (name : String)
    (data : List Attribute) : List String :=
  (data.filter (fun item => item.name == name)).map
    Attribute.value

/- The values of the attributes of a name in a block of a page. -/
def blockValues
    (page : String)
    (step : Nat)
    (name : String) : List String :=
  valuesOf name (blockOf step (dataFrom .text page.toList))

/- A value with the blanks that get into it. -/
def shownAs
    (text : String) : String :=
  String.ofList (broken text.toList)

/- A step shows its values with the blanks in them. -/
@[simp] theorem value_attributeOf
    (name : String)
    (value : String) :
    (attributeOf name value).value = shownAs value := by
  unfold Attribute.value attributeOf shownAs
  rw [unescaped_escaped]

/- A value is shown as it is exactly if it is unbroken. -/
theorem shownAs_eq_iff
    (text : String) :
    shownAs text = text ↔ Unbroken text := by
  rw [← broken_eq_iff, ← String.toList_inj, shownAs,
    String.toList_ofList]

/- Numbers that are written alike are equal. -/
theorem toString_inj
    {step other : Nat}
    (hEq : toString step = toString other) :
    step = other := by
  have hDigits := congrArg String.toList hEq
  rw [Nat.toString_eq_repr, Nat.toString_eq_repr,
    Nat.toList_repr, Nat.toList_repr] at hDigits
  rw [← Nat.ofDigitChars_ten_toDigits (n := step), hDigits,
    Nat.ofDigitChars_ten_toDigits]

/- The number of a step begins its block, and no other. -/
theorem begins_attributeOf
    (step : Nat)
    (other : Nat) :
    (attributeOf "data-step" (toString step)).begins other =
      (step == other) := by
  have hShown : shownAs (toString step) = toString step :=
    (shownAs_eq_iff _).mpr (unbroken_toString step)
  unfold Attribute.begins
  rw [value_attributeOf, hShown, Bool.eq_iff_iff]
  constructor
  · intro hBegins
    have hEq := (Bool.and_eq_true_iff.mp hBegins).2
    exact beq_iff_eq.mpr (toString_inj (beq_iff_eq.mp hEq))
  · intro hEq
    rw [beq_iff_eq.mp hEq]
    simp [Attribute.beginsStep, attributeOf]

end Questionnaire.Document

------------------------------------------------------------
-- Blocks of a Page
------------------------------------------------------------

namespace Questionnaire.Document

/- The attributes of a step after its number. -/
def questionData
    (step : Nat)
    (question : Question) : List Attribute :=
  [ attributeOf "data-qid" question.id,
    attributeOf "data-kind" question.kind.name ]
    ++ (if 1 < step then
          [attributeOf "data-action" "back"]
        else
          [])
    ++ controlData question

/- The number of a step comes first. -/
theorem stepData_eq
    (step : Nat)
    (question : Question) :
    stepData step question =
      attributeOf "data-step" (toString step)
        :: questionData step question := rfl

/- No number of a step comes after the first. -/
theorem not_beginsStep_of_mem
    {step : Nat}
    {question : Question}
    {item : Attribute}
    (hItem : item ∈ questionData step question) :
    item.beginsStep = false := by
  unfold questionData at hItem
  rcases List.mem_append.mp hItem with hFront | hControl
  · rcases List.mem_append.mp hFront with hQuestion | hBack
    · rcases List.mem_pair.mp hQuestion with hEq | hEq <;>
        rw [hEq] <;> rfl
    · split at hBack
      · rw [List.mem_singleton.mp hBack]
        rfl
      · exact absurd hBack (by simp)
  · unfold controlData at hControl
    split at hControl
    · rcases List.mem_flatMap.mp hControl with
        ⟨choice, hChoice, hOption⟩
      rcases List.mem_pair.mp hOption with hEq | hEq <;>
        rw [hEq] <;> rfl
    · rcases List.mem_pair.mp hControl with hEq | hEq <;>
        rw [hEq] <;> rfl

/- The block of a step whose number comes first. -/
theorem blockOf_stepData
    {step : Nat}
    {question : Question}
    {next : Attribute}
    {more : List Attribute}
    (hNext : next.beginsStep = true) :
    blockOf step (stepData step question ++ next :: more) =
      questionData step question := by
  have hBegins :
      (attributeOf "data-step" (toString step)).begins step =
        true := by
    rw [begins_attributeOf]
    exact beq_self_eq_true step
  unfold blockOf
  rw [stepData_eq, List.cons_append, List.dropWhile_cons,
    hBegins]
  have hBlock :
      ∀ item ∈ questionData step question,
        (!item.beginsStep) = true := by
    intro item hItem
    rw [not_beginsStep_of_mem hItem]
    rfl
  rw [if_neg (by decide), List.drop_one, List.tail_cons,
    List.takeWhile_append_of_pos hBlock, List.takeWhile_cons,
    hNext]
  exact List.append_nil _

/- The block of a step is not in another one. -/
theorem blockOf_append
    {step other : Nat}
    {question : Question}
    {more : List Attribute}
    (hStep : step ≠ other) :
    blockOf other (stepData step question ++ more) =
      blockOf other more := by
  have hSkipped :
      ∀ item ∈ stepData step question,
        (!item.begins other) = true := by
    intro item hItem
    rw [stepData_eq] at hItem
    rcases List.mem_cons.mp hItem with hEq | hMem
    · rw [hEq, begins_attributeOf]
      simp [hStep]
    · unfold Attribute.begins
      rw [not_beginsStep_of_mem hMem]
      rfl
  unfold blockOf
  rw [List.dropWhile_append_of_pos hSkipped]

/- Every question has its block. -/
theorem blockOf_stepsData
    {questions : List Question}
    {index : Nat}
    {question : Question}
    {next : Attribute}
    {more : List Attribute}
    (first : Nat)
    (hQuestion : questions[index]? = some question)
    (hNext : next.beginsStep = true) :
    blockOf (first + index)
        (stepsData first questions ++ next :: more) =
      questionData (first + index) question := by
  induction questions generalizing first index with
  | nil => simp at hQuestion
  | cons head questions ih =>
      rw [stepsData, List.append_assoc]
      cases index with
      | zero =>
          have hHead : head = question := by simpa using hQuestion
          rw [hHead, Nat.add_zero]
          -- The block ends where the next step begins.
          cases questions with
          | nil => exact blockOf_stepData hNext
          | cons other questions =>
              have hOther :
                  (attributeOf "data-step"
                    (toString (first + 1))).beginsStep = true :=
                rfl
              exact blockOf_stepData hOther
      | succ index =>
          have hStep : first ≠ first + (index + 1) := by omega
          rw [blockOf_append hStep]
          have hRest := ih (first + 1) (by simpa using hQuestion)
          rw [Nat.add_assoc, Nat.add_comm 1 index] at hRest
          exact hRest

end Questionnaire.Document

------------------------------------------------------------
-- Names in a Block
------------------------------------------------------------

namespace Questionnaire.Document

variable {step : Nat}
variable {question : Question}

@[simp] theorem valuesOf_append
    (name : String)
    (data more : List Attribute) :
    valuesOf name (data ++ more) =
      valuesOf name data ++ valuesOf name more := by
  unfold valuesOf
  rw [List.filter_append, List.map_append]

theorem valuesOf_flatMap
    {α : Type}
    (name : String)
    (parts : List α)
    (dataOf : α → List Attribute) :
    valuesOf name (parts.flatMap dataOf) =
      parts.flatMap (fun part => valuesOf name (dataOf part)) := by
  induction parts with
  | nil => rfl
  | cons part parts ih =>
      rw [List.flatMap_cons, List.flatMap_cons,
        valuesOf_append, ih]

/- A name that a step does not go back by. -/
theorem valuesOf_questionData
    {name : String}
    (hName : name ≠ "data-action") :
    valuesOf name (questionData step question) =
      valuesOf name [
          attributeOf "data-qid" question.id,
          attributeOf "data-kind" question.kind.name ]
        ++ valuesOf name (controlData question) := by
  unfold questionData
  rw [valuesOf_append, valuesOf_append]
  split
  · have hBack :
        valuesOf name [attributeOf "data-action" "back"] = [] := by
      simp [valuesOf, attributeOf, Ne.symm hName]
    rw [hBack, List.append_nil]
  · exact congrArg (· ++ _) (List.append_nil _)

/- A step shows the id of its question. -/
theorem valuesOf_id :
    valuesOf "data-qid" (questionData step question) =
      [shownAs question.id] := by
  have hControl :
      valuesOf "data-qid" (controlData question) = [] := by
    unfold controlData
    split
    · rw [valuesOf_flatMap, List.flatMap_eq_nil_iff]
      intro choice hChoice
      rfl
    · rfl
  rw [valuesOf_questionData (by decide), hControl,
    List.append_nil, ← value_attributeOf "data-qid"]
  rfl

/- A field shows the id of its question; a choice has none. -/
theorem valuesOf_field :
    valuesOf "data-field" (questionData step question) =
      if question.kind.isChoice then
        []
      else
        [shownAs question.id] := by
  rw [valuesOf_questionData (by decide)]
  unfold controlData
  split
  · rw [valuesOf_flatMap]
    exact List.flatMap_eq_nil_iff.mpr (fun choice hChoice => rfl)
  · rw [← value_attributeOf "data-field"]
    rfl

/- A choice shows the values of its options. -/
theorem valuesOf_options :
    valuesOf "data-value" (questionData step question) =
      (Prompt.ofQuestion question).options.map shownAs := by
  rw [valuesOf_questionData (by decide)]
  unfold controlData Prompt.ofQuestion Question.offered
  split
  · rw [valuesOf_flatMap, List.map_map]
    have hOption : ∀ choice : Choice,
        valuesOf "data-value" (optionData choice) =
          [shownAs choice.value] := by
      intro choice
      rw [← value_attributeOf "data-value"]
      rfl
    simp only [hOption]
    exact List.map_eq_flatMap.symm
  · rfl

end Questionnaire.Document

------------------------------------------------------------
-- Names on a Page
------------------------------------------------------------

namespace Questionnaire

open Document

variable {form : Form}
variable {warnings : List Warning}
variable {settings : Settings}
variable {step : Nat}
variable {prompt : Prompt}

/- An audited form has a page. -/
theorem Form.page_of_audit
    (hAudit : form.audit = .ok warnings) :
    form.page settings =
      .ok (pageOf form (Plan.ofForm form settings.delays)) := by
  unfold Form.page
  rw [hAudit]
  rfl

/- The questions of a plan are those of its form, in order. -/
theorem Plan.exists_question_of_promptAt?
    {delays : Delays}
    (hPrompt :
      (Plan.ofForm form delays).promptAt? step = some prompt) :
    ∃ index question,
      step = 1 + index ∧
        form.inOrder[index]? = some question ∧
        Prompt.ofQuestion question = prompt := by
  cases step with
  | zero => simp [Plan.promptAt?] at hPrompt
  | succ index =>
      have hGet :
          (form.inOrder.map Prompt.ofQuestion)[index]? =
            some prompt := hPrompt
      rw [List.getElem?_map] at hGet
      rcases Option.map_eq_some_iff.mp hGet with
        ⟨question, hQuestion, hEq⟩
      exact ⟨index, question, Nat.add_comm index 1,
        hQuestion, hEq⟩

/- What a page shows in the block of a prompt. -/
theorem blockValues_pageOf
    (hPrompt :
      (Plan.ofForm form settings.delays).promptAt? step =
        some prompt)
    (plan : Plan) :
    blockValues (pageOf form plan) step "data-qid" =
        [shownAs prompt.id] ∧
      blockValues (pageOf form plan) step "data-field" =
        (if prompt.kind.isChoice then [] else [shownAs prompt.id]) ∧
      blockValues (pageOf form plan) step "data-value" =
        prompt.options.map shownAs := by
  rcases Plan.exists_question_of_promptAt? hPrompt with
    ⟨index, question, hStep, hQuestion, hOf⟩
  rcases dataFrom_pageOf form plan with ⟨more, hData⟩
  have hBlock :
      blockOf step (dataFrom .text (pageOf form plan).toList) =
        questionData step question := by
    rw [hData, hStep, List.append_assoc]
    have hReview :
        (attributeOf "data-step"
          (toString (form.inOrder.length + 1))).beginsStep =
            true := rfl
    exact blockOf_stepsData 1 hQuestion hReview
  unfold blockValues
  rw [hBlock, ← hOf]
  exact ⟨valuesOf_id, valuesOf_field, valuesOf_options⟩

/-
  A page and its plan know a question and its options by the
  same names.
-/
def Named
    (page : String)
    (step : Nat)
    (prompt : Prompt) : Prop :=
  blockValues page step "data-qid" = [prompt.id] ∧
    (prompt.kind.isChoice = false →
      blockValues page step "data-field" = [prompt.id]) ∧
    blockValues page step "data-value" = prompt.options

/-
  Every question of an audited form has its block on the page.
  It shows the id of the question and the values of its options
  with the blanks that get into them, so page and plan agree on
  them exactly if no blanks do.
-/
theorem named_iff_unbroken
    (hAudit : form.audit = .ok warnings)
    (hPrompt :
      (Plan.ofForm form settings.delays).promptAt? step =
        some prompt) :
    ∃ page,
      form.page settings = .ok page ∧
        blockValues page step "data-qid" =
          [shownAs prompt.id] ∧
        blockValues page step "data-field" =
          (if prompt.kind.isChoice then
            []
          else
            [shownAs prompt.id]) ∧
        blockValues page step "data-value" =
          prompt.options.map shownAs ∧
        (Named page step prompt ↔
          Unbroken prompt.id ∧
            ∀ option ∈ prompt.options, Unbroken option) := by
  rcases
      blockValues_pageOf hPrompt
        (Plan.ofForm form settings.delays) with
    ⟨hId, hField, hOptions⟩
  refine ⟨_, Form.page_of_audit hAudit, hId, hField, hOptions,
    ?_⟩
  have hIdIff :
      [shownAs prompt.id] = [prompt.id] ↔
        Unbroken prompt.id := by
    rw [← shownAs_eq_iff]
    simp
  have hOptionsIff :
      prompt.options.map shownAs = prompt.options ↔
        ∀ option ∈ prompt.options, Unbroken option := by
    have hSelf :=
      List.map_eq_map_iff (f := shownAs) (g := id)
        (l := prompt.options)
    rw [List.map_id] at hSelf
    rw [hSelf]
    exact forall₂_congr
      (fun option _ => shownAs_eq_iff option)
  unfold Named
  rw [hId, hField, hOptions, hIdIff, hOptionsIff]
  constructor
  · rintro ⟨hUnbroken, _, hAll⟩
    exact ⟨hUnbroken, hAll⟩
  · rintro ⟨hUnbroken, hAll⟩
    refine ⟨hUnbroken, ?_, hAll⟩
    intro hKind
    rw [hKind]
    exact hIdIff.mpr hUnbroken

/- The choice of the small form is named alike on its page. -/
theorem named_size :
    Form.small.audit = .ok [] ∧
      ∃ prompt page,
        (Plan.ofForm Form.small {}).promptAt? 2 = some prompt ∧
          Form.small.page {} = .ok page ∧
          blockValues page 2 "data-value" = ["10", "30"] ∧
          Named page 2 prompt := by
  have hPrompt :
      (Plan.ofForm Form.small
          ({} : Settings).delays).promptAt? 2 =
        some (Prompt.ofQuestion (Form.small.questions[1])) := by
    change (Plan.ofForm Form.small {}).promptAt? 2 = _
    rw [Plan.ofForm_small]
    rfl
  rcases named_iff_unbroken Form.audit_small hPrompt with
    ⟨page, hPage, _, _, _, hIff⟩
  have hNamed := hIff.mpr (by decide +kernel)
  exact ⟨Form.audit_small, _, page, hPrompt, hPage,
    hNamed.2.2, hNamed⟩

/- A form with a line break in the value of an option. -/
def Form.broken : Form :=
  { company := { name := "Acme", slug := "acme" }
    questions := [
      { id := "plan"
        kind := .choiceCards
        label := "Plan"
        required := true
        options := [⟨"basic", "Basic", "Basic\nplan"⟩] }] }

/- Its page shows a value that is no option of its plan. -/
theorem broken_unnamed :
    Form.broken.audit = .ok [] ∧
      ∃ prompt page,
        (Plan.ofForm Form.broken {}).promptAt? 1 = some prompt ∧
          Form.broken.page {} = .ok page ∧
          prompt.options = ["Basic\nplan"] ∧
          blockValues page 1 "data-value" =
            ["Basic\n    plan"] ∧
          ¬ Named page 1 prompt := by
  have hAudit : Form.broken.audit = .ok [] := rfl
  have hPrompt :
      (Plan.ofForm Form.broken
          ({} : Settings).delays).promptAt? 1 =
        some (Prompt.ofQuestion (Form.broken.questions[0])) := by
    have hOrder : Form.broken.inOrder = Form.broken.questions :=
      List.mergeSort_singleton _
    unfold Plan.ofForm
    rw [hOrder]
    rfl
  rcases
      blockValues_pageOf hPrompt
        (Plan.ofForm Form.broken {}) with
    ⟨_, _, hOptions⟩
  refine ⟨hAudit, _, _, hPrompt, Form.page_of_audit hAudit,
    rfl, hOptions.trans (by decide +kernel), ?_⟩
  intro hNamed
  have hEq := hOptions.symm.trans hNamed.2.2
  exact absurd hEq (by decide +kernel)

end Questionnaire
