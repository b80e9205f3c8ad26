import Questionnaire.Proofs.Session.Step
import Mathlib.Data.List.Forall2
import Mathlib.Data.List.Nodup

/-
  The order in which a plan asks the questions of its form.

  Key definitions include:
    * `Question.ofOrder`
    * `Question.Arranges`
    * `Prompt.Describes`

  Questions are arranged by ascending order, and those of one
  order as they were edited.  There is only one such arrangement
  (`Question.Arranges.unique`), and it is the one that a plan
  follows (`Form.arranges_inOrder`).
-/

------------------------------------------------------------
-- Questions of One Order
------------------------------------------------------------

namespace Questionnaire

namespace Question

/- The questions of one order, as they stand. -/
def ofOrder
    (order : Int)
    (questions : List Question) : List Question :=
  questions.filter (fun question => question.order == order)

variable {order : Int}
variable {question : Question}
variable {questions first second : List Question}

theorem mem_ofOrder_iff :
    question ∈ ofOrder order questions ↔
      question ∈ questions ∧ question.order = order := by
  simp [ofOrder]

theorem ofOrder_cons_self
    (question : Question)
    (questions : List Question) :
    ofOrder question.order (question :: questions) =
      question :: ofOrder question.order questions :=
  List.filter_cons_of_pos (by simp)

theorem ofOrder_cons_of_ne
    (hOrder : question.order ≠ order)
    (questions : List Question) :
    ofOrder order (question :: questions) =
      ofOrder order questions :=
  List.filter_cons_of_neg (by simpa using hOrder)

/- A question is among those of its order. -/
theorem mem_of_ofOrder_eq
    (hSame : ∀ order, ofOrder order first = ofOrder order second)
    (hMem : question ∈ first) :
    question ∈ second := by
  have hOwn : question ∈ ofOrder question.order first :=
    mem_ofOrder_iff.mpr ⟨hMem, rfl⟩
  rw [hSame] at hOwn
  exact (mem_ofOrder_iff.mp hOwn).1

/- Of ascending questions the first has the least order. -/
theorem order_le_of_mem
    (hAscending :
      (question :: questions).Pairwise
        (fun a b => a.order ≤ b.order))
    {other : Question}
    (hMem : other ∈ question :: questions) :
    question.order ≤ other.order := by
  rcases List.mem_cons.mp hMem with hEq | hLater
  · exact Int.le_of_eq (congrArg Question.order hEq.symm)
  · exact (List.pairwise_cons.mp hAscending).1 other hLater

/-
  Ascending questions are determined by those of each order: the
  first of them has the least order, and is the first of it.
-/
theorem eq_of_ofOrder_eq
    (hFirst : first.Pairwise (fun a b => a.order ≤ b.order))
    (hSecond : second.Pairwise (fun a b => a.order ≤ b.order))
    (hSame :
      ∀ order, ofOrder order first = ofOrder order second) :
    first = second := by
  induction first generalizing second with
  | nil =>
      symm
      apply List.eq_nil_iff_forall_not_mem.mpr
      intro question hMem
      exact List.not_mem_nil
        (mem_of_ofOrder_eq (fun order => (hSame order).symm) hMem)
  | cons a first ih =>
      have hMem : a ∈ second :=
        mem_of_ofOrder_eq hSame List.mem_cons_self
      cases second with
      | nil => exact absurd hMem List.not_mem_nil
      | cons b second =>
          have hMem' : b ∈ a :: first :=
            mem_of_ofOrder_eq (fun order => (hSame order).symm)
              List.mem_cons_self
          have hOrder : b.order = a.order :=
            Int.le_antisymm (order_le_of_mem hSecond hMem)
              (order_le_of_mem hFirst hMem')
          have hLeast := hSame a.order
          rw [ofOrder_cons_self, ← hOrder, ofOrder_cons_self]
            at hLeast
          rcases List.cons.inj hLeast with ⟨hHead, _⟩
          subst hHead
          -- Without this question those of each order still agree.
          have hRest (order : Int) :
              ofOrder order first = ofOrder order second := by
            by_cases hIs : a.order = order
            · have hCons := hSame order
              rw [← hIs, ofOrder_cons_self, ofOrder_cons_self]
                at hCons
              rw [← hIs]
              exact (List.cons.inj hCons).2
            · have hCons := hSame order
              rw [ofOrder_cons_of_ne hIs, ofOrder_cons_of_ne hIs]
                at hCons
              exact hCons
          rw [ih (List.pairwise_cons.mp hFirst).2
            (List.pairwise_cons.mp hSecond).2 hRest]

end Question

end Questionnaire

------------------------------------------------------------
-- Arrangements
------------------------------------------------------------

namespace Questionnaire

/-
  Questions are arranged: they are the same ones, ascending, and
  those of one order stand as before.
-/
structure Question.Arranges
    (arranged questions : List Question) : Prop where
  perm : arranged.Perm questions
  ascending :
    arranged.Pairwise (fun a b => a.order ≤ b.order)
  stable :
    ∀ order,
      Question.ofOrder order arranged =
        Question.ofOrder order questions

/- Questions can be arranged in one way only. -/
theorem Question.Arranges.unique
    {arranged other questions : List Question}
    (hArranged : Arranges arranged questions)
    (hOther : Arranges other questions) :
    other = arranged :=
  eq_of_ofOrder_eq hOther.ascending hArranged.ascending
    (fun order =>
      (hOther.stable order).trans (hArranged.stable order).symm)

/- Orders can be compared one after another, and always. -/
theorem Question.order_le_trans
    (a b c : Question)
    (hFirst : decide (a.order ≤ b.order) = true)
    (hSecond : decide (b.order ≤ c.order) = true) :
    decide (a.order ≤ c.order) = true :=
  decide_eq_true
    (Int.le_trans (of_decide_eq_true hFirst)
      (of_decide_eq_true hSecond))

theorem Question.order_le_total
    (a b : Question) :
    (decide (a.order ≤ b.order) || decide (b.order ≤ a.order)) =
      true := by
  simpa using Int.le_total a.order b.order

namespace Form

variable (form : Form)

/- The questions of a form are asked by ascending order. -/
theorem ascending_inOrder :
    form.inOrder.Pairwise (fun a b => a.order ≤ b.order) := by
  have hSorted :=
    List.pairwise_mergeSort Question.order_le_trans
      Question.order_le_total form.questions
  simpa [inOrder] using hSorted

/- Those of one order are ascending in any case, so they stay. -/
theorem ofOrder_inOrder
    (order : Int) :
    Question.ofOrder order form.inOrder =
      Question.ofOrder order form.questions := by
  have hAscending :
      (Question.ofOrder order form.questions).Pairwise
        (fun a b => decide (a.order ≤ b.order) = true) := by
    apply List.pairwise_of_forall_mem_list
    intro a hA b hB
    rw [(Question.mem_ofOrder_iff.mp hA).2,
      (Question.mem_ofOrder_iff.mp hB).2]
    simp
  have hSub :
      (Question.ofOrder order form.questions).Sublist
        form.inOrder :=
    List.sublist_mergeSort Question.order_le_trans
      Question.order_le_total hAscending List.filter_sublist
  have hOwn :
      (Question.ofOrder order form.questions).Sublist
        (Question.ofOrder order form.inOrder) := by
    have hFilter :=
      hSub.filter (fun question => question.order == order)
    simpa [Question.ofOrder] using hFilter
  have hLength :
      (Question.ofOrder order form.questions).length =
        (Question.ofOrder order form.inOrder).length :=
    ((List.mergeSort_perm form.questions _).filter _).length_eq.symm
  exact (hOwn.eq_of_length hLength).symm

/- A form asks its questions as they are arranged. -/
theorem arranges_inOrder :
    Question.Arranges form.inOrder form.questions :=
  ⟨List.mergeSort_perm form.questions _, form.ascending_inOrder,
    form.ofOrder_inOrder⟩

end Form

end Questionnaire

------------------------------------------------------------
-- The Questions of a Plan
------------------------------------------------------------

namespace Questionnaire

/-
  What a session knows of a question.  Only a choice has options
  to choose from, whatever the editor left with the others.
-/
structure Prompt.Describes
    (prompt : Prompt)
    (question : Question) : Prop where
  id : prompt.id = question.id
  kind : prompt.kind = question.kind
  label : prompt.label = question.label
  required : prompt.required = question.required
  noOptions :
    question.kind.isChoice = false → prompt.options = []
  options :
    question.kind.isChoice = true →
      prompt.options = question.options.map (·.value)

theorem Prompt.describes_ofQuestion
    (question : Question) :
    (Prompt.ofQuestion question).Describes question := by
  refine ⟨rfl, rfl, rfl, rfl, ?_, ?_⟩
  · intro hField
    simp [ofQuestion, Question.offered, hField]
  · intro hChoice
    simp [ofQuestion, Question.offered, hChoice]

/- The steps that ask are those from one to the last question. -/
theorem Plan.isSome_promptAt?_iff
    {plan : Plan}
    {step : Nat} :
    (plan.promptAt? step).isSome = true ↔
      1 ≤ step ∧ step ≤ plan.prompts.length := by
  rw [Option.isSome_iff_exists]
  constructor
  · rintro ⟨prompt, hPrompt⟩
    exact step_of_promptAt? hPrompt
  · rintro ⟨hPos, hLe⟩
    exact exists_promptAt? hPos hLe

/- Each step asks the question at its place, as it is described. -/
theorem Form.describes_promptAt?
    {form : Form}
    {delays : Delays}
    {step : Nat}
    {prompt : Prompt}
    (hPrompt :
      (Plan.ofForm form delays).promptAt? step = some prompt) :
    ∃ question,
      form.inOrder[step - 1]? = some question ∧
        prompt.Describes question := by
  have hGet := (Plan.promptAt?_eq_some_iff.mp hPrompt).2
  change (form.inOrder.map Prompt.ofQuestion)[step - 1]? = _ at hGet
  rw [List.getElem?_map, Option.map_eq_some_iff] at hGet
  rcases hGet with ⟨question, hQuestion, hOf⟩
  exact
    ⟨question, hQuestion,
      hOf ▸ Prompt.describes_ofQuestion question⟩

/- Questions with orders of their own are asked as ever. -/
theorem Form.inOrder_eq_of_perm
    {form other : Form}
    (hOrders : (form.questions.map (·.order)).Nodup)
    (hPerm : other.questions.Perm form.questions) :
    other.inOrder = form.inOrder := by
  have hOther :
      other.inOrder.Perm form.questions :=
    other.arranges_inOrder.perm.trans hPerm
  have hForm : form.inOrder.Perm form.questions :=
    form.arranges_inOrder.perm
  refine
    List.Perm.eq_of_pairwise ?_ other.ascending_inOrder
      form.ascending_inOrder (hOther.trans hForm.symm)
  intro a b hA hB hLe hGe
  exact
    List.inj_on_of_nodup_map hOrders (hOther.mem_iff.mp hA)
      (hForm.mem_iff.mp hB) (Int.le_antisymm hLe hGe)

/-
  A plan asks the questions of its form, each one as it is
  described, in the one arrangement that they have: ascending,
  with those of one order as they were edited.  The review and
  the commitment come after the last of them.  Where no two
  orders are the same, the plan does not depend on how the
  questions were listed.
-/
theorem plan_asks_in_order
    (form : Form)
    (delays : Delays) :
    let plan := Plan.ofForm form delays
    let count := form.questions.length
    (∃ arranged,
      Question.Arranges arranged form.questions ∧
        (∀ other,
          Question.Arranges other form.questions →
            other = arranged) ∧
        List.Forall₂ Prompt.Describes plan.prompts arranged ∧
        ∀ step prompt,
          plan.promptAt? step = some prompt →
            plan.prompts[step - 1]? = some prompt ∧
              ∃ question,
                arranged[step - 1]? = some question ∧
                  prompt.Describes question) ∧
      (∀ step,
        (plan.promptAt? step).isSome = true ↔
          1 ≤ step ∧ step ≤ count) ∧
      plan.totalSteps = count + 2 ∧
      plan.stepOfCommitment = count + 2 ∧
      plan.stepOfReview + 1 = count + 2 ∧
      ((form.questions.map (·.order)).Nodup →
        ∀ questions : List Question,
          questions.Perm form.questions →
            Plan.ofForm { form with questions := questions }
                delays =
              plan) := by
  intro plan count
  have hArranged := form.arranges_inOrder
  have hPrompts :
      plan.prompts = form.inOrder.map Prompt.ofQuestion := rfl
  have hCount : plan.prompts.length = count := by
    rw [hPrompts, List.length_map, hArranged.perm.length_eq]
  have hDescribed :
      List.Forall₂ Prompt.Describes plan.prompts form.inOrder := by
    rw [hPrompts, List.forall₂_map_left_iff]
    exact
      List.forall₂_same.mpr
        (fun question _ => Prompt.describes_ofQuestion question)
  refine
    ⟨⟨form.inOrder, hArranged,
        fun _ hOther => hArranged.unique hOther, hDescribed, ?_⟩,
      ?_, ?_, ?_, ?_, ?_⟩
  · intro step prompt hPrompt
    exact
      ⟨(Plan.promptAt?_eq_some_iff.mp hPrompt).2,
        Form.describes_promptAt? hPrompt⟩
  · intro step
    rw [← hCount]
    exact Plan.isSome_promptAt?_iff
  · rw [← hCount]
    rfl
  · rw [← hCount]
    rfl
  · rw [← hCount]
    rfl
  · intro hOrders questions hPerm
    have hOrder :
        ({ form with questions := questions } : Form).inOrder =
          form.inOrder :=
      Form.inOrder_eq_of_perm hOrders hPerm
    simp only [plan, Plan.ofForm, hOrder]

/- A form whose questions have the least and the greatest order. -/
def Form.outermost : Form :=
  { company := { name := "Acme", slug := "acme" }
    questions := [
      { id := "size"
        kind := .choiceList
        label := "Size"
        order := 9223372036854775807
        options := [⟨"small", "Small", "10"⟩] },
      { id := "name"
        kind := .shortText
        label := "Name"
        order := -9223372036854775808 }] }

/- It is asked from the least order on, however it is listed. -/
theorem outermost_asked :
    (Form.outermost.questions.map (·.order)).Nodup ∧
      Form.outermost.questions.reverse.Perm
        Form.outermost.questions ∧
      Plan.ofForm
          { Form.outermost with
            questions := Form.outermost.questions.reverse } {} =
        Plan.ofForm Form.outermost {} := by
  have hOrders : (Form.outermost.questions.map (·.order)).Nodup := by
    decide
  have hPerm :
      Form.outermost.questions.reverse.Perm
        Form.outermost.questions :=
    List.reverse_perm _
  rcases plan_asks_in_order Form.outermost {} with
    ⟨_, _, _, _, _, hSame⟩
  exact ⟨hOrders, hPerm, hSame hOrders _ hPerm⟩

end Questionnaire
