import Questionnaire.Proofs.Double.Nearest
import Questionnaire.Proofs.Qualification.Token

/-
  Rules that compare amounts, and the numbers that their texts
  name.

  Amounts are compared as doubles.  These compare only if the
  numbers do, and where no number has more than fifty-three bits
  the converse holds (`amounts_keep_order`).
-/

------------------------------------------------------------
-- Comparing Amounts
------------------------------------------------------------

namespace Questionnaire

variable {compare : Magnitude → Magnitude → Bool}
variable {answer value : String}
variable {m n : Nat}

/- Named numbers are compared as they are rounded. -/
theorem compareAmounts_of_names
    (hAnswer : Amount.Names answer m)
    (hValue : Amount.Names value n) :
    compareAmounts compare answer value =
      compare (.nearest m) (.nearest n) := by
  rw [compareAmounts, Amount.ofText?_of_names hAnswer,
    Amount.ofText?_of_names hValue]

/- Only texts that name numbers compare. -/
theorem exists_names_of_compareAmounts
    (hHolds : compareAmounts compare answer value = true) :
    ∃ m n, Amount.Names answer m ∧ Amount.Names value n := by
  unfold compareAmounts at hHolds
  split at hHolds
  · rename_i hAnswer hValue
    rcases Amount.exists_names_of_ofText? hAnswer with ⟨m, hM⟩
    rcases Amount.exists_names_of_ofText? hValue with ⟨n, hN⟩
    exact ⟨m, n, hM, hN⟩
  · exact absurd hHolds Bool.false_ne_true

end Questionnaire

------------------------------------------------------------
-- Rules that Compare Amounts
------------------------------------------------------------

namespace Questionnaire

namespace Rule

variable {compare : Magnitude → Magnitude → Bool}
variable {rule : Rule}
variable {answers : Answers}
variable {answer : String}
variable {m n : Nat}

/-
  Such a rule holds only of an answer that names a number, in
  the order to that of its value which doubles have only if the
  numbers do.
-/
theorem exists_names_of_holds
    {ordered : Nat → Nat → Prop}
    (hCompare :
      ∀ answer,
        rule.comparison.holds answer rule.value =
          compareAmounts compare answer rule.value)
    (hOrdered :
      ∀ m n,
        compare (.nearest m) (.nearest n) = true → ordered m n)
    (hHolds : rule.holds answers = true) :
    ∃ answer m n,
      answers.get? rule.questionId = some answer ∧
        Amount.Names answer m ∧ Amount.Names rule.value n ∧
        ordered m n := by
  unfold Rule.holds at hHolds
  split at hHolds
  · exact absurd hHolds Bool.false_ne_true
  · rename_i answer hAnswer
    have hCompares := (Bool.and_eq_true_iff.mp hHolds).2
    rw [hCompare answer] at hCompares
    rcases exists_names_of_compareAmounts hCompares with
      ⟨m, n, hM, hN⟩
    rw [compareAmounts_of_names hM hN] at hCompares
    exact ⟨answer, m, n, hAnswer, hM, hN, hOrdered m n hCompares⟩

/- Of such an answer it holds exactly if the doubles compare. -/
theorem holds_of_names
    (hCompare :
      ∀ answer,
        rule.comparison.holds answer rule.value =
          compareAmounts compare answer rule.value)
    (hAnswer : answers.get? rule.questionId = some answer)
    (hM : Amount.Names answer m)
    (hN : Amount.Names rule.value n) :
    rule.holds answers = compare (.nearest m) (.nearest n) := by
  have hFull : answer.isEmpty = false := by
    cases hEmpty : answer.isEmpty with
    | false => rfl
    | true =>
        rcases Amount.exists_names_iff.mp ⟨m, hM⟩ with ⟨c, hMem, _⟩
        rw [String.isEmpty_iff.mp hEmpty] at hMem
        exact absurd hMem List.not_mem_nil
  rw [Rule.holds, hAnswer]
  simp only [hFull, hCompare, compareAmounts_of_names hM hN,
    Bool.not_false, Bool.true_and]

end Rule

/-
  Each text with a digit names one number.  A rule that compares
  amounts holds only if its answer and its value name numbers
  that compare so, whatever their length; where they have no more
  than fifty-three bits it holds in just that case.  So an answer
  is never both greater and less than a value.
-/
theorem amounts_keep_order
    (answers : Answers)
    (questionId value : String)
    (id other : String) :
    let greater : Rule := ⟨id, questionId, .greaterThan, value⟩
    let less : Rule := ⟨other, questionId, .lessThan, value⟩
    (∀ text,
      ((∃ n, Amount.Names text n) ↔
          ∃ c ∈ text.toList, c.isDigit = true) ∧
        ∀ m n,
          Amount.Names text m → Amount.Names text n → m = n) ∧
      (greater.holds answers = true →
        ∃ answer m n,
          answers.get? questionId = some answer ∧
            Amount.Names answer m ∧ Amount.Names value n ∧
            n < m) ∧
      (less.holds answers = true →
        ∃ answer m n,
          answers.get? questionId = some answer ∧
            Amount.Names answer m ∧ Amount.Names value n ∧
            m < n) ∧
      (∀ answer m n,
        answers.get? questionId = some answer →
          Amount.Names answer m →
            Amount.Names value n →
              m ≤ 2 ^ 53 →
                n ≤ 2 ^ 53 →
                  (greater.holds answers = true ↔ n < m) ∧
                    (less.holds answers = true ↔ m < n)) ∧
      ¬ (greater.holds answers = true ∧
          less.holds answers = true) := by
  intro greater less
  have hGreater :
      greater.holds answers = true →
        ∃ answer m n,
          answers.get? questionId = some answer ∧
            Amount.Names answer m ∧ Amount.Names value n ∧
            n < m :=
    Rule.exists_names_of_holds (fun _ => rfl)
      (fun _ _ => Magnitude.lt_of_nearest_lt)
  have hLess :
      less.holds answers = true →
        ∃ answer m n,
          answers.get? questionId = some answer ∧
            Amount.Names answer m ∧ Amount.Names value n ∧
            m < n :=
    Rule.exists_names_of_holds (fun _ => rfl)
      (fun _ _ => Magnitude.lt_of_nearest_lt)
  refine ⟨?_, hGreater, hLess, ?_, ?_⟩
  · intro text
    exact
      ⟨Amount.exists_names_iff, fun _ _ => Amount.names_unique⟩
  · intro answer m n hAnswer hM hN hMBound hNBound
    have hCompare (answer : String) :
        greater.comparison.holds answer greater.value =
          compareAmounts (fun left right => right.lt left)
            answer greater.value :=
      rfl
    have hGreaterHolds :=
      Rule.holds_of_names hCompare hAnswer hM hN
    have hLessHolds :
        less.holds answers =
          (Magnitude.nearest m).lt (.nearest n) :=
      Rule.holds_of_names (fun _ => rfl) hAnswer hM hN
    rw [hGreaterHolds, hLessHolds]
    exact
      ⟨Magnitude.nearest_lt_iff hNBound hMBound,
        Magnitude.nearest_lt_iff hMBound hNBound⟩
  · rintro ⟨hG, hL⟩
    -- Both rules are about one answer, which names one number.
    rcases hGreater hG with ⟨answer, m, n, hAnswer, hM, hN, hLt⟩
    rcases hLess hL with ⟨again, k, l, hAgain, hK, hL, hGt⟩
    have hSame : again = answer :=
      Option.some.inj (hAgain.symm.trans hAnswer)
    rw [hSame] at hK
    rw [Amount.names_unique hK hM, Amount.names_unique hL hN] at hGt
    exact Nat.lt_asymm hLt hGt

/- An amount with a mark, for a question about a bill. -/
def Answers.billed : Answers :=
  Table.empty.insert "bill" "R$ 1.000"

/- It is greater than a range, which stands for its lower end. -/
theorem billed_over_range :
    Amount.Names "R$ 1.000" 1000 ∧
      Amount.Names "R$ 400 a R$ 600" 400 ∧
      (⟨"over", "bill", .greaterThan, "R$ 400 a R$ 600"⟩ :
        Rule).holds Answers.billed = true := by
  have hBefore : ∀ c ∈ "R$ ".toList, c.isDigit = false := by
    intro c hMem
    have hNone :
        "R$ ".toList.all (fun c => !c.isDigit) = true := rfl
    simpa using List.all_eq_true.mp hNone c hMem
  have hAnswer : Amount.Names "R$ 1.000" 1000 := by
    have hNumber : Amount.IsNumber "1.000".toList :=
      .grouped rfl rfl (.cons rfl (.cons rfl (.single rfl)))
    have hEnd : ¬ Amount.Extends [] := nofun
    exact
      ⟨"R$ ".toList, "1.000".toList, [], rfl,
        ⟨hBefore, hNumber,
          (Amount.longest_iff_not_extends hNumber).mpr hEnd⟩,
        by decide⟩
  have hValue : Amount.Names "R$ 400 a R$ 600" 400 := by
    have hNumber : Amount.IsNumber "400".toList :=
      .cons rfl (.cons rfl (.single rfl))
    have hEnd : ¬ Amount.Extends " a R$ 600".toList := by
      intro hExtends
      cases hExtends with
      | digit hDigit => exact absurd hDigit (by decide)
      | grouped hMark _ => exact absurd hMark (by decide)
    exact
      ⟨"R$ ".toList, "400".toList, " a R$ 600".toList, rfl,
        ⟨hBefore, hNumber,
          (Amount.longest_iff_not_extends hNumber).mpr hEnd⟩,
        by decide⟩
  have hFound :
      Answers.billed.get? "bill" = some "R$ 1.000" := by
    simp [Answers.billed]
  rcases amounts_keep_order Answers.billed "bill"
    "R$ 400 a R$ 600" "over" "under" with ⟨_, _, _, hExact, _⟩
  have hHolds :=
    (hExact _ 1000 400 hFound hAnswer hValue (by decide)
      (by decide)).1.mpr (by decide)
  exact ⟨hAnswer, hValue, hHolds⟩

/- Beyond fifty-three bits a greater number may not be told. -/
example :
    Comparison.greaterThan.holds
        "9.007.199.254.740.993" "9007199254740992" = false := by
  decide +kernel

end Questionnaire
