import Questionnaire.Entry.Validator
import Mathlib.Data.List.Basic

/-
  What is stored of an entry is judged like the entry itself.

  Key definitions include:
    * `Validator.sample`

  A telephone number is stored as it is laid out, and laying it
  out keeps its digits (`Phone.filter_layOut`).  So judging what
  is stored gives the same entry again (`Validator.judge_value`).
-/

------------------------------------------------------------
-- Telephone Numbers
------------------------------------------------------------

namespace Questionnaire.Phone

/- The digits of an entry are digits, and not too many. -/
theorem digits_spec
    (entry : List Char) :
    (∀ c ∈ digits entry, c.isDigit = true) ∧
      (digits entry).length ≤ maxDigits := by
  constructor
  · intro c hMem
    have hFilter := List.mem_of_mem_take hMem
    exact (List.mem_filter.mp hFilter).2
  · exact List.length_take_le _ _

/- The three groups of a number make up all of it. -/
theorem groups_append
    (number : List Char) :
    number.take 2 ++ (number.drop 2).take 5 ++ number.drop 7 =
      number := by
  have hRest :
      (number.drop 2).take 5 ++ number.drop 7 =
        number.drop 2 := by
    rw [show number.drop 7 = (number.drop 2).drop 5 by simp]
    exact List.take_append_drop 5 (number.drop 2)
  rw [List.append_assoc, hRest]
  exact List.take_append_drop 2 number

/- Laying a number out adds no digit and loses none. -/
theorem filter_layOut
    {number : List Char}
    (hDigits : ∀ c ∈ number, c.isDigit = true) :
    (layOut number).filter Char.isDigit = number := by
  have hTake (count : Nat) :
      (number.take count).filter Char.isDigit =
        number.take count := by
    apply List.filter_eq_self.mpr
    intro c hMem
    exact hDigits c (List.mem_of_mem_take hMem)
  have hDrop (count : Nat) :
      (number.drop count).filter Char.isDigit =
        number.drop count := by
    apply List.filter_eq_self.mpr
    intro c hMem
    exact hDigits c (List.mem_of_mem_drop hMem)
  have hMiddle :
      ((number.drop 2).take 5).filter Char.isDigit =
        (number.drop 2).take 5 := by
    apply List.filter_eq_self.mpr
    intro c hMem
    exact hDigits c
      (List.mem_of_mem_drop (List.mem_of_mem_take hMem))
  -- A group is left out only where no digit falls into it.
  have hLine :
      (if 2 < number.length then
          [')', ' '] ++ (number.drop 2).take 5
        else []).filter Char.isDigit =
        (number.drop 2).take 5 := by
    split
    · simp [hMiddle]
    · rename_i hShort
      have hNone : number.drop 2 = [] :=
        List.drop_eq_nil_of_le (Nat.le_of_not_lt hShort)
      simp [hNone]
  have hEnd :
      (if 7 < number.length then
          '-' :: number.drop 7
        else []).filter Char.isDigit =
        number.drop 7 := by
    split
    · simp [hDrop]
    · rename_i hShort
      have hNone : number.drop 7 = [] :=
        List.drop_eq_nil_of_le (Nat.le_of_not_lt hShort)
      simp [hNone]
  unfold layOut
  cases hEmpty : number.isEmpty with
  | true => simp [List.isEmpty_iff.mp hEmpty]
  | false =>
      rw [if_neg (by simp), List.filter_append,
        List.filter_append, hLine, hEnd,
        List.filter_cons_of_neg (by decide), hTake]
      exact groups_append number

/- A stored number has the digits of its entry. -/
theorem digits_format
    (entry : String) :
    digits (format entry).toList = digits entry.toList := by
  rcases digits_spec entry.toList with ⟨hDigits, hLength⟩
  rw [format, String.toList_ofList]
  rw [digits.eq_def (layOut _), filter_layOut hDigits]
  exact List.take_of_length_le hLength

/- A stored number is laid out already. -/
theorem format_format
    (entry : String) :
    format (format entry) = format entry := by
  rw [format.eq_def (format entry), digits_format]
  exact (format.eq_def entry).symm

/- Digits of one number, laid out, fit into a field for it. -/
theorem length_layOut_le
    {number : List Char}
    (hLength : number.length ≤ maxDigits) :
    (layOut number).length ≤ maxLength := by
  have hArea : (number.take 2).length ≤ 2 :=
    List.length_take_le 2 number
  have hLine :
      (if 2 < number.length then
          [')', ' '] ++ (number.drop 2).take 5
        else []).length ≤ 7 := by
    split
    · rw [List.length_append]
      exact Nat.add_le_add_left (List.length_take_le 5 _) 2
    · exact Nat.zero_le _
  have hEnd :
      (if 7 < number.length then
          '-' :: number.drop 7
        else []).length ≤ 5 := by
    split
    · rw [List.length_cons, List.length_drop]
      unfold maxDigits at hLength
      omega
    · exact Nat.zero_le _
  unfold layOut maxLength
  split
  · exact Nat.zero_le _
  · rw [List.length_append, List.length_append, List.length_cons]
    omega

/- So does every number that is stored. -/
theorem length_format_le
    (entry : String) :
    (format entry).length ≤ maxLength := by
  rw [format, String.length_ofList]
  exact length_layOut_le (digits_spec entry.toList).2

end Questionnaire.Phone

------------------------------------------------------------
-- Stored Entries
------------------------------------------------------------

namespace Questionnaire

namespace Validator

/- What is stored is judged as before, and stored as it is. -/
theorem judge_value
    (validator : Validator)
    (raw : String)
    (required : Bool) :
    validator.judge (validator.judge raw required).value
        required =
      validator.judge raw required := by
  cases validator with
  | text => rfl
  | email => rfl
  | phone =>
      simp only [judge, Phone.digits_format,
        Phone.format_format]

/- A kind has no validator exactly if it is a choice. -/
theorem ofKind?_eq_none_iff
    (kind : Kind) :
    ofKind? kind = none ↔ kind.isChoice = true := by
  cases kind <;> simp [ofKind?, Kind.isChoice]

/- An entry that will do in any field. -/
def sample : Validator → String
  | .text => "Ana"
  | .email => "ana@example.com"
  | .phone => "11987654321"

/- It will do whether the field is required or not. -/
theorem valid_sample
    (validator : Validator)
    (required : Bool) :
    (validator.judge validator.sample required).valid = true := by
  cases validator <;> cases required <;> decide +kernel

end Validator

end Questionnaire
