import Mathlib.Data.List.Basic
import Questionnaire.Text.LowerCase

/-
  What is left of a character in lower case.

  A character has the one that its run leads to, or itself
  (`lowerCase_cases`).  No run leads to a Latin capital, and the
  only run below the accented letters is that of these capitals;
  so no Latin capital is left
  (`isUpper_eq_false_of_mem_lowerCase`), and the other characters
  of one byte are their own lower case (`lowerCase_of_plain`).
-/

------------------------------------------------------------
-- Runs of Capitals
------------------------------------------------------------

namespace Questionnaire.Text

/- The capital I with a dot, a capital of some run, or neither. -/
theorem lowerCase_cases
    (c : Char) :
    (c = '\u0130' ∧ lowerCase c = ['i', '\u0307']) ∨
      (∃ run ∈ caseRuns,
        run.holds c.toNat = true ∧
          lowerCase c =
            [Char.ofNat (c.toNat + run.distance).toNat]) ∨
      ((∀ run ∈ caseRuns, run.holds c.toNat = false) ∧
        lowerCase c = [c]) := by
  unfold lowerCase
  split
  case isTrue hDotted => exact .inl ⟨beq_iff_eq.mp hDotted, rfl⟩
  case isFalse =>
    split
    case h_1 run hRun =>
      have hFound :=
        List.find?_eq_some_iff_append.mp hRun
      exact .inr (.inl ⟨run, List.mem_of_find?_eq_some hRun,
        hFound.1, rfl⟩)
    case h_2 hNone =>
      refine .inr (.inr ⟨fun run hRun => ?_, rfl⟩)
      exact Bool.eq_false_iff.mpr
        (List.find?_eq_none.mp hNone run hRun)

/- The capitals of a run lie between its first and its last. -/
theorem CaseRun.bounds_of_holds
    {run : CaseRun}
    {code : Nat}
    (hHolds : run.holds code = true) :
    run.first ≤ code ∧ code ≤ run.last := by
  simp only [holds, Bool.and_eq_true, decide_eq_true_eq] at hHolds
  exact hHolds.1

/-
  The run of the Latin capitals is the first one, and the others
  lie beyond the characters of one byte.
-/
theorem caseRuns_latin :
    ∀ run ∈ caseRuns,
      (run.first = 0x41 ∧ run.last = 0x5A) ∨ 0x80 ≤ run.first := by
  decide +kernel

/- The first run misses no Latin capital. -/
theorem exists_latin :
    ∃ run ∈ caseRuns,
      ∀ code, 0x41 ≤ code → code ≤ 0x5A → run.holds code = true := by
  refine ⟨⟨0x41, 0x5A, 1, 32⟩, List.mem_cons_self, ?_⟩
  intro code hLow hHigh
  simp [CaseRun.holds, hLow, hHigh, Nat.mod_one]

/- No run leads to a Latin capital. -/
theorem caseRuns_lead :
    ∀ run ∈ caseRuns,
      (run.last + run.distance < 0x41) ∨
        0x5A < (run.first + run.distance) := by
  decide +kernel

end Questionnaire.Text

------------------------------------------------------------
-- Latin Characters
------------------------------------------------------------

namespace Questionnaire.Text

theorem isUpper_iff_toNat
    (c : Char) :
    c.isUpper = true ↔ 0x41 ≤ c.toNat ∧ c.toNat ≤ 0x5A := by
  have hIs :
      c.isUpper = decide ('A'.val ≤ c.val ∧ c.val ≤ 'Z'.val) :=
    rfl
  rw [hIs, decide_eq_true_eq, UInt32.le_iff_toNat_le,
    UInt32.le_iff_toNat_le]
  exact Iff.rfl

/- A character that its number puts beside the capitals is none. -/
theorem isUpper_ofNat_eq_false
    {code : Nat}
    (hBeside : code < 0x41 ∨ 0x5A < code) :
    (Char.ofNat code).isUpper = false := by
  rw [← Bool.not_eq_true, isUpper_iff_toNat]
  by_cases hValid : code.isValidChar
  · have hChar : Char.ofNat code = Char.ofNatAux code hValid :=
      dif_pos hValid
    have hCode : (Char.ofNatAux code hValid).toNat = code := rfl
    rw [hChar, hCode]
    omega
  · have hNone : Char.ofNat code = '\x00' := dif_neg hValid
    rw [hNone]
    decide

/- No Latin capital is left in lower case. -/
theorem isUpper_eq_false_of_mem_lowerCase
    {c d : Char}
    (hMem : d ∈ lowerCase c) :
    d.isUpper = false := by
  rcases lowerCase_cases c with
    ⟨_, hLower⟩ | ⟨run, hRun, hHolds, hLower⟩ | ⟨hNone, hLower⟩
  · have hBoth : 'i'.isUpper = false ∧ '\u0307'.isUpper = false := by
      decide
    rw [hLower] at hMem
    rcases List.mem_pair.mp hMem with hEq | hEq
    · rw [hEq]
      exact hBoth.1
    · rw [hEq]
      exact hBoth.2
  · rw [hLower, List.mem_singleton] at hMem
    rw [hMem]
    apply isUpper_ofNat_eq_false
    have hBounds := CaseRun.bounds_of_holds hHolds
    have hLead := caseRuns_lead run hRun
    omega
  · rw [hLower, List.mem_singleton] at hMem
    rw [hMem, ← Bool.not_eq_true, isUpper_iff_toNat]
    rintro ⟨hLow, hHigh⟩
    rcases exists_latin with ⟨run, hRun, hHolds⟩
    have hOutside := hNone run hRun
    rw [hHolds c.toNat hLow hHigh] at hOutside
    exact Bool.noConfusion hOutside

/- A character of one byte that is no capital is its lower case. -/
theorem lowerCase_of_plain
    {c : Char}
    (hByte : c.toNat < 0x80)
    (hSmall : c.isUpper = false) :
    lowerCase c = [c] := by
  rcases lowerCase_cases c with
    ⟨hDotted, _⟩ | ⟨run, hRun, hHolds, _⟩ | ⟨_, hLower⟩
  · rw [hDotted] at hByte
    exact absurd hByte (by decide)
  · have hBounds := CaseRun.bounds_of_holds hHolds
    have hCapital : c.isUpper = true := by
      rw [isUpper_iff_toNat]
      rcases caseRuns_latin run hRun with ⟨hFirst, hLast⟩ | hBeyond
      · omega
      · omega
    rw [hCapital] at hSmall
    exact Bool.noConfusion hSmall
  · exact hLower

end Questionnaire.Text
