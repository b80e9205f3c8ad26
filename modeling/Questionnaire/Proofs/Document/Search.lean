import Mathlib.Data.List.Basic

/-
  Searching a text for a mark.

  Key definitions include:
    * `occurrences`
    * `cut?`
    * `isClear`

  A text is clear of a mark if the mark begins nowhere in it,
  whatever comes after the text.  So clear texts may be put
  together (`isClear_append`), and a search passes over them
  (`occurrences_append`, `cut?_append`).
-/

------------------------------------------------------------
-- Searching
------------------------------------------------------------

namespace Questionnaire.Document

/- The number of places at which a mark begins. -/
def occurrences
    (mark : List Char) : List Char → Nat
  | [] => 0
  | c :: rest =>
      (if mark.isPrefixOf (c :: rest) then 1 else 0)
        + occurrences mark rest

/- What stands before and after the first place of a mark. -/
def cut?
    (mark : List Char) : List Char → Option (List Char × List Char)
  | [] => none
  | c :: rest =>
      if mark.isPrefixOf (c :: rest) then
        some ([], (c :: rest).drop mark.length)
      else
        (cut? mark rest).map
          (fun (before, after) => (c :: before, after))

/- Whether one of two texts begins with the other. -/
def meets : List Char → List Char → Bool
  | [], _ => true
  | _, [] => true
  | a :: mark, b :: text => a == b && meets mark text

/- Whether a mark begins nowhere in a text, whatever follows. -/
def isClear
    (mark : List Char) : List Char → Bool
  | [] => true
  | c :: rest => !meets mark (c :: rest) && isClear mark rest

end Questionnaire.Document

------------------------------------------------------------
-- Clear Texts
------------------------------------------------------------

namespace Questionnaire.Document

variable {mark text rest : List Char}

theorem isClear_cons
    {c : Char} :
    isClear mark (c :: text) = true ↔
      meets mark (c :: text) = false ∧ isClear mark text = true := by
  rw [isClear, Bool.and_eq_true, Bool.not_eq_true']

/- What meets a longer text meets its beginning. -/
theorem meets_of_append
    (hMeets : meets mark (text ++ rest) = true) :
    meets mark text = true := by
  induction mark generalizing text with
  | nil => rfl
  | cons a mark ih =>
      cases text with
      | nil => rfl
      | cons b text =>
          rw [List.cons_append, meets, Bool.and_eq_true] at hMeets
          rw [meets, Bool.and_eq_true]
          exact ⟨hMeets.1, ih hMeets.2⟩

/- A mark meets the text that it begins. -/
theorem meets_of_isPrefixOf
    (hBegins : mark.isPrefixOf text = true) :
    meets mark text = true := by
  induction mark generalizing text with
  | nil => rfl
  | cons a mark ih =>
      cases text with
      | nil => rfl
      | cons b text =>
          rw [List.isPrefixOf_cons_cons, Bool.and_eq_true] at hBegins
          rw [meets, Bool.and_eq_true]
          exact ⟨hBegins.1, ih hBegins.2⟩

/- A text that meets a mark meets the beginning of the mark. -/
theorem meets_of_longer
    {start : List Char}
    (hMeets : meets (start ++ mark) text = true) :
    meets start text = true := by
  induction start generalizing text with
  | nil => rfl
  | cons a start ih =>
      cases text with
      | nil => rfl
      | cons b text =>
          rw [List.cons_append, meets, Bool.and_eq_true] at hMeets
          rw [meets, Bool.and_eq_true]
          exact ⟨hMeets.1, ih hMeets.2⟩

/- A mark does not begin in a clear text. -/
theorem not_isPrefixOf_append
    {c : Char}
    (hMeets : meets mark (c :: text) = false)
    (rest : List Char) :
    mark.isPrefixOf (c :: (text ++ rest)) = false := by
  have hLonger : ¬ meets mark (c :: text ++ rest) = true :=
    mt meets_of_append (Bool.eq_false_iff.mp hMeets)
  exact Bool.eq_false_iff.mpr (mt meets_of_isPrefixOf hLonger)

/- Clear texts, one after another, are clear. -/
theorem isClear_append
    (hText : isClear mark text = true)
    (hRest : isClear mark rest = true) :
    isClear mark (text ++ rest) = true := by
  induction text with
  | nil => exact hRest
  | cons c text ih =>
      rcases isClear_cons.mp hText with ⟨hMeets, hClear⟩
      refine isClear_cons.mpr ⟨?_, ih hClear⟩
      have hLonger : ¬ meets mark (c :: text ++ rest) = true :=
        mt meets_of_append (Bool.eq_false_iff.mp hMeets)
      exact Bool.eq_false_iff.mpr hLonger

theorem isClear_flatten
    {parts : List (List Char)}
    (hParts : ∀ part ∈ parts, isClear mark part = true) :
    isClear mark parts.flatten = true := by
  induction parts with
  | nil => rfl
  | cons part parts ih =>
      rw [List.flatten_cons]
      exact isClear_append (hParts part List.mem_cons_self)
        (ih (fun other hOther =>
          hParts other (List.mem_cons_of_mem part hOther)))

/- A text without the beginning of a mark is clear of it. -/
theorem isClear_of_start
    {start : List Char}
    (hClear : isClear start text = true) :
    isClear (start ++ mark) text = true := by
  induction text with
  | nil => rfl
  | cons c text ih =>
      rcases isClear_cons.mp hClear with ⟨hMeets, hText⟩
      refine isClear_cons.mpr ⟨?_, ih hText⟩
      exact Bool.eq_false_iff.mpr
        (mt meets_of_longer (Bool.eq_false_iff.mp hMeets))

/- A text without the first character of a mark is clear of it. -/
theorem isClear_of_not_mem
    {c : Char}
    (hNotMem : c ∉ text) :
    isClear (c :: mark) text = true := by
  induction text with
  | nil => rfl
  | cons d text ih =>
      rcases List.ne_and_not_mem_of_not_mem_cons hNotMem with
        ⟨hNe, hText⟩
      refine isClear_cons.mpr ⟨?_, ih hText⟩
      rw [meets, beq_false_of_ne hNe, Bool.false_and]

end Questionnaire.Document

------------------------------------------------------------
-- Passing over Clear Texts
------------------------------------------------------------

namespace Questionnaire.Document

variable {mark text : List Char}

/- A mark that comes after a clear text is found there. -/
theorem occurrences_append
    (hClear : isClear mark text = true)
    (rest : List Char) :
    occurrences mark (text ++ rest) = occurrences mark rest := by
  induction text with
  | nil => rfl
  | cons c text ih =>
      rcases isClear_cons.mp hClear with ⟨hMeets, hText⟩
      rw [List.cons_append, occurrences,
        not_isPrefixOf_append hMeets, ih hText]
      exact Nat.zero_add _

/- The text before a mark is the clear text before it. -/
theorem cut?_append
    {c : Char}
    (hClear : isClear (c :: mark) text = true)
    (rest : List Char) :
    cut? (c :: mark) (text ++ (c :: mark ++ rest)) =
      some (text, rest) := by
  induction text with
  | nil =>
      have hBegins :
          (c :: mark).isPrefixOf (c :: (mark ++ rest)) = true :=
        List.isPrefixOf_iff_prefix.mpr ⟨rest, rfl⟩
      rw [List.nil_append, List.cons_append, cut?, if_pos hBegins,
        List.length_cons, List.drop_succ_cons, List.drop_left]
  | cons d text ih =>
      rcases isClear_cons.mp hClear with ⟨hMeets, hText⟩
      have hNot :=
        not_isPrefixOf_append hMeets (c :: mark ++ rest)
      rw [List.cons_append, cut?, hNot, ih hText]
      rfl

/- A mark is found once where it stands. -/
theorem occurrences_mark
    {c : Char}
    (hOnce : c ∉ mark)
    (rest : List Char) :
    occurrences (c :: mark) (c :: mark ++ rest) =
      1 + occurrences (c :: mark) rest := by
  have hBegins :
      (c :: mark).isPrefixOf (c :: (mark ++ rest)) = true :=
    List.isPrefixOf_iff_prefix.mpr ⟨rest, rfl⟩
  rw [List.cons_append, occurrences, if_pos hBegins,
    occurrences_append (isClear_of_not_mem hOnce)]

/- A mark is not found in a clear text. -/
theorem occurrences_of_clear
    (hClear : isClear mark text = true) :
    occurrences mark text = 0 := by
  have hAll := occurrences_append hClear []
  rw [List.append_nil] at hAll
  exact hAll

end Questionnaire.Document
