import Questionnaire.Qualification
import Mathlib.Data.List.Induction
import Mathlib.Data.List.TakeWhile
import Mathlib.Data.Nat.Digits.Defs

/-
  The first number that a text names.

  Key definitions include:
    * `Amount.IsNumber`
    * `Amount.IsTail`
    * `Amount.Extends`
    * `Amount.Leads`
    * `Amount.Names`

  A number is written with digits, and with at most one mark
  between two of them.  The digits that are read from a text are
  those of the longest number at its first digit
  (`Amount.token?_of_leads`).  So a text names no more than one
  number (`Amount.names_unique`), and one exactly if it has a
  digit (`Amount.exists_names_iff`).
-/

------------------------------------------------------------
-- Written Numbers
------------------------------------------------------------

namespace Questionnaire

namespace Amount

/- Digits, with at most one mark between two of them. -/
inductive IsNumber : List Char → Prop where
  | single
      {c : Char}
      (digit : c.isDigit = true) :
      IsNumber [c]
  | cons
      {c : Char}
      {rest : List Char}
      (digit : c.isDigit = true)
      (more : IsNumber rest) :
      IsNumber (c :: rest)
  | grouped
      {c mark : Char}
      {rest : List Char}
      (digit : c.isDigit = true)
      (isMark : isGroupMark mark = true)
      (more : IsNumber rest) :
      IsNumber (c :: mark :: rest)

/- What may stand behind a digit of a number. -/
def IsTail
    (tail : List Char) : Prop :=
  tail = [] ∨
    IsNumber tail ∨
    ∃ mark more,
      tail = mark :: more ∧
        isGroupMark mark = true ∧ IsNumber more

variable {c mark : Char}
variable {number rest tail : List Char}

/- A mark is no digit. -/
theorem isDigit_of_isGroupMark
    (hMark : isGroupMark mark = true) :
    mark.isDigit = false := by
  have hCases : mark = '.' ∨ mark = ',' := by
    simpa [isGroupMark] using hMark
  rcases hCases with hDot | hComma
  · rw [hDot]
    rfl
  · rw [hComma]
    rfl

namespace IsNumber

/- A number begins with a digit. -/
theorem exists_cons
    (hNumber : IsNumber number) :
    ∃ c rest, number = c :: rest ∧ c.isDigit = true := by
  cases hNumber with
  | single digit => exact ⟨_, _, rfl, digit⟩
  | cons digit _ => exact ⟨_, _, rfl, digit⟩
  | grouped digit _ _ => exact ⟨_, _, rfl, digit⟩

/- A number does not begin with a mark. -/
theorem not_of_isGroupMark
    (hMark : isGroupMark mark = true) :
    ¬ IsNumber (mark :: rest) := by
  intro hNumber
  rcases hNumber.exists_cons with ⟨c, _, hCons, hDigit⟩
  rw [← (List.cons.inj hCons).1, isDigit_of_isGroupMark hMark]
    at hDigit
  exact Bool.false_ne_true hDigit

/- A number is a digit with something that may stand behind it. -/
theorem cons_iff :
    IsNumber (c :: tail) ↔ c.isDigit = true ∧ IsTail tail := by
  constructor
  · intro hNumber
    cases hNumber with
    | single digit => exact ⟨digit, .inl rfl⟩
    | cons digit more => exact ⟨digit, .inr (.inl more)⟩
    | grouped digit isMark more =>
        exact ⟨digit, .inr (.inr ⟨_, _, rfl, isMark, more⟩)⟩
  · rintro ⟨hDigit, hNone | hNext | ⟨mark, more, hCons, hMark, hNext⟩⟩
    · rw [hNone]
      exact .single hDigit
    · exact .cons hDigit hNext
    · rw [hCons]
      exact .grouped hDigit hMark hNext

/- A digit makes a number longer. -/
theorem concat_digit
    (hNumber : IsNumber number)
    (hDigit : c.isDigit = true) :
    IsNumber (number ++ [c]) := by
  induction hNumber with
  | single digit => exact .cons digit (.single hDigit)
  | cons digit _ ih => exact .cons digit ih
  | grouped digit isMark _ ih => exact .grouped digit isMark ih

/- So does a mark with a digit behind it. -/
theorem concat_grouped
    (hNumber : IsNumber number)
    (hMark : isGroupMark mark = true)
    (hDigit : c.isDigit = true) :
    IsNumber (number ++ [mark, c]) := by
  induction hNumber with
  | single digit => exact .grouped digit hMark (.single hDigit)
  | cons digit _ ih => exact .cons digit ih
  | grouped digit isMark _ ih => exact .grouped digit isMark ih

end IsNumber

/- What begins with a digit there is a number itself. -/
theorem IsTail.isNumber
    (hTail : IsTail (c :: rest))
    (hDigit : c.isDigit = true) :
    IsNumber (c :: rest) := by
  rcases hTail with
    hNone | hNumber | ⟨mark, more, hCons, hMark, _⟩
  · exact absurd hNone (List.cons_ne_nil c rest)
  · exact hNumber
  · rw [(List.cons.inj hCons).1, isDigit_of_isGroupMark hMark]
      at hDigit
    exact absurd hDigit Bool.false_ne_true

end Amount

end Questionnaire

------------------------------------------------------------
-- Where a Number Ends
------------------------------------------------------------

namespace Questionnaire

namespace Amount

variable {c mark : Char}
variable {number rest tail after : List Char}

theorem tokenDigits_digit
    (hDigit : c.isDigit = true)
    (rest : List Char) :
    tokenDigits (c :: rest) = c :: tokenDigits rest := by
  rw [tokenDigits, if_pos hDigit]

/- A mark is passed over if a digit is behind it. -/
theorem tokenDigits_mark
    (hMark : isGroupMark mark = true)
    (hDigit : c.isDigit = true)
    (rest : List Char) :
    tokenDigits (mark :: c :: rest) = tokenDigits (c :: rest) := by
  rw [tokenDigits, isDigit_of_isGroupMark hMark,
    if_neg Bool.false_ne_true, hMark]
  simp [hDigit]

/- What makes a number before it longer. -/
inductive Extends : List Char → Prop where
  | digit
      {c : Char}
      {rest : List Char}
      (digit : c.isDigit = true) :
      Extends (c :: rest)
  | grouped
      {mark c : Char}
      {rest : List Char}
      (isMark : isGroupMark mark = true)
      (digit : c.isDigit = true) :
      Extends (mark :: c :: rest)

/- No digit is read where no number goes on. -/
theorem tokenDigits_of_not_extends
    (hEnd : ¬ Extends after) :
    tokenDigits after = [] := by
  cases after with
  | nil => rfl
  | cons c rest =>
      have hDigit : ¬ c.isDigit = true :=
        fun hDigit => hEnd (.digit hDigit)
      rw [tokenDigits, if_neg hDigit]
      apply if_neg
      intro hGroup
      rcases Bool.and_eq_true_iff.mp hGroup with ⟨hMark, hNext⟩
      cases rest with
      | nil => exact Bool.false_ne_true hNext
      | cons d rest => exact hEnd (.grouped hMark hNext)

/- The digits of a number are read up to its end. -/
theorem tokenDigits_append
    (hNumber : IsNumber number)
    (hEnd : ¬ Extends after) :
    tokenDigits (number ++ after) =
      number.filter Char.isDigit := by
  induction hNumber with
  | single digit =>
      rw [List.singleton_append, tokenDigits_digit digit,
        tokenDigits_of_not_extends hEnd,
        List.filter_cons_of_pos digit, List.filter_nil]
  | cons digit _ ih =>
      rw [List.cons_append, tokenDigits_digit digit, ih,
        List.filter_cons_of_pos digit]
  | grouped digit isMark more ih =>
      rcases more.exists_cons with ⟨d, rest, hCons, hNext⟩
      have hMark := isDigit_of_isGroupMark isMark
      rw [List.filter_cons_of_pos digit,
        List.filter_cons_of_neg (by simp [hMark]), ← ih, hCons,
        List.cons_append, List.cons_append, List.cons_append,
        tokenDigits_digit digit, tokenDigits_mark isMark hNext]

/- Where a number may go on, it does unless it ends. -/
theorem IsTail.extends
    (hTail : IsTail tail)
    (hMore : tail ≠ [])
    (rest : List Char) :
    Extends (tail ++ rest) := by
  rcases hTail with
    hNone | hNext | ⟨mark, more, hCons, hMark, hNext⟩
  · exact absurd hNone hMore
  · rcases hNext.exists_cons with ⟨c, _, hDigits, hDigit⟩
    rw [hDigits]
    exact .digit hDigit
  · rcases hNext.exists_cons with ⟨c, _, hDigits, hDigit⟩
    rw [hCons, hDigits]
    exact .grouped hMark hDigit

/- A longer number goes on where the shorter one ends. -/
theorem IsNumber.extends_of_append
    (hNumber : IsNumber number)
    {more : List Char}
    (hLonger : IsNumber (number ++ more))
    (hMore : more ≠ [])
    (rest : List Char) :
    Extends (more ++ rest) := by
  induction hNumber with
  | single _ =>
      exact (IsNumber.cons_iff.mp hLonger).2.extends hMore rest
  | cons _ hNumber ih =>
      apply ih
      rcases hNumber.exists_cons with ⟨d, _, hDigits, hDigit⟩
      have hTail := (IsNumber.cons_iff.mp hLonger).2
      rw [hDigits] at hTail ⊢
      exact hTail.isNumber hDigit
  | grouped _ hMark _ ih =>
      rcases (IsNumber.cons_iff.mp hLonger).2 with
        hNone | hNext | ⟨mark, following, hCons, _, hNext⟩
      · exact absurd hNone (List.cons_ne_nil _ _)
      · exact absurd hNext (IsNumber.not_of_isGroupMark hMark)
      · rw [← (List.cons.inj hCons).2] at hNext
        exact ih hNext

/- A text begins with a number if it begins with a digit. -/
theorem isNumber_of_append
    (hText : c :: rest = number ++ after)
    (hDigit : c.isDigit = true)
    (hEnd : ¬ Extends after)
    (hTail : IsTail number) :
    IsNumber number := by
  cases number with
  | nil =>
      rw [List.nil_append] at hText
      rw [← hText] at hEnd
      exact absurd (.digit hDigit) hEnd
  | cons d number =>
      rw [(List.cons.inj hText).1] at hDigit
      exact hTail.isNumber hDigit

/- A text is cut where what may stand behind a digit ends. -/
theorem exists_tail
    (text : List Char) :
    ∃ tail after,
      text = tail ++ after ∧ ¬ Extends after ∧ IsTail tail := by
  induction text with
  | nil => exact ⟨[], [], rfl, nofun, .inl rfl⟩
  | cons c text ih =>
      by_cases hExtends : Extends (c :: text)
      · rcases ih with ⟨tail, after, hText, hEnd, hTail⟩
        refine
          ⟨c :: tail, after, by rw [hText]; rfl, hEnd, .inr ?_⟩
        cases hExtends with
        | digit hDigit =>
            exact .inl (IsNumber.cons_iff.mpr ⟨hDigit, hTail⟩)
        | grouped hMark hDigit =>
            exact
              .inr ⟨c, tail, rfl, hMark,
                isNumber_of_append hText hDigit hEnd hTail⟩
      · exact ⟨[], c :: text, rfl, hExtends, .inl rfl⟩

/- A text that begins with a digit begins with a number. -/
theorem exists_number_of_digit
    (hDigit : c.isDigit = true)
    (rest : List Char) :
    ∃ number after,
      c :: rest = number ++ after ∧
        IsNumber number ∧ ¬ Extends after := by
  rcases exists_tail (c :: rest) with
    ⟨number, after, hText, hEnd, hTail⟩
  exact
    ⟨number, after, hText,
      isNumber_of_append hText hDigit hEnd hTail, hEnd⟩

end Amount

end Questionnaire

------------------------------------------------------------
-- The First Number of a Text
------------------------------------------------------------

namespace Questionnaire

namespace Amount

/-
  A number leads: no digit is before it, and no longer number
  begins at its place.
-/
structure Leads
    (before number after : List Char) : Prop where
  first : ∀ c ∈ before, c.isDigit = false
  written : IsNumber number
  longest :
    ∀ longer rest,
      number ++ after = longer ++ rest →
        IsNumber longer → longer.length ≤ number.length

/- The number that a text names first, with its marks dropped. -/
def Names
    (text : String)
    (n : Nat) : Prop :=
  ∃ before number after,
    text.toList = before ++ (number ++ after) ∧
      Leads before number after ∧
      Nat.ofDigits 10
          ((number.filter Char.isDigit).reverse.map
            (fun c => c.toNat - '0'.toNat)) =
        n

variable {number before after : List Char}
variable {text : String}
variable {m n : Nat}

/- The longest number is the one that does not go on. -/
theorem longest_iff_not_extends
    (hNumber : IsNumber number) :
    (∀ longer rest,
      number ++ after = longer ++ rest →
        IsNumber longer → longer.length ≤ number.length) ↔
      ¬ Extends after := by
  constructor
  · intro hLongest hExtends
    cases hExtends with
    | @digit c rest hDigit =>
        have hLe :=
          hLongest (number ++ [c]) rest (by simp)
            (hNumber.concat_digit hDigit)
        simp at hLe
    | @grouped mark c rest hMark hDigit =>
        have hLe :=
          hLongest (number ++ [mark, c]) rest (by simp)
            (hNumber.concat_grouped hMark hDigit)
        simp at hLe
  · intro hEnd longer rest hText hLonger
    rcases List.append_eq_append_iff.mp hText with
      ⟨more, hMore, hAfter⟩ | ⟨more, hMore, _⟩
    · cases more with
      | nil => simp [hMore]
      | cons c more =>
          rw [hMore] at hLonger
          have hExtends :=
            hNumber.extends_of_append hLonger
              (List.cons_ne_nil c more) rest
          rw [← hAfter] at hExtends
          exact absurd hExtends hEnd
    · rw [hMore, List.length_append]
      exact Nat.le_add_right _ _

/- What is read is the number that leads, without its marks. -/
theorem token?_of_leads
    (hLeads : Leads before number after) :
    token? (before ++ (number ++ after)) =
      some (number.filter Char.isDigit) := by
  have hEnd : ¬ Extends after :=
    (longest_iff_not_extends hLeads.written).mp hLeads.longest
  have hRead := tokenDigits_append hLeads.written hEnd
  rcases hLeads.written.exists_cons with ⟨c, rest, hCons, hDigit⟩
  have hBefore : ∀ c ∈ before, (!c.isDigit) = true := by
    intro c hMem
    rw [hLeads.first c hMem]
    rfl
  have hFound :
      (before ++ (number ++ after)).dropWhile
          (fun c => !c.isDigit) =
        number ++ after := by
    rw [List.dropWhile_append_of_pos hBefore, hCons]
    exact List.dropWhile_cons_of_neg (by simp [hDigit])
  unfold token?
  rw [hFound, hRead.symm, hCons]
  rfl

/- Digits spell a number in the decimal system. -/
theorem spelledBy_eq_ofDigits
    (digits : List Char) :
    spelledBy digits =
      Nat.ofDigits 10
        (digits.reverse.map (fun c => c.toNat - '0'.toNat)) := by
  induction digits using List.reverseRecOn with
  | nil => rfl
  | append_singleton digits c ih =>
      rw [List.reverse_append, List.reverse_singleton,
        List.singleton_append, List.map_cons, Nat.ofDigits_cons,
        ← ih, spelledBy, List.foldl_append]
      exact (Nat.add_comm _ _).trans
        (congrArg _ (Nat.mul_comm _ _))

/- The amount of a text is its first number, rounded. -/
theorem ofText?_of_names
    (hNames : Names text n) :
    ofText? text = some (.nearest n) := by
  rcases hNames with
    ⟨before, number, after, hText, hLeads, hSpelled⟩
  rw [ofText?, hText, token?_of_leads hLeads, Option.map_some,
    spelledBy_eq_ofDigits, hSpelled]

/- A text has one first number. -/
theorem names_unique
    (hM : Names text m)
    (hN : Names text n) :
    m = n := by
  rcases hM with ⟨_, number, _, hText, hLeads, hSpelled⟩
  rcases hN with ⟨_, other, _, hText', hLeads', hSpelled'⟩
  have hToken := token?_of_leads hLeads
  have hToken' := token?_of_leads hLeads'
  rw [← hText] at hToken
  rw [← hText', hToken] at hToken'
  rw [← hSpelled, ← hSpelled', Option.some.inj hToken']

/- A text names a number if it has a digit. -/
theorem exists_names_iff :
    (∃ n, Names text n) ↔
      ∃ c ∈ text.toList, c.isDigit = true := by
  constructor
  · rintro ⟨n, before, number, after, hText, hLeads, _⟩
    rcases hLeads.written.exists_cons with
      ⟨c, rest, hCons, hDigit⟩
    exact ⟨c, by simp [hText, hCons], hDigit⟩
  · intro hHas
    rcases Option.isSome_iff_exists.mp
      (List.find?_isSome.mpr hHas) with ⟨c, hFind⟩
    rcases List.find?_eq_some_iff_append.mp hFind with
      ⟨hDigit, before, rest, hText, hBefore⟩
    rcases exists_number_of_digit hDigit rest with
      ⟨number, after, hRest, hNumber, hEnd⟩
    rw [hRest] at hText
    refine ⟨_, before, number, after, hText, ⟨?_, hNumber, ?_⟩, rfl⟩
    · intro d hMem
      simpa using hBefore d hMem
    · exact (longest_iff_not_extends hNumber).mpr hEnd

/- A text without a digit has no amount. -/
theorem ofText?_of_no_digit
    (hNone : ∀ c ∈ text.toList, c.isDigit = false) :
    ofText? text = none := by
  have hDrop :
      text.toList.dropWhile (fun c => !c.isDigit) = [] := by
    rw [List.dropWhile_eq_nil_iff]
    intro c hMem
    rw [hNone c hMem]
    rfl
  rw [ofText?, token?, hDrop]
  rfl

/- A text that has an amount names a number. -/
theorem exists_names_of_ofText?
    {amount : Magnitude}
    (hAmount : ofText? text = some amount) :
    ∃ n, Names text n := by
  rw [exists_names_iff]
  by_contra hNone
  have hNoDigit : ∀ c ∈ text.toList, c.isDigit = false := by
    intro c hMem
    rw [← Bool.not_eq_true]
    exact fun hDigit => hNone ⟨c, hMem, hDigit⟩
  rw [ofText?_of_no_digit hNoDigit] at hAmount
  exact nomatch hAmount

end Amount

end Questionnaire
