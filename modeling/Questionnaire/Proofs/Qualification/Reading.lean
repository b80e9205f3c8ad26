import Questionnaire.Proofs.Double.Rounding
import Questionnaire.Proofs.Qualification.Token
import Questionnaire.Proofs.Text.Pattern

/-
  The amount of a text is read off its first number.

  Key definitions include:
    * `Amount.pattern`
    * `Amount.valueOf`

  The numbers are the texts of a pattern
  (`Amount.isNumber_iff_mem`).  The longest one at the first
  digit is also what a search for the pattern finds
  (`Amount.find?_of_leads`), for each way on that the search
  tries first is the right one.  So what stands around that
  number does not count (`amount_of_first_number`).
-/

------------------------------------------------------------
-- The Pattern of Numbers
------------------------------------------------------------

namespace Questionnaire

namespace Amount

open Text

/- A run of digits. -/
def digits : Pattern :=
  Pattern.oneOrMore (.among Char.isDigit)

/- A mark and the digits behind it. -/
def group : Pattern :=
  .followed (.among isGroupMark) digits

/- Digits, and any number of groups. -/
def pattern : Pattern :=
  .followed digits (.repeated group)

/- The number that a text spells once its marks are deleted. -/
def valueOf
    (number : List Char) : Nat :=
  Nat.ofDigits 10
    ((number.filter (fun c => !isGroupMark c)).reverse.map
      (fun c => c.toNat - '0'.toNat))

variable {c mark : Char}
variable {number rest more after before : List Char}

theorem mem_texts_digits :
    rest ∈ digits.texts ↔ rest ≠ [] ∧ ∀ c ∈ rest, c.isDigit = true :=
  Pattern.mem_texts_oneOrMore_among

theorem mem_texts_group :
    rest ∈ group.texts ↔
      ∃ mark more,
        rest = mark :: more ∧ isGroupMark mark = true ∧
          more ∈ digits.texts := by
  rw [group, Pattern.mem_texts_followed]
  constructor
  · rintro ⟨_, ⟨mark, hMark, hFound⟩, more, hMore, hText⟩
    refine ⟨mark, more, ?_, hMark, hMore⟩
    rw [← hText, hFound]
    rfl
  · rintro ⟨mark, more, hText, hMark, hMore⟩
    exact ⟨[mark], ⟨mark, hMark, rfl⟩, more, hMore, hText.symm⟩

/- Digits make a number longer. -/
theorem IsNumber.append_digits
    (hNumber : IsNumber number)
    (hDigits : ∀ c ∈ more, c.isDigit = true) :
    IsNumber (number ++ more) := by
  induction more generalizing number with
  | nil =>
      rw [List.append_nil]
      exact hNumber
  | cons c more ih =>
      rcases List.forall_mem_cons.mp hDigits with ⟨hDigit, hMore⟩
      rw [List.append_cons]
      exact ih (hNumber.concat_digit hDigit) hMore

/- So do groups. -/
theorem IsNumber.append_groups
    (hNumber : IsNumber number)
    {groups : List (List Char)}
    (hGroups : ∀ word ∈ groups, word ∈ group.texts) :
    IsNumber (number ++ groups.flatten) := by
  induction groups generalizing number with
  | nil =>
      rw [List.flatten_nil, List.append_nil]
      exact hNumber
  | cons word groups ih =>
      rcases List.forall_mem_cons.mp hGroups with ⟨hWord, hMore⟩
      rcases mem_texts_group.mp hWord with
        ⟨mark, rest, hText, hMark, hRest⟩
      rcases mem_texts_digits.mp hRest with ⟨hSome, hDigits⟩
      cases rest with
      | nil => exact absurd rfl hSome
      | cons d rest =>
          rcases List.forall_mem_cons.mp hDigits with
            ⟨hDigit, hBehind⟩
          have hLonger :=
            (hNumber.concat_grouped hMark hDigit).append_digits
              hBehind
          rw [List.flatten_cons, ← List.append_assoc, hText]
          rw [List.append_assoc] at hLonger
          exact ih hLonger hMore

/- The numbers are the texts of the pattern. -/
theorem isNumber_iff_mem :
    IsNumber number ↔ number ∈ pattern.texts := by
  rw [pattern, Pattern.mem_texts_followed]
  constructor
  · intro hNumber
    induction hNumber with
    | @single c hDigit =>
        refine ⟨[c], mem_texts_digits.mpr ⟨by simp, ?_⟩, [], ?_, rfl⟩
        · simpa using hDigit
        · exact Language.nil_mem_kstar group.texts
    | @cons c rest hDigit _ ih =>
        rcases ih with ⟨found, hFound, groups, hGroups, hText⟩
        refine ⟨c :: found, mem_texts_digits.mpr ⟨by simp, ?_⟩,
          groups, hGroups, by rw [← hText]; rfl⟩
        exact List.forall_mem_cons.mpr
          ⟨hDigit, (mem_texts_digits.mp hFound).2⟩
    | @grouped c mark rest hDigit hMark _ ih =>
        rcases ih with ⟨found, hFound, groups, hGroups, hText⟩
        refine ⟨[c], mem_texts_digits.mpr ⟨by simp, ?_⟩,
          (mark :: found) ++ groups, ?_, by rw [← hText]; rfl⟩
        · simpa using hDigit
        · rcases Pattern.mem_texts_repeated.mp hGroups with
            ⟨words, hWords, hEach⟩
          refine Pattern.mem_texts_repeated.mpr
            ⟨(mark :: found) :: words, ?_, ?_⟩
          · rw [List.flatten_cons, hWords]
          · refine List.forall_mem_cons.mpr ⟨?_, hEach⟩
            exact mem_texts_group.mpr
              ⟨mark, found, rfl, hMark, hFound⟩
  · rintro ⟨found, hFound, groups, hGroups, hText⟩
    rcases mem_texts_digits.mp hFound with ⟨hSome, hDigits⟩
    rcases Pattern.mem_texts_repeated.mp hGroups with
      ⟨words, hWords, hEach⟩
    cases found with
    | nil => exact absurd rfl hSome
    | cons c found =>
        rcases List.forall_mem_cons.mp hDigits with
          ⟨hDigit, hMore⟩
        rw [← hText, hWords]
        exact
          ((IsNumber.single hDigit).append_digits
            hMore).append_groups hEach

end Amount

end Questionnaire

------------------------------------------------------------
-- Searching for a Number
------------------------------------------------------------

namespace Questionnaire

namespace Amount

open Text

variable {c mark : Char}
variable {number rest after before : List Char}
variable {rounds : Nat}

/- No run of digits is found where no digit stands. -/
theorem rests_digits_of_none
    (hNone : ∀ c ∈ rest.head?, c.isDigit = false) :
    digits.rests rest = [] :=
  Pattern.rests_followed_of_nil (Pattern.rests_among_of_none hNone)

/- A group takes all of the digits behind its mark. -/
theorem head?_rests_group
    (hMark : isGroupMark mark = true)
    (hDigit : c.isDigit = true)
    (rest : List Char) :
    (group.rests (mark :: c :: rest)).head? =
      some (rest.dropWhile Char.isDigit) := by
  rw [group, Pattern.rests_followed_of_singleton
    (Pattern.rests_among_cons hMark _)]
  exact Pattern.head?_rests_oneOrMore_among hDigit rest

/- No group is found where a number does not go on. -/
theorem rests_group_of_not_extends
    (hEnd : ¬ Extends after) :
    group.rests after = [] := by
  cases after with
  | nil => rfl
  | cons mark rest =>
      by_cases hMark : isGroupMark mark = true
      · rw [group, Pattern.rests_followed_of_singleton
          (Pattern.rests_among_cons hMark _)]
        apply rests_digits_of_none
        intro c hHead
        rcases List.head?_eq_some_iff.mp hHead with ⟨more, hCons⟩
        rw [hCons] at hEnd
        exact Bool.eq_false_iff.mpr
          (fun hDigit => hEnd (.grouped hMark hDigit))
      · apply Pattern.rests_followed_of_nil
        rw [Pattern.rests, if_neg hMark]

/- The digits of a number end where it does not go on. -/
theorem dropWhile_of_not_extends
    (hEnd : ¬ Extends after) :
    after.dropWhile Char.isDigit = after := by
  cases after with
  | nil => rfl
  | cons c rest =>
      exact List.dropWhile_cons_of_neg
        (fun hDigit => hEnd (.digit hDigit))

/-
  Behind the first digits of a number its groups are taken one
  by one, and nothing after them.
-/
theorem head?_afterRounds_group
    (hNumber : IsNumber number)
    (hEnd : ¬ Extends after)
    (hRounds :
      ((number.tail ++ after).dropWhile Char.isDigit).length ≤
        rounds) :
    (Pattern.afterRounds group.rests rounds
        ((number.tail ++ after).dropWhile Char.isDigit)).head? =
      some after := by
  induction hNumber generalizing rounds with
  | single _ =>
      rw [List.tail_cons, List.nil_append,
        dropWhile_of_not_extends hEnd]
      exact Pattern.head?_afterRounds_of_nil
        (rests_group_of_not_extends hEnd) rounds
  | @cons c rest _ hMore ih =>
      rcases hMore.exists_cons with ⟨d, behind, hCons, hDigit⟩
      rw [hCons, List.tail_cons] at ih hRounds ⊢
      rw [List.cons_append, List.dropWhile_cons_of_pos hDigit]
        at hRounds ⊢
      exact ih hRounds
  | @grouped c mark rest _ hMark hMore ih =>
      rcases hMore.exists_cons with ⟨d, behind, hCons, hDigit⟩
      have hNotDigit : ¬ mark.isDigit = true := by
        rw [isDigit_of_isGroupMark hMark]
        exact Bool.false_ne_true
      rw [hCons, List.tail_cons] at ih hRounds ⊢
      rw [List.cons_append, List.cons_append,
        List.dropWhile_cons_of_neg hNotDigit] at hRounds ⊢
      have hLe :
          ((behind ++ after).dropWhile Char.isDigit).length ≤
            (behind ++ after).length :=
        (List.dropWhile_sublist Char.isDigit).length_le
      cases rounds with
      | zero => exact absurd hRounds (Nat.not_succ_le_zero _)
      | succ rounds =>
          rw [List.length_cons, List.length_cons] at hRounds
          refine Pattern.head?_afterRounds_of_round
            (head?_rests_group hMark hDigit _) ?_ (ih (by omega))
          rw [List.length_cons, List.length_cons]
          omega

/- A search takes a number up to its end. -/
theorem head?_rests_pattern
    (hNumber : IsNumber number)
    (hEnd : ¬ Extends after) :
    (pattern.rests (number ++ after)).head? = some after := by
  have hGroups :=
    head?_afterRounds_group hNumber hEnd (Nat.le_refl _)
  rcases hNumber.exists_cons with ⟨c, rest, hCons, hDigit⟩
  rw [hCons, List.tail_cons] at hGroups
  rw [hCons, List.cons_append]
  exact Pattern.head?_rests_followed
    (Pattern.head?_rests_oneOrMore_among hDigit _) hGroups

/- It passes over all that stands before the first digit. -/
theorem find?_append
    (hBefore : ∀ c ∈ before, c.isDigit = false)
    (rest : List Char) :
    pattern.find? (before ++ rest) = pattern.find? rest := by
  induction before with
  | nil => rfl
  | cons c before ih =>
      rcases List.forall_mem_cons.mp hBefore with ⟨hChar, hMore⟩
      rw [← ih hMore, List.cons_append]
      apply Pattern.find?_cons_of_nil
      apply Pattern.rests_followed_of_nil
      apply rests_digits_of_none
      intro d hHead
      rw [List.head?_cons, Option.mem_some_iff] at hHead
      rw [← hHead]
      exact hChar

/- So it finds the number that leads. -/
theorem find?_of_leads
    (hLeads : Leads before number after) :
    pattern.find? (before ++ (number ++ after)) = some number := by
  have hEnd :=
    (longest_iff_not_extends hLeads.written).mp hLeads.longest
  rw [find?_append hLeads.first]
  exact Pattern.find?_of_head?
    (head?_rests_pattern hLeads.written hEnd)

end Amount

end Questionnaire

------------------------------------------------------------
-- The First Match
------------------------------------------------------------

namespace Questionnaire

namespace Amount

open Text

variable {c : Char}
variable {number after before start rest : List Char}

/- A number that ends is the longest one where it begins. -/
theorem isLongest_iff_not_extends
    (hNumber : IsNumber number) :
    IsLongest pattern.texts number after ↔ ¬ Extends after := by
  rw [← longest_iff_not_extends hNumber]
  simp only [IsLongest, ← isNumber_iff_mem]

/- The number at the first digit is the first match. -/
theorem isFirstMatch_iff_leads :
    IsFirstMatch pattern.texts before number after ↔
      Leads before number after := by
  constructor
  · intro hMatch
    have hNumber := isNumber_iff_mem.mpr hMatch.matched
    refine ⟨?_, hNumber, ?_⟩
    · intro c hMem
      refine Bool.eq_false_iff.mpr ?_
      intro hDigit
      -- A digit before the number would be a match itself.
      rcases List.append_of_mem hMem with ⟨start, rest, hBefore⟩
      have hLe :=
        hMatch.leftmost start [c] (rest ++ (number ++ after))
          (by rw [hBefore]; simp)
          (isNumber_iff_mem.mp (.single hDigit))
      rw [hBefore, List.length_append, List.length_cons] at hLe
      omega
    · exact (longest_iff_not_extends hNumber).mpr
        ((isLongest_iff_not_extends hNumber).mp hMatch.longest)
  · intro hLeads
    refine ⟨isNumber_iff_mem.mp hLeads.written, ?_, ?_⟩
    · intro start other rest hText hOther
      rcases (isNumber_iff_mem.mpr hOther).exists_cons with
        ⟨c, more, hCons, hDigit⟩
      rcases List.append_eq_append_iff.mp hText with
        ⟨between, hStart, _⟩ | ⟨between, hBefore, hRest⟩
      · rw [hStart, List.length_append]
        exact Nat.le_add_right _ _
      · cases between with
        | nil => rw [hBefore, List.append_nil]
        | cons d between =>
            -- The other number would begin before the first digit.
            rw [hCons] at hRest
            have hFirst := hLeads.first d (by simp [hBefore])
            rw [← (List.cons.inj hRest).1, hDigit] at hFirst
            exact absurd hFirst.symm Bool.false_ne_true
    · exact (isLongest_iff_not_extends hLeads.written).mpr
        ((longest_iff_not_extends hLeads.written).mp hLeads.longest)

/- A number has digits and marks. -/
theorem IsNumber.isDigit_eq
    (hNumber : IsNumber number) :
    ∀ c ∈ number, c.isDigit = !isGroupMark c := by
  have hDigitEq {c : Char} (hDigit : c.isDigit = true) :
      c.isDigit = !isGroupMark c := by
    cases hMark : isGroupMark c with
    | false => exact hDigit
    | true =>
        rw [isDigit_of_isGroupMark hMark] at hDigit
        exact absurd hDigit Bool.false_ne_true
  induction hNumber with
  | single hDigit => simpa using hDigitEq hDigit
  | cons hDigit _ ih =>
      exact List.forall_mem_cons.mpr ⟨hDigitEq hDigit, ih⟩
  | grouped hDigit hMark _ ih =>
      refine List.forall_mem_cons.mpr
        ⟨hDigitEq hDigit, List.forall_mem_cons.mpr ⟨?_, ih⟩⟩
      rw [isDigit_of_isGroupMark hMark, hMark, Bool.not_true]

/- Its digits are what is left without the marks. -/
theorem spelledBy_eq_valueOf
    (hNumber : IsNumber number) :
    spelledBy (number.filter Char.isDigit) = valueOf number := by
  rw [spelledBy_eq_ofDigits, List.filter_congr hNumber.isDigit_eq,
    valueOf]

/- The amount of a text is that of the number that leads. -/
theorem ofText?_of_leads
    {text : String}
    (hText : text.toList = before ++ (number ++ after))
    (hLeads : Leads before number after) :
    ofText? text = some (.nearest (valueOf number)) := by
  rw [ofText?, hText, token?_of_leads hLeads, Option.map_some,
    spelledBy_eq_valueOf hLeads.written]

/- A text has an amount exactly if it has a digit. -/
theorem ofText?_eq_none_iff
    (text : String) :
    ofText? text = none ↔
      ∀ c ∈ text.toList, c.isDigit = false := by
  constructor
  · intro hNone c hMem
    refine Bool.eq_false_iff.mpr ?_
    intro hDigit
    rcases exists_names_iff.mpr ⟨c, hMem, hDigit⟩ with ⟨n, hNames⟩
    rw [ofText?_of_names hNames] at hNone
    exact nomatch hNone
  · exact ofText?_of_no_digit

end Amount

end Questionnaire

------------------------------------------------------------
-- Reading Amounts
------------------------------------------------------------

namespace Questionnaire

open Text

/-
  A text without a digit has no amount.  Any other has a first
  match of the pattern of numbers, which a search finds, and its
  amount is the value of that match, correctly rounded.  Other
  words before the match and after it give the same amount, if
  there is no digit in the former and the match does not go on
  in the latter.
-/
theorem amount_of_first_number
    (text : String) :
    (Amount.ofText? text = none ↔
        ∀ c ∈ text.toList, c.isDigit = false) ∧
      ((∃ c ∈ text.toList, c.isDigit = true) →
        ∃ before number after,
          text.toList = before ++ (number ++ after) ∧
            IsFirstMatch Amount.pattern.texts
              before number after) ∧
      ∀ before number after,
        text.toList = before ++ (number ++ after) →
          IsFirstMatch Amount.pattern.texts before number after →
            Amount.pattern.find? text.toList = some number ∧
              (∃ amount,
                Amount.ofText? text = some amount ∧
                  ∀ other,
                    Magnitude.IsRounded (Amount.valueOf number)
                        other ↔
                      other = amount) ∧
              ∀ start rest : List Char,
                (∀ c ∈ start, c.isDigit = false) →
                  IsLongest Amount.pattern.texts number rest →
                    Amount.ofText?
                        (String.ofList
                          (start ++ (number ++ rest))) =
                      Amount.ofText? text := by
  refine ⟨Amount.ofText?_eq_none_iff text, ?_, ?_⟩
  · intro hDigit
    rcases Amount.exists_names_iff.mpr hDigit with
      ⟨_, before, number, after, hText, hLeads, _⟩
    exact ⟨before, number, after, hText,
      Amount.isFirstMatch_iff_leads.mpr hLeads⟩
  · intro before number after hText hMatch
    have hLeads := Amount.isFirstMatch_iff_leads.mp hMatch
    have hAmount := Amount.ofText?_of_leads hText hLeads
    refine ⟨?_, ⟨_, hAmount, fun other => Magnitude.isRounded_iff⟩,
      ?_⟩
    · rw [hText]
      exact Amount.find?_of_leads hLeads
    · intro start rest hStart hLongest
      have hOther : Amount.Leads start number rest := by
        refine ⟨hStart, hLeads.written, ?_⟩
        exact
          (Amount.longest_iff_not_extends hLeads.written).mpr
            ((Amount.isLongest_iff_not_extends
              hLeads.written).mp hLongest)
      rw [hAmount]
      exact Amount.ofText?_of_leads String.toList_ofList hOther

/-
  A mark behind which no digit stands ends a number; what stands
  around it may be something else.
-/
theorem thousand_before_marks :
    IsFirstMatch Amount.pattern.texts "R$ ".toList
        "1.000,50".toList ".,7".toList ∧
      IsLongest Amount.pattern.texts "1.000,50".toList
        ". Ou 7".toList ∧
      Amount.pattern.find? "R$ 1.000,50.,7".toList =
        some "1.000,50".toList ∧
      Amount.valueOf "1.000,50".toList = 100050 ∧
      (∃ amount,
        Amount.ofText? "R$ 1.000,50.,7" = some amount ∧
          Magnitude.IsRounded (Amount.valueOf "1.000,50".toList)
            amount) ∧
      Amount.ofText? "De 1.000,50. Ou 7" =
        Amount.ofText? "R$ 1.000,50.,7" := by
  have hNumber : Amount.IsNumber "1.000,50".toList :=
    .grouped rfl rfl (.cons rfl (.cons rfl
      (.grouped rfl rfl (.cons rfl (.single rfl)))))
  have hEnd : ¬ Amount.Extends ".,7".toList := by
    intro hExtends
    cases hExtends with
    | digit hDigit => exact absurd hDigit (by decide)
    | grouped _ hDigit => exact absurd hDigit (by decide)
  have hOtherEnd : ¬ Amount.Extends ". Ou 7".toList := by
    intro hExtends
    cases hExtends with
    | digit hDigit => exact absurd hDigit (by decide)
    | grouped _ hDigit => exact absurd hDigit (by decide)
  have hNoDigit {text : String}
      (hText : text.toList.all (fun c => !c.isDigit) = true) :
      ∀ c ∈ text.toList, c.isDigit = false := by
    intro c hMem
    simpa using List.all_eq_true.mp hText c hMem
  have hMatch :
      IsFirstMatch Amount.pattern.texts "R$ ".toList
        "1.000,50".toList ".,7".toList := by
    refine Amount.isFirstMatch_iff_leads.mpr ⟨?_, hNumber, ?_⟩
    · exact hNoDigit rfl
    · exact (Amount.longest_iff_not_extends hNumber).mpr hEnd
  have hLongest :
      IsLongest Amount.pattern.texts "1.000,50".toList
        ". Ou 7".toList :=
    (Amount.isLongest_iff_not_extends hNumber).mpr hOtherEnd
  rcases amount_of_first_number "R$ 1.000,50.,7" with
    ⟨_, _, hRead⟩
  rcases hRead "R$ ".toList "1.000,50".toList ".,7".toList rfl
    hMatch with ⟨hFound, ⟨amount, hAmount, hRounded⟩, hSame⟩
  exact ⟨hMatch, hLongest, hFound, by decide,
    ⟨amount, hAmount, (hRounded amount).mpr rfl⟩,
    hSame "De ".toList ". Ou 7".toList (hNoDigit rfl) hLongest⟩

end Questionnaire
