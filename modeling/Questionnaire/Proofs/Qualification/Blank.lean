import Questionnaire.Proofs.Form.Audit
import Questionnaire.Proofs.Qualification.Token
import Questionnaire.Proofs.Session.Run
import Questionnaire.Proofs.Text.Split

/-
  Blank answers, and the rules that take them for answers.

  Key definitions include:
    * `Answers.nonEmpty`
    * `Answers.nonBlank`
    * `Comparison.FitsBlank`
    * `Rule.TakesBlank`
    * `Criteria.SwayedByBlank`

  A rule fails without an answer and on the empty one, but an
  answer of white space is compared like any other.  Removing
  the blank answers keeps the verdict unless such a comparison
  decides it (`verdict_without_blanks_iff`).
-/

------------------------------------------------------------
-- Empty Answers
------------------------------------------------------------

namespace Questionnaire

/- The answers that are not empty. -/
def Answers.nonEmpty
    (answers : Answers) : Answers :=
  answers.filter (fun value => !value.isEmpty)

variable {answers others : Answers}

/- For a rule an empty answer is no answer. -/
theorem Rule.holds_nonEmpty
    (rule : Rule)
    (answers : Answers) :
    rule.holds answers.nonEmpty = rule.holds answers := by
  unfold holds Answers.nonEmpty
  rw [Table.get?_filter]
  cases answers.get? rule.questionId with
  | none => rfl
  | some value =>
      cases hEmpty : value.isEmpty with
      | true => simp [Option.filter, hEmpty]
      | false => simp [Option.filter, hEmpty]

/- So it is for the criteria. -/
theorem Criteria.qualifies_nonEmpty
    (criteria : Criteria)
    (answers : Answers) :
    criteria.qualifies answers.nonEmpty =
      criteria.qualifies answers := by
  unfold qualifies
  simp only [Rule.holds_nonEmpty]

/- Answers that differ in empty ones only have one verdict. -/
theorem Criteria.qualifies_congr
    (criteria : Criteria)
    (hSame : others.nonEmpty = answers.nonEmpty) :
    criteria.qualifies others = criteria.qualifies answers := by
  rw [← qualifies_nonEmpty, hSame, qualifies_nonEmpty]

end Questionnaire

------------------------------------------------------------
-- Blank Answers
------------------------------------------------------------

namespace Questionnaire

/- The answers that are not blank. -/
def Answers.nonBlank
    (answers : Answers) : Answers :=
  answers.filter (fun text => !Text.isBlank text)

/-
  What has to be true of a value for a blank answer to compare
  with it.  Blanks have no amount.
-/
def Comparison.FitsBlank
    (comparison : Comparison)
    (blank value : String) : Prop :=
  match comparison with
  | .equals => blank = value
  | .notEquals => blank ≠ value
  | .contains => value.toList <:+: blank.toList
  | .greaterThan => False
  | .lessThan => False

/- A rule holds of a blank answer that is not empty. -/
def Rule.TakesBlank
    (rule : Rule)
    (answers : Answers) : Prop :=
  ∃ blank,
    answers.get? rule.questionId = some blank ∧
      Text.isBlank blank = true ∧
        blank ≠ "" ∧
          rule.comparison.FitsBlank blank rule.value

/-
  A blank answer decides the verdict: all rules hold, one of
  them of it, or no rule holds but of such answers.
-/
def Criteria.SwayedByBlank
    (criteria : Criteria)
    (answers : Answers) : Prop :=
  (∃ rule ∈ criteria.rules, rule.TakesBlank answers) ∧
    match criteria.connective with
    | .all => ∀ rule ∈ criteria.rules, rule.holds answers = true
    | .any =>
        ∀ rule ∈ criteria.rules,
          rule.holds answers.nonBlank = false

end Questionnaire

------------------------------------------------------------
-- Comparing Blank Answers
------------------------------------------------------------

namespace Questionnaire

variable {blank : String}

/- A digit is no white space, so blanks have no amount. -/
theorem Amount.ofText?_of_blank
    (hBlank : Text.isBlank blank = true) :
    Amount.ofText? blank = none := by
  apply ofText?_of_no_digit
  intro c hMem
  have hSpace := List.all_eq_true.mp hBlank c hMem
  cases hDigit : c.isDigit with
  | false => rfl
  | true =>
      rw [Text.isSpace_eq_false_of_isDigit hDigit] at hSpace
      exact absurd hSpace Bool.false_ne_true

/- A blank answer compares where the value allows it. -/
theorem Comparison.holds_blank_iff
    (comparison : Comparison)
    (value : String)
    (hBlank : Text.isBlank blank = true) :
    comparison.holds blank value = true ↔
      comparison.FitsBlank blank value := by
  have hAmount := Amount.ofText?_of_blank hBlank
  cases comparison with
  | equals => simp [holds, FitsBlank]
  | notEquals => simp [holds, FitsBlank]
  | contains => exact Text.occursIn_iff
  | greaterThan => simp [holds, FitsBlank, compareAmounts, hAmount]
  | lessThan => simp [holds, FitsBlank, compareAmounts, hAmount]

/-
  A rule holds of an answer that is not blank and compares, or
  else of a blank one.
-/
theorem Rule.holds_iff
    (rule : Rule)
    (answers : Answers) :
    rule.holds answers = true ↔
      (∃ answer,
          answers.get? rule.questionId = some answer ∧
            Text.isBlank answer = false ∧
              rule.comparison.holds answer rule.value = true) ∨
        rule.TakesBlank answers := by
  cases hAnswer : answers.get? rule.questionId with
  | none => simp [holds, TakesBlank, hAnswer]
  | some answer =>
      cases hBlank : Text.isBlank answer with
      | false =>
          have hFull := Text.isEmpty_eq_false hBlank
          simp [holds, TakesBlank, hAnswer, hBlank, hFull]
      | true =>
          have hHolds :=
            rule.comparison.holds_blank_iff rule.value hBlank
          simp [holds, TakesBlank, hAnswer, hBlank, hHolds]

end Questionnaire

------------------------------------------------------------
-- Removing Blank Answers
------------------------------------------------------------

namespace Questionnaire

/- Without blank answers a rule takes none of them. -/
theorem Rule.not_takesBlank_nonBlank
    (rule : Rule)
    (answers : Answers) :
    ¬ rule.TakesBlank answers.nonBlank := by
  rintro ⟨blank, hAnswer, hBlank, _⟩
  rw [Answers.nonBlank, Table.get?_filter] at hAnswer
  have hWanted := (Option.filter_eq_some_iff.mp hAnswer).2
  simp [hBlank] at hWanted

/- Where a rule takes no blank answer, they can be removed. -/
theorem Rule.holds_nonBlank_iff
    (rule : Rule)
    (answers : Answers) :
    rule.holds answers.nonBlank = true ↔
      ∃ answer,
        answers.get? rule.questionId = some answer ∧
          Text.isBlank answer = false ∧
            rule.comparison.holds answer rule.value = true := by
  rw [rule.holds_iff, Answers.nonBlank, Table.get?_filter]
  constructor
  · rintro (⟨answer, hAnswer, hBlank, hHolds⟩ | hTakes)
    · exact ⟨answer, (Option.filter_eq_some_iff.mp hAnswer).1,
        hBlank, hHolds⟩
    · exact absurd hTakes
        (rule.not_takesBlank_nonBlank answers)
  · rintro ⟨answer, hAnswer, hBlank, hHolds⟩
    refine .inl ⟨answer, ?_, hBlank, hHolds⟩
    rw [Option.filter_eq_some_iff]
    exact ⟨hAnswer, by simp [hBlank]⟩

/- So removing them undoes exactly what rules take of them. -/
theorem Rule.holds_iff_nonBlank
    (rule : Rule)
    (answers : Answers) :
    rule.holds answers = true ↔
      rule.holds answers.nonBlank = true ∨
        rule.TakesBlank answers := by
  rw [rule.holds_nonBlank_iff]
  exact rule.holds_iff answers

/- A rule that takes a blank answer fails without it. -/
theorem Rule.TakesBlank.fails_nonBlank
    {rule : Rule}
    {answers : Answers}
    (hTakes : rule.TakesBlank answers) :
    rule.holds answers.nonBlank = false := by
  rw [← Bool.not_eq_true, rule.holds_nonBlank_iff]
  rintro ⟨answer, hAnswer, hBlank, _⟩
  rcases hTakes with ⟨blank, hOther, hIsBlank, _⟩
  rw [hAnswer] at hOther
  rw [Option.some.inj hOther, hIsBlank] at hBlank
  exact Bool.noConfusion hBlank

end Questionnaire

------------------------------------------------------------
-- The Verdict without Blank Answers
------------------------------------------------------------

namespace Questionnaire

namespace Criteria

/- Without rules every verdict is the same. -/
theorem qualifies_of_no_rules
    {criteria : Criteria}
    (hRules : criteria.rules = [])
    (answers : Answers) :
    criteria.qualifies answers = true := by
  rw [qualifies, hRules]
  rfl

/- With rules it is the connective that tells the verdict. -/
theorem qualifies_iff
    {criteria : Criteria}
    (hRules : criteria.rules ≠ [])
    (answers : Answers) :
    criteria.qualifies answers = true ↔
      match criteria.connective with
      | .all => ∀ rule ∈ criteria.rules, rule.holds answers = true
      | .any =>
          ∃ rule ∈ criteria.rules, rule.holds answers = true := by
  have hSome : criteria.rules.isEmpty = false :=
    List.isEmpty_eq_false_iff.mpr hRules
  rw [qualifies, hSome, if_neg Bool.false_ne_true]
  cases criteria.connective with
  | all => exact List.all_eq_true
  | any => exact List.any_eq_true

variable {criteria : Criteria}
variable {answers : Answers}

/- Where one rule is enough, a blank answer may be the one. -/
theorem qualifies_any_iff_nonBlank
    (hAny : criteria.connective = .any)
    (hRules : criteria.rules ≠ []) :
    criteria.qualifies answers = true ↔
      criteria.qualifies answers.nonBlank = true ∨
        criteria.SwayedByBlank answers := by
  rw [qualifies_iff hRules, qualifies_iff hRules, SwayedByBlank,
    hAny]
  constructor
  · rintro ⟨rule, hRule, hHolds⟩
    by_cases hLeft :
        ∃ other ∈ criteria.rules,
          other.holds answers.nonBlank = true
    case pos => exact .inl hLeft
    case neg =>
      have hFail :
          ∀ other ∈ criteria.rules,
            other.holds answers.nonBlank = false :=
        fun other hOther =>
          Bool.eq_false_iff.mpr
            (fun hHolds => hLeft ⟨other, hOther, hHolds⟩)
      rcases (rule.holds_iff_nonBlank answers).mp hHolds with
        hHolds | hTakes
      · exact absurd ⟨rule, hRule, hHolds⟩ hLeft
      · exact .inr ⟨⟨rule, hRule, hTakes⟩, hFail⟩
  · rintro (⟨rule, hRule, hHolds⟩ | ⟨⟨rule, hRule, hTakes⟩, _⟩)
    · exact ⟨rule, hRule,
        (rule.holds_iff_nonBlank answers).mpr (.inl hHolds)⟩
    · exact ⟨rule, hRule,
        (rule.holds_iff_nonBlank answers).mpr (.inr hTakes)⟩

/- Where all have to hold, some may hold of blank answers only. -/
theorem qualifies_all_iff_nonBlank
    (hAll : criteria.connective = .all)
    (hRules : criteria.rules ≠ []) :
    criteria.qualifies answers = true ↔
      criteria.qualifies answers.nonBlank = true ∨
        criteria.SwayedByBlank answers := by
  rw [qualifies_iff hRules, qualifies_iff hRules, SwayedByBlank,
    hAll]
  constructor
  · intro hHold
    by_cases hTakes :
        ∃ rule ∈ criteria.rules, rule.TakesBlank answers
    case pos => exact .inr ⟨hTakes, hHold⟩
    case neg =>
      refine .inl (fun rule hRule => ?_)
      rcases (rule.holds_iff_nonBlank answers).mp
          (hHold rule hRule) with hHolds | hBlank
      · exact hHolds
      · exact absurd ⟨rule, hRule, hBlank⟩ hTakes
  · rintro (hHold | ⟨_, hHold⟩)
    · exact fun rule hRule =>
        (rule.holds_iff_nonBlank answers).mpr
          (.inl (hHold rule hRule))
    · exact hHold

/- Without rules no answer decides anything. -/
theorem SwayedByBlank.rules_ne_nil
    (hSwayed : criteria.SwayedByBlank answers) :
    criteria.rules ≠ [] := by
  rcases hSwayed.1 with ⟨rule, hRule, _⟩
  exact List.ne_nil_of_mem hRule

/- A verdict needs the blank answers or it does not. -/
theorem qualifies_iff_nonBlank
    (criteria : Criteria)
    (answers : Answers) :
    criteria.qualifies answers = true ↔
      criteria.qualifies answers.nonBlank = true ∨
        criteria.SwayedByBlank answers := by
  by_cases hRules : criteria.rules = []
  case pos => simp [qualifies_of_no_rules hRules]
  case neg =>
    cases hConnective : criteria.connective with
    | all => exact qualifies_all_iff_nonBlank hConnective hRules
    | any => exact qualifies_any_iff_nonBlank hConnective hRules

/- A verdict that blank answers decide is lost without them. -/
theorem SwayedByBlank.not_qualifies_nonBlank
    (hSwayed : criteria.SwayedByBlank answers) :
    criteria.qualifies answers.nonBlank = false := by
  have hRules := hSwayed.rules_ne_nil
  rcases hSwayed with ⟨⟨rule, hRule, hTakes⟩, hOthers⟩
  have hFails := hTakes.fails_nonBlank
  rw [← Bool.not_eq_true, qualifies_iff hRules]
  cases hConnective : criteria.connective with
  | all =>
      intro hHold
      exact absurd (hHold rule hRule) (by simp [hFails])
  | any =>
      rw [hConnective] at hOthers
      rintro ⟨other, hOther, hHolds⟩
      exact absurd hHolds (by simp [hOthers other hOther])

end Criteria

/-
  A rule holds only of an answer that is there and not empty.
  Of a blank one it holds where its value allows that, which no
  comparison of amounts does; so removing the empty answers
  changes no verdict, and removing the blank ones changes it
  exactly where one of them decides it.
-/
theorem verdict_without_blanks_iff
    (criteria : Criteria)
    (answers : Answers) :
    (∀ rule : Rule,
        rule.holds answers = true ↔
          (∃ answer,
              answers.get? rule.questionId = some answer ∧
                Text.isBlank answer = false ∧
                  rule.comparison.holds answer rule.value = true) ∨
            rule.TakesBlank answers) ∧
      criteria.qualifies answers.nonEmpty =
        criteria.qualifies answers ∧
      (criteria.qualifies answers = true ↔
        criteria.qualifies answers.nonBlank = true ∨
          criteria.SwayedByBlank answers) ∧
      (criteria.qualifies answers.nonBlank =
          criteria.qualifies answers ↔
        ¬ criteria.SwayedByBlank answers) := by
  have hVerdict := criteria.qualifies_iff_nonBlank answers
  refine ⟨fun rule => rule.holds_iff answers,
    criteria.qualifies_nonEmpty answers, hVerdict, ?_⟩
  constructor
  · intro hSame hSwayed
    have hLost := hSwayed.not_qualifies_nonBlank
    have hQualifies := hVerdict.mpr (.inr hSwayed)
    rw [hSame, hQualifies] at hLost
    exact Bool.noConfusion hLost
  · intro hNot
    rw [Bool.eq_iff_iff, hVerdict]
    exact ⟨.inl, fun hEither => hEither.resolve_right hNot⟩

/- A form that asks for a note, and takes all but "x". -/
def Form.noted : Form :=
  { company := { name := "Acme", slug := "acme" }
    questions := [
      { id := "note"
        kind := .shortText
        label := "Note" }]
    criteria := {
      rules := [⟨"other", "note", .notEquals, "x"⟩] } }

/- A respondent who types a blank and goes on to the review. -/
def blankNoted : List Moment :=
  momentsAt ⟨0, 0⟩ [.input " ", .advance]

/-
  The blank is a valid entry, and the respondent qualifies by
  it, but not without it.
-/
theorem blank_note_qualifies :
    Validator.text.judge " " false = ⟨" ", true⟩ ∧
      ∃ session : Session,
        (Plan.ofForm Form.noted {}).sessionAfter blankNoted =
            session ∧
          session.step = 2 ∧
          session.answers.rows = [("note", " ")] ∧
          session.qualified = true ∧
          Form.noted.criteria.qualifies
              session.answers.nonBlank =
            false := by
  rw [Plan.ofForm_eq_asListed (by decide)]
  refine ⟨by decide, _, rfl, ?_⟩
  decide +kernel

end Questionnaire
