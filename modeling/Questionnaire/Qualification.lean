import Questionnaire.Double.Nearest
import Questionnaire.Form.Criteria
import Questionnaire.Table
import Questionnaire.Text.Split

/-
  Whether the answers of a respondent meet the criteria.

  Key definitions include:
    * `Answers`
    * `Amount.token?`
    * `Amount.ofText?`
    * `Rule.holds`
    * `Criteria.qualifies`

  Answers are compared as texts or as amounts.  The amount of a
  text is its first number, so that of a range it is the lower
  end.
-/

------------------------------------------------------------
-- Amounts
------------------------------------------------------------

namespace Questionnaire

namespace Amount

/- The marks that may stand between the digits of a number. -/
def isGroupMark
    (c : Char) : Bool :=
  c == '.' || c == ','

/-
  The digits of the number that begins here.  A mark belongs to
  it only when a digit follows.
-/
def tokenDigits : List Char → List Char
  | [] => []
  | c :: rest =>
      if c.isDigit then
        c :: tokenDigits rest
      else if
          isGroupMark c
            && (rest.head?.map Char.isDigit).getD false then
        tokenDigits rest
      else
        []

/- The digits of the first number in a text. -/
def token?
    (text : List Char) : Option (List Char) :=
  match text.dropWhile (fun c => !c.isDigit) with
  | [] => none
  | found => some (tokenDigits found)

/- The number that digits spell. -/
def spelledBy
    (digits : List Char) : Nat :=
  digits.foldl (fun n c => n * 10 + (c.toNat - '0'.toNat)) 0

/- The first number in a text, as the nearest double. -/
def ofText?
    (text : String) : Option Magnitude :=
  (token? text.toList).map (fun digits => .nearest (spelledBy digits))

end Amount

end Questionnaire

------------------------------------------------------------
-- Rules and Criteria
------------------------------------------------------------

namespace Questionnaire

/- Answers by the ids of their questions. -/
abbrev Answers : Type :=
  Table String

/- Whether both texts have an amount, and these compare. -/
def compareAmounts
    (compare : Magnitude → Magnitude → Bool)
    (answer value : String) : Bool :=
  match Amount.ofText? answer, Amount.ofText? value with
  | some left, some right => compare left right
  | _, _ => false

/- Whether an answer compares with a value. -/
def Comparison.holds
    (comparison : Comparison)
    (answer value : String) : Bool :=
  match comparison with
  | .equals => answer == value
  | .notEquals => answer != value
  | .contains => Text.occursIn value.toList answer.toList
  | .greaterThan =>
      compareAmounts (fun left right => right.lt left) answer value
  | .lessThan => compareAmounts Magnitude.lt answer value

/- Whether a rule holds; without an answer it does not. -/
def Rule.holds
    (rule : Rule)
    (answers : Answers) : Bool :=
  match answers.get? rule.questionId with
  | none => false
  | some answer =>
      !answer.isEmpty && rule.comparison.holds answer rule.value

/- Whether answers meet the criteria; without rules all do. -/
def Criteria.qualifies
    (criteria : Criteria)
    (answers : Answers) : Bool :=
  if criteria.rules.isEmpty then
    true
  else
    match criteria.connective with
    | .all => criteria.rules.all (·.holds answers)
    | .any => criteria.rules.any (·.holds answers)

end Questionnaire
