import Questionnaire.Json.Format

/-
  The criteria by which respondents qualify.

  Key definitions include:
    * `Comparison`
    * `Connective`
    * `Rule`
    * `Criteria`
-/

------------------------------------------------------------
-- Rules and Criteria
------------------------------------------------------------

namespace Questionnaire

/- How a rule compares an answer with its value. -/
inductive Comparison where
  | equals
  | notEquals
  | contains
  | greaterThan
  | lessThan
  deriving DecidableEq, Repr

/- Whether all rules have to hold, or any of them. -/
inductive Connective where
  | all
  | any
  deriving DecidableEq, Repr

/- A comparison of the answer to one question with a value. -/
structure Rule where
  id : String
  questionId : String
  comparison : Comparison
  value : String
  deriving DecidableEq, Repr

/- Rules, and how their outcomes are combined. -/
structure Criteria where
  rules : List Rule := []
  connective : Connective := .all
  deriving DecidableEq, Repr

end Questionnaire

------------------------------------------------------------
-- Criteria in JSON
------------------------------------------------------------

namespace Questionnaire

namespace Comparison

/- The name of a comparison. -/
def name : Comparison → String
  | .equals => "equals"
  | .notEquals => "notEquals"
  | .contains => "contains"
  | .greaterThan => "greaterThan"
  | .lessThan => "lessThan"

/- The names that are read. -/
def names : List (String × Comparison) := [
  ("equals", .equals), ("notEquals", .notEquals),
  ("contains", .contains), ("greaterThan", .greaterThan),
  ("lessThan", .lessThan)]

/- A comparison stands in JSON by its name. -/
def format : Format Comparison :=
  .choice "RuleOperator" names (names.map (·.1)) name

end Comparison

namespace Connective

/- The name that is written. -/
def name : Connective → String
  | .all => "AND"
  | .any => "OR"

/- The names that are read. -/
def names : List (String × Connective) := [
  ("AND", .all), ("ALL", .all), ("OR", .any), ("ANY", .any)]

/- A connective stands in JSON by its name. -/
def format : Format Connective :=
  .choice "CombineMode" names ["ALL", "AND", "ANY", "OR"] name

end Connective

/- A rule stands in JSON as a record. -/
def Rule.format : Format Rule :=
  .record "Rule"
    (.required "id" .text <|
      .required "questionId" .text <|
      .required "operator" Comparison.format <|
      .required "value" .text .done)
    (fun (id, questionId, comparison, value, _) =>
      ⟨id, questionId, comparison, value⟩)
    (fun rule =>
      (rule.id, rule.questionId, rule.comparison, rule.value, ()))

/- Criteria stand in JSON as a record. -/
def Criteria.format : Format Criteria :=
  .record "Criteria"
    (.withDefault "rules" (.list Rule.format) [] <|
      .withDefault "logic" Connective.format .all .done)
    (fun (rules, connective, _) => ⟨rules, connective⟩)
    (fun criteria => (criteria.rules, criteria.connective, ()))

end Questionnaire
