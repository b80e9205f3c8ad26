import Questionnaire.Json.Format

/-
  The kinds of questions and their names in JSON.

  Key definitions include:
    * `Kind`
    * `Kind.name`
    * `Kind.names`
    * `Kind.labels`
    * `Kind.isChoice`
    * `Kind.format`

  Four kinds have a second name that is read as well and never
  written.
-/

------------------------------------------------------------
-- Kinds
------------------------------------------------------------

namespace Questionnaire

/- How a question is asked and answered. -/
inductive Kind where
  | shortText
  | longText
  | email
  | phone
  | choiceList
  | choiceCards
  deriving DecidableEq, Repr

namespace Kind

/- The name that is written. -/
def name : Kind → String
  | .shortText => "text"
  | .longText => "textarea"
  | .email => "email"
  | .phone => "phone"
  | .choiceList => "select"
  | .choiceCards => "radio"

/- The names that are read. -/
def names : List (String × Kind) := [
  ("text", .shortText), ("short-text", .shortText),
  ("textarea", .longText), ("long-text", .longText),
  ("email", .email), ("phone", .phone),
  ("select", .choiceList), ("single-choice-list", .choiceList),
  ("radio", .choiceCards), ("single-choice-cards", .choiceCards)]

/- The names that a question is looked over for before it is read. -/
def labels : List String := [
  "text", "short-text", "textarea", "long-text", "email", "phone",
  "select", "single-choice-list", "radio", "single-choice-cards"]

/- The names in the order in which a message lists them. -/
def listedNames : List String := [
  "short-text", "text", "long-text", "textarea", "email", "phone",
  "select", "single-choice-list", "radio", "single-choice-cards"]

/- Whether one of some options is the answer. -/
def isChoice : Kind → Bool
  | .choiceList | .choiceCards => true
  | _ => false

/- A kind stands in JSON by its name. -/
def format : Format Kind :=
  .choice "QuestionKind" names listedNames name

end Kind

end Questionnaire
