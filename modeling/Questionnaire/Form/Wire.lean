import Questionnaire.Form.Basic

/-
  Forms in JSON.

  Key definitions include:
    * `Form.toJson`
    * `Form.ofJson`
    * `Form.parse`
    * `Form.ReadError`
    * `unknownKind?`

  The company and the endpoints have no object of their own:
  their fields stand beside the questions.  Before anything
  else is looked at, a question of an unknown kind is named.
-/

------------------------------------------------------------
-- Groups of Fields
------------------------------------------------------------

namespace Questionnaire

/- A palette stands in JSON as a record. -/
def Palette.format : Format Palette :=
  .record "Colors"
    (.withDefault "primary" .text "" <|
      .withDefault "secondary" .text "" .done)
    (fun (primary, secondary, _) => ⟨primary, secondary⟩)
    (fun palette => (palette.primary, palette.secondary, ()))

/- The wording stands in JSON as a record. -/
def Wording.format : Format Wording :=
  .record "Customization"
    (.withDefault "pageTitle" .text "" <|
      .withDefault "heroTitle" .text "" <|
      .withDefault "heroSubtitle" .text "" <|
      .withDefault "benefits" .text "" .done)
    (fun (pageTitle, heroTitle, heroSubtitle, benefits, _) =>
      ⟨pageTitle, heroTitle, heroSubtitle, benefits⟩)
    (fun wording =>
      (wording.pageTitle, wording.heroTitle, wording.heroSubtitle,
        wording.benefits, ()))

/- A pair of addresses stands in JSON as a record. -/
def VerdictPair.format : Format VerdictPair :=
  .record "EndpointPair"
    (.withDefault "qualified" .text "" <|
      .withDefault "disqualified" .text "" .done)
    (fun (qualified, disqualified, _) => ⟨qualified, disqualified⟩)
    (fun pair => (pair.qualified, pair.disqualified, ()))

namespace Form

/- The values of the company's fields. -/
abbrev CompanyParts : Type :=
  String × String × Option String × Palette × Wording × Unit

/- What is known of the company's fields. -/
abbrev CompanySlots : Type :=
  Option String × Option String × Option (Option String)
    × Option Palette × Option Wording × Unit

/- The fields of the company. -/
def companyFields : Fields CompanyParts CompanySlots :=
  .required "companyName" .text <|
    .required "slug" .text <|
    .omitted "logo" (.optional .text) none Option.isNone <|
    .withDefault "colors" Palette.format {} <|
    .withDefault "customization" Wording.format {} .done

/- The company with the given fields. -/
def companyOf : CompanyParts → Company
  | (name, slug, logo, palette, wording, _) =>
      ⟨name, slug, logo, palette, wording⟩

/- The fields of a company. -/
def companyParts
    (company : Company) : CompanyParts :=
  (company.name, company.slug, company.logo, company.palette,
    company.wording, ())

/- The fields for questions and criteria. -/
def contentFields :
    Fields (List Question × Criteria × Unit)
      (Option (List Question) × Option Criteria × Unit) :=
  .withDefault "questions" (.list Question.format) [] <|
    .withDefault "qualificationCriteria" Criteria.format {} .done

/- The fields of the endpoints. -/
def endpointFields :
    Fields (VerdictPair × VerdictPair × Unit)
      (Option VerdictPair × Option VerdictPair × Unit) :=
  .withDefault "webhooks" VerdictPair.format {} <|
    .withDefault "redirects" VerdictPair.format {} .done

end Form

end Questionnaire

------------------------------------------------------------
-- Writing and Reading
------------------------------------------------------------

namespace Questionnaire

namespace Form

/- The JSON value of a form. -/
def toJson
    (form : Form) : Json :=
  .object
    (companyFields.toMembers (companyParts form.company)
      ++ contentFields.toMembers (form.questions, form.criteria, ())
      ++ endpointFields.toMembers
          (form.endpoints.webhooks, form.endpoints.redirects, ()))

/-
  The form that a JSON value stands for.  The questions and the
  criteria are looked at first, then the company, and the
  endpoints last.
-/
def ofJson : Json → Except Mismatch Form
  | .object members => do
      let (questions, criteria, _) ←
        contentFields.convertMembers .fewerWanted members
      let company ← companyFields.convertMembers .exactWanted members
      let (webhooks, redirects, _) ←
        endpointFields.convertMembers .exactWanted members
      return {
        company := companyOf company
        questions := questions
        criteria := criteria
        endpoints := ⟨webhooks, redirects⟩ }
  | other =>
      .error (.invalidType other.found (recordName "FormDefinition"))

end Form

/- A question of no known kind, by its id or its position. -/
structure UnknownKind where
  question : String
  kind : String
  deriving DecidableEq, Repr

/- The unknown kind that an item of the questions names. -/
def unknownKindOf?
    (position : Nat)
    (item : Json) : Option UnknownKind :=
  match (item.get? "type").bind Json.text? with
  | none => none
  | some kind =>
      if Kind.labels.contains kind then
        none
      else
        some {
          question := ((item.get? "id").bind Json.text?).getD
            ("#" ++ toString position)
          kind := kind }

/- The first unknown kind among items, counted from a position. -/
def firstUnknownKind? : Nat → List Json → Option UnknownKind
  | _, [] => none
  | position, item :: items =>
      (unknownKindOf? position item).orElse
        (fun _ => firstUnknownKind? (position + 1) items)

/- The first question of an unknown kind. -/
def unknownKind?
    (value : Json) : Option UnknownKind :=
  ((value.get? "questions").bind Json.items?).bind
    (firstUnknownKind? 1)

/- Why a text is no form. -/
inductive Form.ReadError where
  | unknownKind (unknown : UnknownKind)
  | refused (refusal : Json.Refusal)
  deriving DecidableEq, Repr

/- The form that a text spells. -/
def Form.parse
    (source : String) : Except Form.ReadError Form :=
  match Json.parse source with
  | .error refusal => .error (.refused refusal)
  | .ok value =>
      match unknownKind? value with
      | some unknown => .error (.unknownKind unknown)
      | none =>
          match Form.ofJson value with
          | .ok form => .ok form
          | .error mismatch => .error (.refused mismatch.refusal)

end Questionnaire
