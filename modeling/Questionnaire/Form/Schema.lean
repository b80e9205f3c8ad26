import Questionnaire.Form.Wire

/-
  The published schema of forms in JSON.

  Key definitions include:
    * `SchemaNode`
    * `Format.schemaNode`
    * `Fields.properties`
    * `Format.definitions`
    * `Form.schema`

  The schema is derived from the formats that read and write
  forms; only the descriptions are added.
-/

------------------------------------------------------------
-- Descriptions
------------------------------------------------------------

namespace Questionnaire

/- What the schema says of a definition, or of a field of one. -/
def descriptions : List (String × String) := [
  ("FormDefinition",
    "Top-level funnel definition produced by the form editor."),
  ("Colors",
    "Brand color pair used for gradients, borders and hover states."),
  ("CombineMode", "How rule outcomes are combined into a verdict."),
  ("Criteria",
    "Qualification criteria: rules plus their combination mode."),
  ("Customization", "Page and hero copy."),
  ("Customization.benefits",
    "Free-form benefits copy, one benefit per line."),
  ("EndpointPair", "A qualified/disqualified pair of URLs."),
  ("Question", "A single funnel question."),
  ("Question.isFixed",
    "Identity questions (name, phone, e-mail) whose kind and requiredness are locked in the editor."),
  ("QuestionKind", "Supported question kinds."),
  ("QuestionOption", "One selectable option of a choice question."),
  ("Rule", "A single qualification rule targeting one question."),
  ("RuleOperator", "Comparison applied by a qualification rule.")]

/- The description member for a name, if there is one. -/
def descriptionOf
    (name : String) : List (String × Json) :=
  match descriptions.lookup name with
  | some text => [("description", .string text)]
  | none => []

end Questionnaire

------------------------------------------------------------
-- Values
------------------------------------------------------------

namespace Questionnaire

/-
  What a schema says of a value, in the order in which it is
  said: a reference, the type, and the items.  A description
  stands before the type and a default value after it.
-/
structure SchemaNode where
  reference : List (String × Json) := []
  type : List (String × Json) := []
  items : List (String × Json) := []

/- The members of a node with its description and default. -/
def SchemaNode.members
    (node : SchemaNode)
    (description default : List (String × Json)) :
    List (String × Json) :=
  node.reference ++ description ++ node.type ++ default ++ node.items

/- A reference to a definition. -/
def SchemaNode.toDefinition
    (title : String) : SchemaNode :=
  { reference := [("$ref", .string ("#/$defs/" ++ title))] }

/- A value of a named type. -/
def SchemaNode.ofType
    (name : String) : SchemaNode :=
  { type := [("type", .string name)] }

/- What a schema says of values of a format. -/
def Format.schemaNode : {α : Type} → Format α → SchemaNode
  | _, .text => .ofType "string"
  | _, .flag => .ofType "boolean"
  | _, .integer =>
      { type :=
          [("type", .string "integer"), ("format", .string "int64")] }
  | _, .natural _ =>
      { type :=
          [("type", .string "integer"), ("format", .string "uint64")] }
  | _, .choice title _ _ _ => .toDefinition title
  | _, .optional format =>
      match format.schemaNode.type with
      | ("type", name) :: rest =>
          { type := ("type", .array [name, .string "null"]) :: rest }
      | other => { type := other }
  | _, .list format =>
      { type := [("type", .string "array")]
        items :=
          [("items", .object (format.schemaNode.members [] []))] }
  | _, .record title _ _ _ => .toDefinition title

end Questionnaire

------------------------------------------------------------
-- Records
------------------------------------------------------------

namespace Questionnaire

namespace Fields

/- What a schema says of the fields of a definition. -/
def properties
    (title : String) :
    {α σ : Type} → Fields α σ → List (String × Json)
  | _, _, .done => []
  | _, _, .field name format absent isOmitted rest =>
      let default := match absent with
        | none => []
        | some value =>
            if isOmitted value then
              []
            else
              [("default", (format.toJson value).inKeyOrder)]
      (name, .object (format.schemaNode.members
          (descriptionOf (title ++ "." ++ name)) default))
        :: rest.properties title

/- The names of the fields that have to be present. -/
def requiredNames : {α σ : Type} → Fields α σ → List String
  | _, _, .done => []
  | _, _, .field name _ absent _ rest =>
      if absent.isNone then
        name :: rest.requiredNames
      else
        rest.requiredNames

end Fields

/- What a schema says of a record. -/
def recordSchema
    (properties : List (String × Json))
    (required : List String) : List (String × Json) :=
  [("type", .string "object"),
    ("properties", .object (Table.ofList properties).rows)]
    ++ (if required.isEmpty then
          []
        else
          [("required", .array (required.map .string))])

mutual

/- The definitions that a format refers to. -/
def Format.definitions :
    {α : Type} → Format α → List (String × Json)
  | _, .text | _, .flag | _, .integer | _, .natural _ => []
  | _, .choice title names _ nameOf =>
      let written :=
        names.filter (fun (name, value) => nameOf value == name)
      [(title, .object (descriptionOf title
        ++ [("type", .string "string"),
          ("enum", .array
            (written.map (fun (name, _) => .string name)))]))]
  | _, .optional format => format.definitions
  | _, .list format => format.definitions
  | _, .record title fields _ _ =>
      (title, .object (descriptionOf title
        ++ recordSchema (fields.properties title)
            fields.requiredNames))
        :: fields.definitions

/- The definitions that fields refer to. -/
def Fields.definitions :
    {α σ : Type} → Fields α σ → List (String × Json)
  | _, _, .done => []
  | _, _, .field _ format _ _ rest =>
      format.definitions ++ rest.definitions

end

end Questionnaire

------------------------------------------------------------
-- The Schema of Forms
------------------------------------------------------------

namespace Questionnaire

namespace Form

/- The schema of forms. -/
def schema : Json :=
  let title := "FormDefinition"
  let properties :=
    companyFields.properties title ++ contentFields.properties title
      ++ endpointFields.properties title
  let required :=
    companyFields.requiredNames ++ contentFields.requiredNames
      ++ endpointFields.requiredNames
  let definitions :=
    companyFields.definitions ++ contentFields.definitions
      ++ endpointFields.definitions
  .object
    ([("$schema",
        .string "https://json-schema.org/draft/2020-12/schema"),
      ("title", .string title)]
      ++ descriptionOf title
      ++ recordSchema properties required
      ++ [("$defs", .object (Table.ofList definitions).rows)])

/- The text of the schema. -/
def schemaText : String :=
  schema.pretty ++ "\n"

end Form

end Questionnaire
