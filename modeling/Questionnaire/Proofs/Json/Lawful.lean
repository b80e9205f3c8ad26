import Questionnaire.Json.Format
import Questionnaire.Proofs.Json.Layout

/-
  The values that a format writes without loss.

  Key definitions include:
    * `Format.Lawful`
    * `Fields.Lawful`
    * `Format.depth`

  A value is lawful if its numbers fit into their sixty-four
  bits, its names stand for what they were written for, and its
  fields have names of their own and are left out only where
  their absence means their value.  What is written of a lawful
  value fits a reader (`Format.fits_toJson`).
-/

------------------------------------------------------------
-- Lawful Values
------------------------------------------------------------

namespace Questionnaire

/- The names of the fields. -/
def Fields.names : {α σ : Type} → Fields α σ → List String
  | _, _, .done => []
  | _, _, .field name _ _ _ rest => name :: rest.names

/- Only fields are written. -/
theorem Fields.mem_names_of_mem_toMembers :
    {α σ : Type} →
    (fields : Fields α σ) →
    (values : α) →
    ∀ member ∈ fields.toMembers values, member.1 ∈ fields.names
  | _, _, .done, (), member, hMem => by
      rw [Fields.toMembers] at hMem
      exact absurd hMem List.not_mem_nil
  | _, _, .field name format absent isOmitted rest,
      (value, more), member, hMem => by
      have hRest :=
        Fields.mem_names_of_mem_toMembers rest more member
      rw [Fields.toMembers] at hMem
      rw [Fields.names]
      split at hMem
      case isTrue => exact List.mem_cons_of_mem _ (hRest hMem)
      case isFalse =>
        rcases List.mem_cons.mp hMem with hEq | hMem
        · rw [hEq]
          exact List.mem_cons_self
        · exact List.mem_cons_of_mem _ (hRest hMem)

mutual

/- What is written of a value says all of it. -/
def Format.Lawful : {α : Type} → Format α → α → Prop
  | _, .text, _ => True
  | _, .flag, _ => True
  | _, .integer, value => -Int.pow 2 63 ≤ value ∧ value < Int.pow 2 63
  | _, .natural _, value => value < Nat.pow 2 64
  | _, .choice _ names _ nameOf, value =>
      names.lookup (nameOf value) = some value
  | _, .optional _, none => True
  | _, .optional format, some value =>
      format.Lawful value ∧ format.toJson value ≠ .null
  | _, .list format, values => ∀ value ∈ values, format.Lawful value
  | _, .record _ fields build parts, value =>
      fields.Lawful (parts value) ∧ build (parts value) = value

/- What is written of some fields says all of their values. -/
def Fields.Lawful : {α σ : Type} → Fields α σ → α → Prop
  | _, _, .done, _ => True
  | _, _, .field name format absent isOmitted rest, (value, more) =>
      name ∉ rest.names ∧
        (if isOmitted value then
          absent = some value
        else
          format.Lawful value) ∧
        rest.Lawful more

end

end Questionnaire

------------------------------------------------------------
-- Building Lawful Values
------------------------------------------------------------

namespace Questionnaire

namespace Format

variable {α β σ : Type}

theorem lawful_text
    (value : String) :
    Lawful .text value := by
  show True
  trivial

theorem lawful_flag
    (value : Bool) :
    Lawful .flag value := by
  show True
  trivial

/- An integer has sixty-three bits beside its sign. -/
theorem lawful_integer
    {value : Int}
    (hLeast : -Int.pow 2 63 ≤ value)
    (hMost : value < Int.pow 2 63) :
    Lawful .integer value := by
  show -Int.pow 2 63 ≤ value ∧ value < Int.pow 2 63
  exact ⟨hLeast, hMost⟩

theorem lawful_natural
    {kind : String}
    {value : Nat}
    (hFits : value < Nat.pow 2 64) :
    Lawful (.natural kind) value := by
  show value < Nat.pow 2 64
  exact hFits

/- The name of a value has to stand for it among all names. -/
theorem lawful_choice
    {title : String}
    {names : List (String × α)}
    {known : List String}
    {nameOf : α → String}
    {value : α}
    (hName : names.lookup (nameOf value) = some value) :
    Lawful (.choice title names known nameOf) value := by
  show names.lookup (nameOf value) = some value
  exact hName

/- A value must not be written like the absence of one. -/
theorem lawful_optional
    {format : Format α}
    {value? : Option α}
    (hValue :
      ∀ value, value? = some value →
        format.Lawful value ∧ format.toJson value ≠ .null) :
    Lawful (.optional format) value? := by
  cases value? with
  | none =>
      show True
      trivial
  | some value =>
      show format.Lawful value ∧ format.toJson value ≠ .null
      exact hValue value rfl

/- A list is lawful if its items are. -/
theorem lawful_list
    {format : Format α}
    {values : List α}
    (hValues : ∀ value ∈ values, format.Lawful value) :
    Lawful (.list format) values := by
  show ∀ value ∈ values, format.Lawful value
  exact hValues

/- A record is lawful if it is built from lawful parts again. -/
theorem lawful_record
    {title : String}
    {fields : Fields β σ}
    {build : β → α}
    {parts : α → β}
    {value : α}
    (hFields : fields.Lawful (parts value))
    (hBuild : build (parts value) = value) :
    Lawful (.record title fields build parts) value := by
  show fields.Lawful (parts value) ∧ build (parts value) = value
  exact ⟨hFields, hBuild⟩

end Format

namespace Fields

variable {α β σ : Type}
variable {name : String}
variable {format : Format α}
variable {absent : Option α}
variable {isOmitted : α → Bool}
variable {rest : Fields β σ}
variable {value : α}
variable {more : β}

theorem lawful_done :
    Lawful .done () := by
  show True
  trivial

/- A field is left out where its absence means its value. -/
theorem lawful_field
    (hName : name ∉ rest.names)
    (hOmitted : isOmitted value = true → absent = some value)
    (hWritten : isOmitted value = false → format.Lawful value)
    (hMore : rest.Lawful more) :
    Lawful (.field name format absent isOmitted rest)
      (value, more) := by
  show
    name ∉ rest.names ∧
      (if isOmitted value then
        absent = some value
      else
        format.Lawful value) ∧
      rest.Lawful more
  refine ⟨hName, ?_, hMore⟩
  cases hCase : isOmitted value with
  | true => exact hOmitted hCase
  | false => exact hWritten hCase

/- A field that is written has a lawful value. -/
theorem lawful_written
    (hName : name ∉ rest.names)
    (hWritten : isOmitted value = false)
    (hValue : format.Lawful value)
    (hMore : rest.Lawful more) :
    Lawful (.field name format absent isOmitted rest)
      (value, more) :=
  lawful_field hName
    (fun hOmitted => absurd (hWritten.symm.trans hOmitted) nofun)
    (fun _ => hValue) hMore

/- A list that is left out when it is empty has lawful items. -/
theorem lawful_items
    {values : List α}
    (hName : name ∉ rest.names)
    (hValues : ∀ value ∈ values, format.Lawful value)
    (hMore : rest.Lawful more) :
    Lawful (.omitted name (.list format) [] List.isEmpty rest)
      (values, more) :=
  lawful_field hName
    (fun hEmpty => congrArg some (List.isEmpty_iff.mp hEmpty).symm)
    (fun _ => Format.lawful_list hValues) hMore

/- And so has a value that is left out when there is none. -/
theorem lawful_maybe
    {value? : Option α}
    (hName : name ∉ rest.names)
    (hValue :
      ∀ value, value? = some value →
        format.Lawful value ∧ format.toJson value ≠ .null)
    (hMore : rest.Lawful more) :
    Lawful (.omitted name (.optional format) none Option.isNone rest)
      (value?, more) :=
  lawful_field hName
    (fun hNone =>
      congrArg some (Option.isNone_iff_eq_none.mp hNone).symm)
    (fun _ => Format.lawful_optional hValue) hMore

end Fields

end Questionnaire

------------------------------------------------------------
-- The Depth of a Format
------------------------------------------------------------

namespace Questionnaire

open Reader

mutual

/- How deep the brackets of a format are nested. -/
def Format.depth : {α : Type} → Format α → Nat
  | _, .text => 0
  | _, .flag => 0
  | _, .integer => 0
  | _, .natural _ => 0
  | _, .choice _ _ _ _ => 0
  | _, .optional format => format.depth
  | _, .list format => format.depth + 1
  | _, .record _ fields _ _ => fields.depth + 1

/- How deep the brackets of some fields are nested. -/
def Fields.depth : {α σ : Type} → Fields α σ → Nat
  | _, _, .done => 0
  | _, _, .field _ format _ _ rest => max format.depth rest.depth

end

/- Sixty-three bits and a sign fit into sixty-four. -/
theorem whole_of_signed
    {value : Int}
    (hLeast : -Int.pow 2 63 ≤ value)
    (hMost : value < Int.pow 2 63) :
    Whole value :=
  ⟨hLeast, Int.lt_trans hMost (by decide)⟩

/- Without a sign there may be all sixty-four. -/
theorem whole_of_natural
    {value : Nat}
    (hMost : value < Nat.pow 2 64) :
    Whole value := by
  have hPowers :
      Int.pow 2 63 = 9223372036854775808 ∧
        Int.pow 2 64 = 18446744073709551616 ∧
          Nat.pow 2 64 = 18446744073709551616 := by
    decide
  constructor
  · omega
  · omega

mutual

/- What is written of a lawful value fits a reader. -/
theorem Format.fits_toJson :
    {α : Type} →
    (format : Format α) →
    (value : α) →
    format.Lawful value →
    (format.toJson value).Fits format.depth
  | _, .text, value, _ => by
      rw [Format.toJson]
      exact .string value
  | _, .flag, value, _ => by
      rw [Format.toJson]
      exact .bool value
  | _, .integer, value, hLawful => by
      rw [Format.Lawful] at hLawful
      rw [Format.toJson]
      exact .integer (whole_of_signed hLawful.1 hLawful.2)
  | _, .natural _, value, hLawful => by
      rw [Format.Lawful] at hLawful
      rw [Format.toJson]
      exact .integer (whole_of_natural hLawful)
  | _, .choice _ _ _ nameOf, value, _ => by
      rw [Format.toJson]
      exact .string (nameOf value)
  | _, .optional _, none, _ => by
      rw [Format.toJson]
      exact .null
  | _, .optional format, some value, hLawful => by
      rw [Format.Lawful] at hLawful
      rw [Format.toJson, Format.depth]
      exact format.fits_toJson value hLawful.1
  | _, .list format, values, hLawful => by
      rw [Format.Lawful] at hLawful
      rw [Format.toJson, Format.depth]
      refine .array (fun item hItem => ?_)
      rcases List.mem_map.mp hItem with ⟨value, hValue, hEq⟩
      rw [← hEq]
      exact format.fits_toJson value (hLawful value hValue)
  | _, .record _ fields _ parts, value, hLawful => by
      rw [Format.Lawful] at hLawful
      rw [Format.toJson, Format.depth]
      exact .object (fields.fits_toMembers (parts value) hLawful.1)

/- And so does each of the members that are written. -/
theorem Fields.fits_toMembers :
    {α σ : Type} →
    (fields : Fields α σ) →
    (values : α) →
    fields.Lawful values →
    ∀ member ∈ fields.toMembers values, member.2.Fits fields.depth
  | _, _, .done, (), _, member, hMem => by
      rw [Fields.toMembers] at hMem
      exact absurd hMem List.not_mem_nil
  | _, _, .field name format absent isOmitted rest,
      (value, more), hLawful, member, hMem => by
      rw [Fields.Lawful] at hLawful
      rcases hLawful with ⟨_, hValue, hMore⟩
      have hRest (hMem : member ∈ rest.toMembers more) :
          member.2.Fits (max format.depth rest.depth) :=
        (rest.fits_toMembers more hMore member hMem).mono
          (Nat.le_max_right _ _)
      rw [Fields.depth]
      rw [Fields.toMembers] at hMem
      split at hMem
      case isTrue => exact hRest hMem
      case isFalse hWritten =>
        rw [if_neg hWritten] at hValue
        rcases List.mem_cons.mp hMem with hEq | hMem
        · rw [hEq]
          exact (format.fits_toJson value hValue).mono
            (Nat.le_max_left _ _)
        · exact hRest hMem

end

end Questionnaire
