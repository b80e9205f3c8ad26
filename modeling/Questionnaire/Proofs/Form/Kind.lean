import Questionnaire.Form.Kind
import Questionnaire.Proofs.Json.Told

/-
  The labels of kinds.

  Key definitions include:
    * `Kind.alias?`

  The labels that a question is looked over for are those that
  are read (`Kind.mem_labels_iff`), and each is the name of its
  kind or the alias of it (`Kind.lookup_names_iff`).
-/

------------------------------------------------------------
-- Labels and Names
------------------------------------------------------------

namespace Questionnaire

namespace Kind

/- The name of a kind that is read and never written. -/
def alias? : Kind → Option String
  | .shortText => some "short-text"
  | .longText => some "long-text"
  | .email => none
  | .phone => none
  | .choiceList => some "single-choice-list"
  | .choiceCards => some "single-choice-cards"

/- A label is a name that is read. -/
theorem mem_labels_iff
    {label : String} :
    label ∈ labels ↔ ∃ kind, names.lookup label = some kind := by
  have hLabels : labels = names.map Prod.fst := rfl
  rw [hLabels, ← Option.isSome_iff_exists, List.lookup_isSome_iff,
    List.mem_map]
  constructor
  · rintro ⟨row, hRow, hEq⟩
    exact ⟨row, hRow, beq_iff_eq.mpr hEq.symm⟩
  · rintro ⟨row, hRow, hEq⟩
    exact ⟨row, hRow, (beq_iff_eq.mp hEq).symm⟩

/- Names that are read are the kind's own or its alias. -/
theorem lookup_names_iff
    {label : String}
    {kind : Kind} :
    names.lookup label = some kind ↔
      label = kind.name ∨ kind.alias? = some label := by
  constructor
  · intro hLookup
    have hRows :
        ∀ row ∈ names,
          row.1 = row.2.name ∨ row.2.alias? = some row.1 := by
      decide
    exact hRows _ (mem_of_lookup_eq_some hLookup)
  · rintro (hName | hAlias)
    · rw [hName]
      cases kind <;> decide
    · cases kind <;> cases hAlias <;> decide

/- What a label is converted to. -/
theorem convert_string_iff
    {surplus : Surplus}
    {label : String}
    {kind : Kind} :
    format.convert surplus (.string label) = .ok kind ↔
      names.lookup label = some kind := by
  rw [format, Format.convert_choice_eq_ok]
  simp [Json.label?]

end Kind

end Questionnaire
