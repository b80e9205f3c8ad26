import Questionnaire.Plan.Wire
import Questionnaire.Proofs.Form.Wire
import Questionnaire.Proofs.Json.ReadBack

/-
  A plan is read back from what is written of it, on one line,
  indented, or in the script element that carries it.

  Key definitions include:
    * `Delays.Fits`
    * `Plan.Fits`

  A number is written with all its digits and read into
  sixty-four bits, so forms and plans are read back if their
  numbers fit into them (`forms_and_plans_read_back`).
-/

------------------------------------------------------------
-- Numbers That Fit
------------------------------------------------------------

namespace Questionnaire

/- The delays fit into sixty-four bits. -/
structure Delays.Fits
    (delays : Delays) : Prop where
  afterChoice : delays.afterChoice < Nat.pow 2 64
  beforeRedirect : delays.beforeRedirect < Nat.pow 2 64

instance
    (delays : Delays) : Decidable delays.Fits :=
  decidable_of_iff
    (delays.afterChoice < Nat.pow 2 64
      ∧ delays.beforeRedirect < Nat.pow 2 64)
    ⟨fun ⟨hChoice, hRedirect⟩ => ⟨hChoice, hRedirect⟩,
      fun hFits => ⟨hFits.afterChoice, hFits.beforeRedirect⟩⟩

/- All numbers of a plan fit into sixty-four bits. -/
structure Plan.Fits
    (plan : Plan) : Prop where
  totalSteps : plan.totalSteps < Nat.pow 2 64
  delays : plan.delays.Fits

end Questionnaire

------------------------------------------------------------
-- The Parts of a Plan
------------------------------------------------------------

namespace Questionnaire

open Format Fields

/- Delays are written as numbers without a sign. -/
theorem lawful_delays
    {delays : Delays}
    (hFits : delays.Fits) :
    Delays.format.Lawful delays := by
  refine lawful_record ?_ rfl
  refine lawful_written (by decide) rfl
    (lawful_natural hFits.afterChoice) ?_
  exact lawful_written (by decide) rfl
    (lawful_natural hFits.beforeRedirect) lawful_done

/- The options of a question without any are left out. -/
theorem lawful_prompt
    (prompt : Prompt) :
    Prompt.format.Lawful prompt := by
  refine lawful_record ?_ rfl
  refine lawful_written (by decide) rfl (lawful_text _) ?_
  refine lawful_written (by decide) rfl (lawful_kind _) ?_
  refine lawful_written (by decide) rfl (lawful_text _) ?_
  refine lawful_written (by decide) rfl (lawful_flag _) ?_
  exact lawful_items (by decide) (fun value _ => lawful_text value)
    lawful_done

theorem lawful_target
    (target : Target) :
    Target.format.Lawful target := by
  refine lawful_record ?_ rfl
  refine lawful_written (by decide) rfl (lawful_text _) ?_
  exact lawful_written (by decide) rfl (lawful_text _)
    lawful_done

/- One pair of addresses is written for each verdict. -/
theorem lawful_targets
    (targets : Targets) :
    Targets.format.Lawful targets := by
  refine lawful_record ?_ rfl
  refine lawful_written (by decide) rfl (lawful_target _) ?_
  exact lawful_written (by decide) rfl (lawful_target _)
    lawful_done

/- A plan writes all of its fields. -/
theorem lawful_plan
    {plan : Plan}
    (hFits : plan.Fits) :
    Plan.format.Lawful plan := by
  refine lawful_record ?_ rfl
  refine lawful_written (by decide) rfl (lawful_text _) ?_
  refine lawful_written (by decide) rfl
    (lawful_natural hFits.totalSteps) ?_
  refine lawful_written (by decide) rfl
    (lawful_list (fun prompt _ => lawful_prompt prompt)) ?_
  refine lawful_written (by decide) rfl
    (lawful_criteria _) ?_
  refine lawful_written (by decide) rfl
    (lawful_targets _) ?_
  exact lawful_written (by decide) rfl
    (lawful_delays hFits.delays) lawful_done

/- A plan is read back if its numbers fit. -/
theorem readsBack_plan
    {plan : Plan}
    (hFits : plan.Fits) :
    Plan.format.ReadsBack plan :=
  Plan.format.readsBack_of_lawful plan (lawful_plan hFits)

end Questionnaire

------------------------------------------------------------
-- Forms and Plans
------------------------------------------------------------

namespace Questionnaire

/-
  Every form and every plan is read back from both of its texts,
  whatever its texts are and whether its optional values are
  absent or empty.
-/
theorem forms_and_plans_read_back :
    (∀ form : Form,
        form.Fits →
          Form.parse form.toJson.compact = .ok form ∧
            Form.parse form.toJson.pretty = .ok form) ∧
      ∀ plan : Plan,
        plan.Fits →
          Plan.format.parse (Plan.format.toJson plan).compact =
              .ok plan ∧
            Plan.format.parse (Plan.format.toJson plan).pretty =
              .ok plan := by
  constructor
  · intro form hFits
    exact ⟨Form.parse_compact hFits, Form.parse_pretty hFits⟩
  · intro plan hFits
    have hPlan := readsBack_plan hFits
    exact ⟨hPlan.parse_compact, hPlan.parse_pretty⟩

/- A form with empty values, extreme orders and unusual texts. -/
def Form.unusual : Form where
  company := {
    name := "\"Ação\"\n\t\\ </script> 😀"
    slug := ""
    logo := some "" }
  questions := [
    { id := ""
      kind := .choiceCards
      label := "\u2028"
      placeholder := some ""
      required := true
      order := -Int.pow 2 63 },
    { id := ""
      kind := .longText
      label := ""
      order := Int.pow 2 63 - 1
      options := [⟨"", "\x01", ""⟩] }]
  criteria := ⟨[⟨"", "", .notEquals, "\r"⟩], .any⟩

/- A plan with the largest numbers and unusual texts. -/
def Plan.unusual : Plan where
  version := "\""
  totalSteps := Nat.pow 2 64 - 1
  prompts := [
    ⟨"&", .phone, "\\", false, []⟩,
    ⟨"", .email, "", true, [""]⟩]
  criteria := {}
  targets := ⟨⟨"", "\n"⟩, ⟨"<", ""⟩⟩
  delays := ⟨0, Nat.pow 2 64 - 1⟩

theorem unusual_read_back :
    Form.unusual.Fits ∧ Plan.unusual.Fits ∧
      Form.parse Form.unusual.toJson.compact = .ok Form.unusual ∧
        Form.parse Form.unusual.toJson.pretty = .ok Form.unusual ∧
          Plan.format.parse
                (Plan.format.toJson Plan.unusual).compact =
              .ok Plan.unusual ∧
            Plan.format.parse
                (Plan.format.toJson Plan.unusual).pretty =
              .ok Plan.unusual := by
  have hForm : Form.unusual.Fits := by decide
  have hPlan : Plan.unusual.Fits := ⟨by decide, by decide⟩
  have hForms := forms_and_plans_read_back.1 Form.unusual hForm
  have hPlans := forms_and_plans_read_back.2 Plan.unusual hPlan
  exact ⟨hForm, hPlan, hForms.1, hForms.2, hPlans.1, hPlans.2⟩

end Questionnaire
