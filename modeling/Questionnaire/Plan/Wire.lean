import Questionnaire.Plan.Basic

/-
  Plans and settings in JSON.

  Key definitions include:
    * `Settings.format`
    * `Targets.format`
    * `Plan.format`
-/

------------------------------------------------------------
-- Settings
------------------------------------------------------------

namespace Questionnaire

/- Delays stand in JSON as a record. -/
def Delays.format : Format Delays :=
  .record "Timing"
    (.withDefault "choiceDelayMs" (.natural "u64") 450 <|
      .withDefault "redirectDelayMs" (.natural "u64") 2000 .done)
    (fun (afterChoice, beforeRedirect, _) =>
      ⟨afterChoice, beforeRedirect⟩)
    (fun delays => (delays.afterChoice, delays.beforeRedirect, ()))

/- Settings stand in JSON as a record. -/
def Settings.format : Format Settings :=
  .record "CompileOptions"
    (.withDefault "timing" Delays.format {} .done)
    (fun (delays, _) => ⟨delays⟩)
    (fun settings => (settings.delays, ()))

end Questionnaire

------------------------------------------------------------
-- Plans
------------------------------------------------------------

namespace Questionnaire

/- A prompt stands in JSON as a record. -/
def Prompt.format : Format Prompt :=
  .record "QuestionDescriptor"
    (.required "id" .text <|
      .required "kind" Kind.format <|
      .required "label" .text <|
      .required "required" .flag <|
      .omitted "options" (.list .text) [] List.isEmpty .done)
    (fun (id, kind, label, required, options, _) =>
      ⟨id, kind, label, required, options⟩)
    (fun prompt =>
      (prompt.id, prompt.kind, prompt.label, prompt.required,
        prompt.options, ()))

/- A target stands in JSON as a record. -/
def Target.format : Format Target :=
  .record "Destination"
    (.required "webhook" .text <|
      .required "redirect" .text .done)
    (fun (webhook, redirect, _) => ⟨webhook, redirect⟩)
    (fun target => (target.webhook, target.redirect, ()))

/- Targets stand in JSON as a record. -/
def Targets.format : Format Targets :=
  .record "DestinationPlan"
    (.required "qualified" Target.format <|
      .required "disqualified" Target.format .done)
    (fun (qualified, disqualified, _) => ⟨qualified, disqualified⟩)
    (fun targets => (targets.qualified, targets.disqualified, ()))

/- A plan stands in JSON as a record. -/
def Plan.format : Format Plan :=
  .record "RuntimeConfig"
    (.required "version" .text <|
      .required "totalSteps" (.natural "usize") <|
      .required "questions" (.list Prompt.format) <|
      .required "criteria" Criteria.format <|
      .required "destinations" Targets.format <|
      .required "timing" Delays.format .done)
    (fun (version, totalSteps, prompts, criteria, targets, delays,
        _) =>
      ⟨version, totalSteps, prompts, criteria, targets, delays⟩)
    (fun plan =>
      (plan.version, plan.totalSteps, plan.prompts, plan.criteria,
        plan.targets, plan.delays, ()))

end Questionnaire
