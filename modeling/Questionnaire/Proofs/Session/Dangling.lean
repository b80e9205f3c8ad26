import Questionnaire.Proofs.Session.Delay
import Questionnaire.Proofs.Session.Store
import Questionnaire.Proofs.Session.Verdict

/-
  Rules for questions that a form does not ask.

  Key definitions include:
    * `Rule.Dangles`
    * `Criteria.anchored`
    * `Form.anchored`
    * `Plan.judgedBy`

  All answers of a session belong to questions of its form, so a
  rule for any other question never holds (`Plan.Holds.fails`).
  Where one rule is enough, a form that leaves such rules out
  has the same sessions (`Plan.sessionAfter_judgedBy`).
-/

------------------------------------------------------------
-- Dangling Rules
------------------------------------------------------------

namespace Questionnaire

/- The audit reports that the rule is for no question. -/
def Rule.Dangles
    (warnings : List Warning)
    (rule : Rule) : Prop :=
  .danglingRule rule.id rule.questionId ∈ warnings

instance
    (warnings : List Warning)
    (rule : Rule) :
    Decidable (rule.Dangles warnings) := by
  unfold Rule.Dangles
  infer_instance

/- The criteria without the rules that are reported. -/
def Criteria.anchored
    (criteria : Criteria)
    (warnings : List Warning) : Criteria :=
  { criteria with
    rules :=
      criteria.rules.filter (fun rule => ¬ rule.Dangles warnings) }

/- The form without the rules that are reported. -/
def Form.anchored
    (form : Form)
    (warnings : List Warning) : Form :=
  { form with criteria := form.criteria.anchored warnings }

namespace Form

variable {form : Form}
variable {warnings : List Warning}

/- A warning names each rule for no question, and no other. -/
theorem danglingRule_mem_iff
    (hAudit : form.audit = .ok warnings)
    (ruleId questionId : String) :
    .danglingRule ruleId questionId ∈ warnings ↔
      ∃ rule ∈ form.criteria.rules,
        form.question? rule.questionId = none ∧
          rule.id = ruleId ∧ rule.questionId = questionId := by
  rw [(audited_of_audit hAudit).listed]
  simp [Form.warnings, question?_eq_none_iff, and_assoc]

/- So there is no question for a rule that is reported. -/
theorem question?_eq_none_of_dangles
    {rule : Rule}
    (hAudit : form.audit = .ok warnings)
    (hDangles : rule.Dangles warnings) :
    form.question? rule.questionId = none := by
  rcases (danglingRule_mem_iff hAudit _ _).mp hDangles with
    ⟨other, _, hUnasked, _, hSame⟩
  rw [← hSame]
  exact hUnasked

end Form

/- The prompts of a plan have the ids of the form's questions. -/
theorem Plan.id_mem_of_mem_prompts
    {form : Form}
    {delays : Delays}
    {prompt : Prompt}
    (hPrompt : prompt ∈ (Plan.ofForm form delays).prompts) :
    prompt.id ∈ form.questionIds := by
  rcases List.mem_map.mp hPrompt with ⟨question, hMem, hOf⟩
  have hQuestion : question ∈ form.questions :=
    List.mem_mergeSort.mp hMem
  rw [← hOf]
  exact List.mem_map.mpr ⟨question, hQuestion, rfl⟩

/- A rule that is reported does not hold of what is held. -/
theorem Plan.Holds.fails
    {form : Form}
    {warnings : List Warning}
    {delays : Delays}
    {answers : Answers}
    {rule : Rule}
    (hHolds : (Plan.ofForm form delays).Holds answers)
    (hAudit : form.audit = .ok warnings)
    (hDangles : rule.Dangles warnings) :
    rule.holds answers = false := by
  have hUnasked :=
    Form.question?_eq_none_of_dangles hAudit hDangles
  cases hAnswer : answers.get? rule.questionId with
  | none => simp [Rule.holds, hAnswer]
  | some value =>
      rcases hHolds rule.questionId value hAnswer with
        ⟨prompt, hPrompt, hId, _⟩
      have hAsked := Plan.id_mem_of_mem_prompts hPrompt
      rw [hId] at hAsked
      exact absurd hAsked (Form.question?_eq_none_iff.mp hUnasked)

end Questionnaire

------------------------------------------------------------
-- Criteria with Rules That Fail
------------------------------------------------------------

namespace Questionnaire

namespace Criteria

variable {criteria : Criteria}
variable {answers : Answers}
variable {warnings : List Warning}

/- Where all rules have to hold, one that fails is enough. -/
theorem not_qualifies_of_all
    {rule : Rule}
    (hAll : criteria.connective = .all)
    (hRule : rule ∈ criteria.rules)
    (hFails : rule.holds answers = false) :
    criteria.qualifies answers = false := by
  have hSome : criteria.rules.isEmpty = false :=
    List.isEmpty_eq_false_iff.mpr (List.ne_nil_of_mem hRule)
  rw [qualifies, hSome, hAll, if_neg (by simp)]
  exact List.all_eq_false.mpr ⟨rule, hRule, by simp [hFails]⟩

/- Where one rule is enough, all of them have to fail. -/
theorem not_qualifies_of_any
    (hAny : criteria.connective = .any)
    (hSome : criteria.rules ≠ [])
    (hFail :
      ∀ rule ∈ criteria.rules, rule.holds answers = false) :
    criteria.qualifies answers = false := by
  have hRules : criteria.rules.isEmpty = false :=
    List.isEmpty_eq_false_iff.mpr hSome
  rw [qualifies, hRules, hAny, if_neg (by simp)]
  exact
    List.any_eq_false.mpr
      (fun rule hRule => by simp [hFail rule hRule])

/- There rules that fail can be left out, if one is left. -/
theorem qualifies_anchored
    (hAny : criteria.connective = .any)
    (hLeft :
      ∃ rule ∈ criteria.rules, ¬ rule.Dangles warnings)
    (hFail :
      ∀ rule ∈ criteria.rules,
        rule.Dangles warnings → rule.holds answers = false) :
    (criteria.anchored warnings).qualifies answers =
      criteria.qualifies answers := by
  rcases hLeft with ⟨rule, hRule, hAnchored⟩
  have hSome : criteria.rules.isEmpty = false :=
    List.isEmpty_eq_false_iff.mpr (List.ne_nil_of_mem hRule)
  have hSomeLeft :
      (criteria.anchored warnings).rules.isEmpty = false := by
    apply List.isEmpty_eq_false_iff.mpr
    exact
      List.ne_nil_of_mem
        (List.mem_filter.mpr ⟨hRule, by simpa using hAnchored⟩)
  have hAnyLeft :
      (criteria.anchored warnings).connective = .any := hAny
  rw [qualifies, qualifies, hSome, hSomeLeft, hAny, hAnyLeft,
    if_neg (by simp), if_neg (by simp)]
  simp only [anchored, List.any_filter]
  rw [Bool.eq_iff_iff, List.any_eq_true, List.any_eq_true]
  constructor
  · rintro ⟨other, hOther, hBoth⟩
    exact ⟨other, hOther, (Bool.and_eq_true_iff.mp hBoth).2⟩
  · rintro ⟨other, hOther, hHolds⟩
    have hKept : ¬ other.Dangles warnings := by
      intro hDangles
      simp [hFail other hOther hDangles] at hHolds
    exact ⟨other, hOther, by simp [hKept, hHolds]⟩

end Criteria

end Questionnaire

------------------------------------------------------------
-- Sessions That Are Judged Alike
------------------------------------------------------------

namespace Questionnaire

/- The plan with other criteria. -/
def Plan.judgedBy
    (plan : Plan)
    (criteria : Criteria) : Plan :=
  { plan with criteria := criteria }

/- The criteria have the verdicts of the plan on what it holds. -/
def Plan.JudgedAlike
    (plan : Plan)
    (criteria : Criteria) : Prop :=
  ∀ answers,
    plan.Holds answers →
      criteria.qualifies answers = plan.criteria.qualifies answers

namespace Session

variable {plan : Plan}
variable {criteria : Criteria}
variable {session : Session}

/- Of the criteria only the verdict on the answers matters. -/
theorem goToReview_judgedBy
    (hVerdict :
      criteria.qualifies session.answers =
        plan.criteria.qualifies session.answers) :
    session.goToReview (plan.judgedBy criteria) =
      session.goToReview plan := by
  simp only [goToReview, Plan.judgedBy, hVerdict]
  rfl

theorem complete_judgedBy
    (hVerdict :
      criteria.qualifies session.answers =
        plan.criteria.qualifies session.answers) :
    session.complete (plan.judgedBy criteria) =
      session.complete plan := by
  have hReview :
      ({ session with editing := false } : Session).goToReview
          (plan.judgedBy criteria) =
        ({ session with editing := false } : Session).goToReview
          plan :=
    goToReview_judgedBy hVerdict
  unfold complete
  rw [hReview]
  rfl

theorem elapse_judgedBy
    (hVerdict :
      criteria.qualifies session.answers =
        plan.criteria.qualifies session.answers) :
    session.elapse (plan.judgedBy criteria) =
      session.elapse plan := by
  have hComplete :
      session.undelayed.complete (plan.judgedBy criteria) =
        session.undelayed.complete plan :=
    complete_judgedBy hVerdict
  unfold elapse
  cases session.pending with
  | none => rfl
  | some step =>
      simp only [undelayed] at hComplete
      simp only [hComplete]

theorem advance_judgedBy
    (hVerdict :
      criteria.qualifies session.answers =
        plan.criteria.qualifies session.answers)
    (now : Instant) :
    session.advance (plan.judgedBy criteria) now =
      session.advance plan now := by
  have hScreen :
      session.screen (plan.judgedBy criteria) =
        session.screen plan := rfl
  unfold advance
  rw [hScreen, complete_judgedBy hVerdict]
  rfl

/- A choice is judged with the option that it puts down. -/
theorem choose_judgedBy
    (hAlike : plan.JudgedAlike criteria)
    (hHolds : plan.Holds session.answers)
    (value : String) :
    session.choose (plan.judgedBy criteria) value =
      session.choose plan value := by
  have hSelect :
      session.select (plan.judgedBy criteria) value =
        session.select plan value := rfl
  unfold choose
  rw [hSelect]
  rcases select_cases plan session value with
    ⟨refusal, hRefused⟩ | ⟨_, prompt, hOffers, hPicked⟩
  · rw [hRefused]
    rfl
  · have hPrompt : prompt ∈ plan.prompts :=
      List.mem_of_getElem?
        (Plan.promptAt?_eq_some_iff.mp hOffers.asked).2
    have hNext :
        plan.Holds (session.pick prompt value).answers :=
      hHolds.insert hPrompt
        (Prompt.keeps_of_option hOffers.choice hOffers.offered)
    rw [hPicked]
    exact elapse_judgedBy (hAlike _ hNext)

/- An event does the same under criteria that judge alike. -/
theorem handle_judgedBy
    (hAlike : plan.JudgedAlike criteria)
    (hHolds : plan.Holds session.answers)
    (now : Instant)
    (event : Event) :
    session.handle (plan.judgedBy criteria) now event =
      session.handle plan now event := by
  have hVerdict := hAlike session.answers hHolds
  cases event with
  | advance => simp only [handle, advance_judgedBy hVerdict]
  | timer => simp only [handle, elapse_judgedBy hVerdict]
  | choose value =>
      simp only [handle, choose_judgedBy hAlike hHolds value]
  -- No other event reaches a verdict.
  | _ => rfl

end Session

/- A run leads to the same session. -/
theorem Plan.sessionAfter_judgedBy
    {plan : Plan}
    {criteria : Criteria}
    (hAlike : plan.JudgedAlike criteria)
    (moments : List Moment) :
    (plan.judgedBy criteria).sessionAfter moments =
      plan.sessionAfter moments := by
  induction moments using List.reverseRecOn with
  | nil =>
      have hVerdict :
          criteria.qualifies .empty =
            plan.criteria.qualifies .empty :=
        hAlike .empty (by
          have hStart := Plan.Holds.start plan
          rwa [Session.start_answers] at hStart)
      have hReview :
          ({} : Session).goToReview (plan.judgedBy criteria) =
            ({} : Session).goToReview plan :=
        Session.goToReview_judgedBy hVerdict
      change Session.start _ = Session.start _
      unfold Session.start
      rw [hReview]
      rfl
  | append_singleton moments last ih =>
      rw [sessionAfter_concat, sessionAfter_concat, ih,
        Session.handle_judgedBy hAlike
          (Plan.Holds.sessionAfter plan moments)]

end Questionnaire

------------------------------------------------------------
-- Runs of Forms with Dangling Rules
------------------------------------------------------------

namespace Questionnaire

/- Leaving rules out of a form changes only what judges. -/
theorem Plan.ofForm_anchored
    (form : Form)
    (warnings : List Warning)
    (delays : Delays) :
    Plan.ofForm (form.anchored warnings) delays =
      (Plan.ofForm form delays).judgedBy
        (form.criteria.anchored warnings) := rfl

/- Answers that do not qualify are submitted as disqualified. -/
theorem Plan.disqualified_of_submitted
    {plan : Plan}
    {moments : List Moment}
    {now : Instant}
    {event : Event}
    {submission : Submission}
    (hVerdict :
      plan.criteria.qualifies (plan.sessionAfter moments).answers =
        false)
    (hSubmitted :
      ((plan.sessionAfter moments).handle plan now event).2 =
        .transition (.submitted submission)) :
    submission.status = .disqualified := by
  have hMade := (plan.made_of_submitted moments hSubmitted).2.2.1
  rw [hVerdict, Bool.false_and] at hMade
  rw [hMade]
  rfl

/-
  In a run of an audited form no rule that is reported as
  dangling holds.  If all rules have to hold, a form with such a
  rule has no one qualify.  If one is enough and another rule is
  left, the form without the reported rules has the same
  verdict, and the same session that does the same at every
  event; if none is left, no one qualifies.
-/
theorem dangling_rules_fail
    {form : Form}
    {warnings : List Warning}
    (hAudit : form.audit = .ok warnings)
    (delays : Delays)
    (moments : List Moment) :
    let plan := Plan.ofForm form delays
    let session := plan.sessionAfter moments
    (∀ rule ∈ form.criteria.rules,
      rule.Dangles warnings →
        rule.holds session.answers = false) ∧
    (form.criteria.connective = .all →
      (∃ ruleId questionId,
        .danglingRule ruleId questionId ∈ warnings) →
      ∀ now event submission,
        (session.handle plan now event).2 =
            .transition (.submitted submission) →
          submission.status = .disqualified) ∧
    (form.criteria.connective = .any →
      (∃ rule ∈ form.criteria.rules, ¬ rule.Dangles warnings) →
      let anchored := Plan.ofForm (form.anchored warnings) delays
      anchored.criteria.qualifies session.answers =
          plan.criteria.qualifies session.answers ∧
        anchored.sessionAfter moments = session ∧
        ∀ now event,
          session.handle anchored now event =
            session.handle plan now event) ∧
    (form.criteria.connective = .any →
      form.criteria.rules ≠ [] →
      (∀ rule ∈ form.criteria.rules, rule.Dangles warnings) →
      ∀ now event submission,
        (session.handle plan now event).2 =
            .transition (.submitted submission) →
          submission.status = .disqualified) := by
  intro plan session
  have hHolds : plan.Holds session.answers :=
    Plan.Holds.sessionAfter plan moments
  refine ⟨?_, ?_, ?_, ?_⟩
  · intro rule _ hDangles
    exact hHolds.fails hAudit hDangles
  · rintro hAll ⟨ruleId, questionId, hWarned⟩
      now event submission hSubmitted
    rcases (Form.danglingRule_mem_iff hAudit _ _).mp hWarned with
      ⟨rule, hRule, _, hRuleId, hQuestionId⟩
    have hDangles : rule.Dangles warnings := by
      rw [← hRuleId, ← hQuestionId] at hWarned
      exact hWarned
    have hVerdict : plan.criteria.qualifies session.answers = false :=
      Criteria.not_qualifies_of_all hAll hRule
        (hHolds.fails hAudit hDangles)
    exact Plan.disqualified_of_submitted hVerdict hSubmitted
  · intro hAny hLeft anchored
    have hAlike :
        plan.JudgedAlike (form.criteria.anchored warnings) := by
      intro answers hOthers
      exact
        Criteria.qualifies_anchored hAny hLeft
          (fun rule _ hDangles => hOthers.fails hAudit hDangles)
    have hAnchored :
        anchored =
          plan.judgedBy (form.criteria.anchored warnings) :=
      Plan.ofForm_anchored form warnings delays
    rw [hAnchored]
    refine ⟨hAlike _ hHolds, ?_, ?_⟩
    · exact Plan.sessionAfter_judgedBy hAlike moments
    · exact Session.handle_judgedBy hAlike hHolds
  · intro hAny hSome hDangling now event submission hSubmitted
    have hVerdict : plan.criteria.qualifies session.answers = false :=
      Criteria.not_qualifies_of_any hAny hSome
        (fun rule hRule =>
          hHolds.fails hAudit (hDangling rule hRule))
    exact Plan.disqualified_of_submitted hVerdict hSubmitted

/- The small form with a rule for a question it does not ask. -/
def Form.referred
    (connective : Connective) : Form :=
  { Form.small with
    criteria := {
      rules := [
        ⟨"large", "size", .greaterThan, "20"⟩,
        ⟨"friend", "referrer", .notEquals, ""⟩]
      connective := connective } }

/- Its plan. -/
def Plan.referred
    (connective : Connective) : Plan :=
  Plan.asListed (Form.referred connective) {}

theorem Plan.ofForm_referred
    (connective : Connective) :
    Plan.ofForm (Form.referred connective) {} =
      Plan.referred connective := by
  apply Plan.ofForm_eq_asListed
  change Form.small.questions.Pairwise _
  decide

/- A respondent for whom the first rule holds reviews. -/
def largeReviewed : List Moment :=
  momentsAt ⟨0, 0⟩ [
    .input "Ana", .advance, .choose "30",
    .input "ana@example.com", .advance]

/-
  If both rules have to hold, the respondent is disqualified; if
  one is enough, the other one can be left out.
-/
theorem largeReviewed_judged :
    (Form.referred .all).audit =
        .ok [.danglingRule "friend" "referrer"] ∧
      ((Plan.referred .all).sessionAfter largeReviewed).answers.rows =
        [("email", "ana@example.com"), ("name", "Ana"),
          ("size", "30")] ∧
      (∃ submission,
        (((Plan.referred .all).sessionAfter largeReviewed).handle
            (Plan.referred .all) ⟨0, 0⟩ .confirm).2 =
          .transition (.submitted submission) ∧
        submission.status = .disqualified) ∧
      (Form.referred .any).audit =
        .ok [.danglingRule "friend" "referrer"] ∧
      ((Plan.referred .any).sessionAfter largeReviewed).qualified =
        true ∧
      (Plan.ofForm
        ((Form.referred .any).anchored
          [.danglingRule "friend" "referrer"]) {}).sessionAfter
            largeReviewed =
        (Plan.referred .any).sessionAfter largeReviewed := by
  have hAll :
      (Form.referred .all).audit =
        .ok [.danglingRule "friend" "referrer"] := rfl
  have hAny :
      (Form.referred .any).audit =
        .ok [.danglingRule "friend" "referrer"] := rfl
  have hSubmits :
      (((Plan.referred .all).sessionAfter largeReviewed).handle
          (Plan.referred .all) ⟨0, 0⟩ .confirm).2 =
        .transition
          (.submitted
            (.make .disqualified (Plan.referred .all).targets
              ((Plan.referred .all).sessionAfter
                largeReviewed).answers ⟨0, 0⟩)) := by
    decide +kernel
  have hFails := (dangling_rules_fail hAll {} largeReviewed).2.1 rfl
    ⟨_, _, List.mem_singleton.mpr rfl⟩
  rw [Plan.ofForm_referred] at hFails
  have hSame := (dangling_rules_fail hAny {} largeReviewed).2.2.1 rfl
    ⟨⟨"large", "size", .greaterThan, "20"⟩, by simp [Form.referred],
      by decide⟩
  rw [Plan.ofForm_referred] at hSame
  exact
    ⟨hAll, by decide +kernel,
      ⟨_, hSubmits, hFails _ _ _ hSubmits⟩, hAny,
      by decide +kernel, hSame.2.1⟩

end Questionnaire
