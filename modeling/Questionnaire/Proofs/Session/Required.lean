import Questionnaire.Form.Audit
import Questionnaire.Proofs.Entry.Stored
import Questionnaire.Proofs.Form.Audit
import Questionnaire.Proofs.Session.Verdict
import Questionnaire.Proofs.Session.Walk

/-
  What a required question has to show once a walk is over.

  A field that is required takes no blank entry, and stores none
  (`Validator.isBlank_judge`).  A choice takes each of its
  options, required or not, and an option may be blank; so a
  required question is answered in the payload unless it is a
  choice whose blank option was given (`required_answered_iff`).
-/

------------------------------------------------------------
-- Texts That Are Not Blank
------------------------------------------------------------

namespace Questionnaire

/- The time and the status are never blank. -/
theorem Instant.isBlank_text
    (now : Instant) :
    Text.isBlank now.text = false := by
  refine Text.isBlank_eq_false_of_mem (c := 'Z') ?_ rfl
  simp [Instant.text]

theorem Status.isBlank_name
    (status : Status) :
    Text.isBlank status.name = false := by
  cases status
  all_goals rfl

end Questionnaire

------------------------------------------------------------
-- Fields
------------------------------------------------------------

namespace Questionnaire

/- A number that has a digit is laid out with it. -/
theorem Phone.isBlank_format
    {entry : String}
    (hDigits : (digits entry.toList).isEmpty = false) :
    Text.isBlank (format entry) = false := by
  cases hNumber : digits (format entry).toList with
  | nil =>
      rw [digits_format] at hNumber
      rw [hNumber] at hDigits
      exact absurd hDigits nofun
  | cons c number =>
      have hMem : c ∈ digits (format entry).toList := by
        rw [hNumber]
        exact List.mem_cons_self
      have hFilter := List.mem_filter.mp (List.mem_of_mem_take hMem)
      exact Text.isBlank_eq_false_of_mem hFilter.1
        (Text.isSpace_eq_false_of_isDigit hFilter.2)

/- What is stored of a valid entry of a required field. -/
theorem Validator.isBlank_judge
    {validator : Validator}
    {raw : String}
    (hValid : (validator.judge raw true).valid = true) :
    Text.isBlank (validator.judge raw true).value = false := by
  cases validator with
  | text => simpa [judge] using hValid
  | email =>
      cases hBlank : Text.isBlank raw with
      | false => exact hBlank
      | true => simp [judge, hBlank] at hValid
  | phone =>
      cases hDigits : (Phone.digits raw.toList).isEmpty with
      | false => exact Phone.isBlank_format hDigits
      | true => simp [judge, hDigits] at hValid

/- So a required field stores no blank answer that it admits. -/
theorem Prompt.isBlank_stored
    {prompt : Prompt}
    {answer : String}
    (hField : prompt.kind.isChoice = false)
    (hRequired : prompt.required = true)
    (hAdmits : prompt.admits answer = true) :
    Text.isBlank (prompt.stored answer) = false := by
  rcases exists_validator hField with ⟨validator, hJudged⟩
  rw [admits_of_field hJudged, hRequired] at hAdmits
  rw [stored_of_field hJudged, hRequired]
  exact Validator.isBlank_judge hAdmits

end Questionnaire

------------------------------------------------------------
-- Payloads
------------------------------------------------------------

namespace Questionnaire

/- With distinct ids, each question finds its own answer. -/
theorem Plan.Distinct.get?_filled
    {plan : Plan}
    (hDistinct : plan.Distinct)
    (given : Answers)
    {prompt : Prompt}
    (hPrompt : prompt ∈ plan.prompts) :
    (plan.filled given).get? prompt.id =
      some (prompt.stored (given.answerTo prompt)) := by
  rw [Plan.get?_filled]
  cases hFind :
      plan.prompts.reverse.find?
        (fun other => other.id == prompt.id) with
  | none =>
      have hNone := List.find?_eq_none.mp hFind prompt
        (List.mem_reverse.mpr hPrompt)
      exact absurd (beq_self_eq_true prompt.id) hNone
  | some other =>
      have hMem :=
        List.mem_reverse.mp (List.mem_of_find?_eq_some hFind)
      have hId : other.id = prompt.id := by
        simpa using List.find?_some hFind
      rw [List.inj_on_of_nodup_map hDistinct hMem hPrompt hId]
      rfl

/-
  A payload shows an answer that is not blank, and under the
  names of the status and the time it always shows something.
-/
theorem Submission.Carries.shows_iff
    {targets : Targets}
    {answers : Answers}
    {now : Instant}
    {submission : Submission}
    (hCarries : submission.Carries targets answers now)
    {id value : String}
    (hAnswer : answers.get? id = some value) :
    (∃ shown,
        submission.payload.get? id = some shown ∧
          Text.isBlank shown = false) ↔
      Text.isBlank value = false ∨
        id = "status" ∨ id = "submittedAt" := by
  rw [hCarries.payload]
  by_cases hTime : id = "submittedAt"
  · rw [if_pos hTime]
    exact iff_of_true ⟨_, rfl, now.isBlank_text⟩ (.inr (.inr hTime))
  · by_cases hStatus : id = "status"
    · rw [if_neg hTime, if_pos hStatus]
      exact iff_of_true ⟨_, rfl, submission.status.isBlank_name⟩
        (.inr (.inl hStatus))
    · rw [if_neg hTime, if_neg hStatus, hAnswer,
        or_iff_left (fun hEither => hEither.elim hStatus hTime)]
      constructor
      · rintro ⟨shown, hShown, hBlank⟩
        have hEq := (Option.filter_eq_some_iff.mp hShown).1
        rw [Option.some.inj hEq]
        exact hBlank
      · intro hBlank
        refine ⟨value, ?_, hBlank⟩
        simp [Option.filter, Text.isEmpty_eq_false hBlank]

end Questionnaire

------------------------------------------------------------
-- Required Questions
------------------------------------------------------------

namespace Questionnaire

/- A question of a form is asked by its plan. -/
theorem Plan.mem_prompts_ofForm
    {form : Form}
    {question : Question}
    (hQuestion : question ∈ form.questions)
    (delays : Delays) :
    Prompt.ofQuestion question ∈
      (Plan.ofForm form delays).prompts := by
  have hMem : question ∈ form.inOrder :=
    (List.mergeSort_perm form.questions _).mem_iff.mpr hQuestion
  exact List.mem_map_of_mem hMem

/-
  Once a walk is over, a required field is answered in the
  payload by a text that is not blank.  A required choice has
  been given one of its options, and the payload shows it if it
  is not blank; a missing answer counts as the empty one.
-/
theorem required_answered_iff
    {form : Form}
    {warnings : List Warning}
    {delays : Delays}
    {now : Instant}
    {given : Answers}
    {decline : Bool}
    {report : Report}
    (hAudit : form.audit = .ok warnings)
    (hWalk :
      (Plan.ofForm form delays).walk now given decline = .ok report)
    {question : Question}
    (hQuestion : question ∈ form.questions)
    (hRequired : question.required = true) :
    (question.kind.isChoice = false →
        ∃ shown,
          report.submission.payload.get? question.id = some shown ∧
            Text.isBlank shown = false) ∧
      (question.kind.isChoice = true →
        ∃ option ∈ question.options,
          option.value = (given.get? question.id).getD "" ∧
            ((∃ shown,
                report.submission.payload.get? question.id =
                    some shown ∧
                  Text.isBlank shown = false) ↔
              Text.isBlank option.value = false ∨
                question.id = "status" ∨
                question.id = "submittedAt")) := by
  have hDistinct := Plan.distinct_ofForm hAudit delays
  have hPrompt := Plan.mem_prompts_ofForm hQuestion delays
  rw [Plan.walk_eq_straight] at hWalk
  have hTakes :=
    Plan.exists_straight_eq_ok_iff.mp ⟨report, hWalk⟩ _ hPrompt
  have hCarries :
      report.submission.Carries (Plan.ofForm form delays).targets
        ((Plan.ofForm form delays).filled given) now := by
    rw [Plan.report_of_straight_eq_ok hWalk]
    exact Submission.carries_make _ _ _ _
  have hShows :=
    hCarries.shows_iff (hDistinct.get?_filled given hPrompt)
  refine ⟨?_, ?_⟩
  · intro hField
    exact hShows.mpr
      (.inl (Prompt.isBlank_stored hField hRequired hTakes))
  · intro hChoice
    have hKind : (Prompt.ofQuestion question).kind.isChoice = true :=
      hChoice
    rw [Prompt.takes, Prompt.admits_of_choice hKind,
      List.contains_iff_mem] at hTakes
    rw [Prompt.stored_of_choice hKind] at hShows
    have hOffered : question.offered = question.options :=
      if_pos hChoice
    rw [Prompt.ofQuestion, hOffered] at hTakes
    rcases List.mem_map.mp hTakes with ⟨option, hOption, hValue⟩
    refine ⟨option, hOption, hValue, ?_⟩
    rw [hValue]
    exact hShows

/- A form that asks how to get in touch, which may be not at all. -/
def Form.contact : Form :=
  { company := { name := "Acme", slug := "acme" }
    questions := [
      { id := "name"
        kind := .shortText
        label := "Name"
        required := true },
      { id := "contact"
        kind := .choiceList
        label := "Contact"
        required := true
        order := 1
        options := [
          ⟨"none", "None", ""⟩,
          ⟨"phone", "Phone", "phone"⟩] }] }

/- It passes its audit without warnings. -/
theorem Form.audit_contact :
    Form.contact.audit = .ok [] := rfl

/- A respondent who gives a name only. -/
def nameGiven : Answers :=
  .ofList [("name", "Ana")]

/- What is reported of a walk with the name only. -/
def nameReport : Report :=
  { qualified := true
    finalStep := 4
    submission :=
      .make .qualified (Targets.ofEndpoints {})
        (.ofList [("contact", ""), ("name", "Ana")]) ⟨0, 0⟩ }

theorem walk_nameGiven :
    (Plan.ofForm Form.contact {}).walk ⟨0, 0⟩ nameGiven false =
      .ok nameReport := by
  rw [Plan.ofForm_eq_asListed (by decide)]
  decide +kernel

/- The name is shown, and nothing is of how to get in touch. -/
theorem name_shown_contact_lost :
    (∃ shown,
        nameReport.submission.payload.get? "name" = some shown ∧
          Text.isBlank shown = false) ∧
      ¬ ∃ shown,
        nameReport.submission.payload.get? "contact" = some shown ∧
          Text.isBlank shown = false := by
  have hName :=
    required_answered_iff Form.audit_contact walk_nameGiven
      List.mem_cons_self rfl
  have hContact :=
    required_answered_iff Form.audit_contact walk_nameGiven
      (List.mem_cons_of_mem _ List.mem_cons_self) rfl
  refine ⟨hName.1 rfl, ?_⟩
  rcases hContact.2 rfl with ⟨option, _, hValue, hShown⟩
  have hBlank : option.value = "" := hValue
  intro hSome
  rcases hShown.mp hSome with hFull | hStatus | hTime
  · rw [hBlank] at hFull
    exact absurd hFull nofun
  · exact absurd hStatus (by decide)
  · exact absurd hTime (by decide)

/- So a required question may be left without an answer. -/
theorem required_unanswered :
    ¬ ∀ (form : Form) (warnings : List Warning) (delays : Delays)
        (now : Instant) (given : Answers) (decline : Bool)
        (report : Report),
      form.audit = .ok warnings →
        (Plan.ofForm form delays).walk now given decline =
            .ok report →
          ∀ question ∈ form.questions,
            question.required = true →
              ∃ shown,
                report.submission.payload.get? question.id =
                    some shown ∧
                  Text.isBlank shown = false := by
  intro hAll
  have hShown :=
    hAll Form.contact [] {} ⟨0, 0⟩ nameGiven false nameReport
      Form.audit_contact walk_nameGiven _
      (List.mem_cons_of_mem _ List.mem_cons_self) rfl
  rcases hShown with ⟨shown, hGet, _⟩
  have hNone :
      nameReport.submission.payload.get? "contact" = none := by
    decide +kernel
  exact absurd (hNone.symm.trans hGet) nofun

end Questionnaire
