import Questionnaire.Command.Run
import Questionnaire.Proofs.Command.Writes
import Questionnaire.Proofs.Form.Blame
import Questionnaire.Proofs.Form.Wire
import Questionnaire.Proofs.Text.SlugOfName

/-
  The form that a company begins with.

  Key definitions include:
    * `Form.Begins`

  A company begins with a form unless its name is blank or has no
  slug (`starter_cases`).  The form depends on the name in its
  company only, and its slug is one; so it passes the audit
  without warnings, is read back from its file and has a page
  (`starter_works`).
-/

------------------------------------------------------------
-- The Form of a Name
------------------------------------------------------------

namespace Questionnaire

namespace Form

variable {form : Form}
variable {name : String}

/- A company of some name begins with a form. -/
structure Begins
    (form : Form)
    (name : String) : Prop where
  named : form.company.name = name
  slug : form.company.slug = Slug.ofName name
  palette : form.company.palette = ⟨"#3b82f6", "#fbbf24"⟩
  questions : form.questions = starterQuestions
  criteria : form.criteria = {}

/- A name is blank, or has no slug, or a company begins by it. -/
theorem starter_cases
    (companyName : String) :
    (Text.trim companyName = "" ∧
        starter companyName = .error .blankName) ∨
      (Text.trim companyName ≠ "" ∧
        Slug.ofName (Text.trim companyName) = "" ∧
        starter companyName =
          .error (.noSlug (Text.trim companyName))) ∨
      (Text.trim companyName ≠ "" ∧
        Slug.ofName (Text.trim companyName) ≠ "" ∧
        ∃ form : Form,
          starter companyName = .ok form ∧
            form.Begins (Text.trim companyName)) := by
  by_cases hName : Text.trim companyName = ""
  · refine .inl ⟨hName, ?_⟩
    rw [starter, if_pos (String.isEmpty_iff.mpr hName)]
  · have hFull : ¬ (Text.trim companyName).isEmpty = true :=
      mt String.isEmpty_iff.mp hName
    by_cases hSlug : Slug.ofName (Text.trim companyName) = ""
    · refine .inr (.inl ⟨hName, hSlug, ?_⟩)
      rw [starter, if_neg hFull,
        if_pos (String.isEmpty_iff.mpr hSlug)]
    · have hSlugFull :
          ¬ (Slug.ofName (Text.trim companyName)).isEmpty = true :=
        mt String.isEmpty_iff.mp hSlug
      refine .inr (.inr ⟨hName, hSlug, ?_⟩)
      rw [starter, if_neg hFull, if_neg hSlugFull]
      refine ⟨_, rfl, ?_⟩
      constructor
      all_goals dsimp only

end Form

end Questionnaire

------------------------------------------------------------
-- Its Audit
------------------------------------------------------------

namespace Questionnaire

namespace Form

variable {form : Form}
variable {name : String}

/- The questions have ids of their own, and so have the options. -/
theorem audit_starterQuestions :
    auditQuestions 1 [] starterQuestions = .ok () :=
  rfl

/- So the form passes its audit, and there is nothing to warn of. -/
theorem Begins.audit_eq_ok
    (hBegins : form.Begins name)
    (hNamed : Text.isBlank name = false)
    (hSlug : Slug.Spelled (Slug.ofName name)) :
    form.audit = .ok [] := by
  have hName : form.company.auditName = .ok () := by
    rw [(auditName_decided form.company).passes, hBegins.named,
      hBegins.slug]
    exact ⟨hNamed, hSlug⟩
  have hPrimary :
      auditColor .primary form.company.primary = .ok () := by
    rw [Company.primary, hBegins.palette]
    rfl
  have hSecondary :
      auditColor .secondary form.company.secondary = .ok () := by
    rw [Company.secondary, hBegins.palette]
    rfl
  have hWarnings : form.warnings = [] := by
    rw [warnings, questionIds, hBegins.questions, hBegins.criteria]
    rfl
  rw [Form.audit, hName, hPrimary, hSecondary, hBegins.questions,
    audit_starterQuestions, hWarnings]
  rfl

/- The orders of the questions are small. -/
theorem Begins.fits
    (hBegins : form.Begins name) :
    form.Fits := by
  have hQuestions :
      ∀ question ∈ starterQuestions, question.Fits := by
    decide
  rw [Fits, hBegins.questions]
  exact hQuestions

end Form

end Questionnaire

------------------------------------------------------------
-- Its File
------------------------------------------------------------

namespace Questionnaire

/- A line feed after the text of a value does not matter. -/
theorem Json.parse_pretty_line
    {value : Json}
    (hFits : value.Fits depthLimit) :
    parse (value.pretty ++ "\n") = .ok value.inKeyOrder := by
  have hText :
      value.pretty ++ "\n" =
        String.ofList
          ([] ++ (Layout.pretty.chars 0 value ++ ['\n'])) := by
    rw [List.nil_append, Layout.chars_pretty, String.ofList_append]
    rfl
  rw [hText]
  refine parse_chars hFits .pretty Reader.blank_nil ?_
  intro c hMem
  rw [List.mem_singleton.mp hMem]
  rfl

/- A form is read back from its file if its numbers fit. -/
theorem Form.read_fileText
    {form : Form}
    (hFits : form.Fits) :
    read form.fileText = .ok form := by
  have hParse : parse form.fileText = .ok form :=
    (parse_eq_ok_iff (Json.parse_pretty_line (fits_toJson hFits))).mpr
      (ofJson_toJson hFits)
  rw [read, hParse]

end Questionnaire

------------------------------------------------------------
-- The First Form Works
------------------------------------------------------------

namespace Questionnaire

/-
  There is no form to begin with exactly if the trimmed name is
  empty or has no slug.  Otherwise the form has this name and
  this slug, is read back from its file, passes the audit without
  warnings, has a page whatever the settings, and its page
  belongs into the file of this slug.
-/
theorem starter_works
    (companyName : String) :
    ((∃ error, Form.starter companyName = .error error) ↔
        Text.trim companyName = "" ∨
          Slug.ofName (Text.trim companyName) = "") ∧
      match Form.starter companyName with
      | .error error =>
          error =
            if Text.trim companyName = "" then
              .blankName
            else
              .noSlug (Text.trim companyName)
      | .ok form =>
          form.company.name = Text.trim companyName ∧
            form.company.slug =
              Slug.ofName (Text.trim companyName) ∧
            Form.read form.fileText = .ok form ∧
            form.audit = .ok [] ∧
            (∀ settings, ∃ page, form.page settings = .ok page) ∧
            ∀ root,
              form.pagePath root =
                joinPath root
                  ("formulario-"
                    ++ Slug.ofName (Text.trim companyName)
                    ++ ".html") := by
  rcases Form.starter_cases companyName with
    ⟨hName, hStarter⟩ | ⟨hName, hSlug, hStarter⟩ |
      ⟨hName, hSlug, form, hStarter, hBegins⟩
  · rw [hStarter]
    exact ⟨iff_of_true ⟨_, rfl⟩ (.inl hName), (if_pos hName).symm⟩
  · rw [hStarter]
    exact ⟨iff_of_true ⟨_, rfl⟩ (.inr hSlug), (if_neg hName).symm⟩
  · have hNamed : Text.isBlank (Text.trim companyName) = false := by
      rw [Text.isBlank_trim, Bool.eq_false_iff]
      exact mt (Text.isBlank_iff_trim_eq_empty companyName).mp hName
    have hSpelled :
        Slug.Spelled (Slug.ofName (Text.trim companyName)) :=
      Slug.ofName_spelled (mt Slug.ofName_eq_empty_iff.mpr hSlug)
    have hAudit := hBegins.audit_eq_ok hNamed hSpelled
    rw [hStarter]
    refine ⟨iff_of_false nofun (not_or.mpr ⟨hName, hSlug⟩),
      hBegins.named, hBegins.slug, Form.read_fileText hBegins.fits,
      hAudit, Form.exists_page hAudit, ?_⟩
    intro root
    rw [Form.pagePath, Form.fileName, hBegins.slug]

end Questionnaire
