import Questionnaire.Proofs.Form.Known

/-
  A form is read back from the text that is written of it.

  Key definitions include:
    * `Question.Fits`
    * `Form.Fits`

  A form is read in two steps: a text becomes a value with its
  members in order, and the three groups of fields look for
  theirs among all members.  Since no two groups share a name,
  each finds what was written of it.
-/

------------------------------------------------------------
-- The Parts of a Form
------------------------------------------------------------

namespace Questionnaire

open Format Fields

/- Each kind is written by a name that stands for it alone. -/
theorem lawful_kind
    (kind : Kind) :
    Kind.format.Lawful kind := by
  apply lawful_choice
  cases kind
  all_goals rfl

/- All three texts of an option are written. -/
theorem lawful_option
    (option : Choice) :
    Choice.format.Lawful option := by
  refine lawful_record ?_ rfl
  refine lawful_written (by decide) rfl (lawful_text _) ?_
  refine lawful_written (by decide) rfl (lawful_text _) ?_
  exact lawful_written (by decide) rfl (lawful_text _) lawful_done

/- The order of a question fits into sixty-four bits. -/
def Question.Fits
    (question : Question) : Prop :=
  -Int.pow 2 63 ≤ question.order ∧ question.order < Int.pow 2 63

instance
    (question : Question) : Decidable question.Fits :=
  inferInstanceAs (Decidable (_ ∧ _))

/- A question leaves out a hint or options that it has not. -/
theorem lawful_question
    {question : Question}
    (hFits : question.Fits) :
    Question.format.Lawful question := by
  refine lawful_record ?_ rfl
  refine lawful_written (by decide) rfl (lawful_text _) ?_
  refine lawful_written (by decide) rfl (lawful_kind _) ?_
  refine lawful_written (by decide) rfl (lawful_text _) ?_
  refine lawful_maybe (by decide)
    (fun hint _ => ⟨lawful_text hint, nofun⟩) ?_
  refine lawful_written (by decide) rfl (lawful_flag _) ?_
  refine lawful_written (by decide) rfl
    (lawful_integer hFits.1 hFits.2) ?_
  refine lawful_written (by decide) rfl (lawful_flag _) ?_
  exact lawful_items (by decide)
    (fun option _ => lawful_option option) lawful_done

theorem lawful_rule
    (rule : Rule) :
    Rule.format.Lawful rule := by
  have hComparison :
      Comparison.format.Lawful rule.comparison := by
    apply lawful_choice
    cases rule.comparison
    all_goals rfl
  refine lawful_record ?_ rfl
  refine lawful_written (by decide) rfl (lawful_text _) ?_
  refine lawful_written (by decide) rfl (lawful_text _) ?_
  refine lawful_written (by decide) rfl hComparison ?_
  exact lawful_written (by decide) rfl (lawful_text _) lawful_done

/- All rules are written, and how many of them have to hold. -/
theorem lawful_criteria
    (criteria : Criteria) :
    Criteria.format.Lawful criteria := by
  have hConnective :
      Connective.format.Lawful criteria.connective := by
    apply lawful_choice
    cases criteria.connective
    all_goals rfl
  refine lawful_record ?_ rfl
  refine lawful_written (by decide) rfl
    (lawful_list (fun rule _ => lawful_rule rule)) ?_
  exact lawful_written (by decide) rfl hConnective lawful_done

/- Blank texts are written like others, here and below. -/
theorem lawful_palette
    (palette : Palette) :
    Palette.format.Lawful palette := by
  refine lawful_record ?_ rfl
  refine lawful_written (by decide) rfl (lawful_text _) ?_
  exact lawful_written (by decide) rfl (lawful_text _) lawful_done

theorem lawful_wording
    (wording : Wording) :
    Wording.format.Lawful wording := by
  refine lawful_record ?_ rfl
  refine lawful_written (by decide) rfl (lawful_text _) ?_
  refine lawful_written (by decide) rfl (lawful_text _) ?_
  refine lawful_written (by decide) rfl (lawful_text _) ?_
  exact lawful_written (by decide) rfl (lawful_text _) lawful_done

theorem lawful_verdictPair
    (pair : VerdictPair) :
    VerdictPair.format.Lawful pair := by
  refine lawful_record ?_ rfl
  refine lawful_written (by decide) rfl (lawful_text _) ?_
  exact lawful_written (by decide) rfl (lawful_text _) lawful_done

end Questionnaire

------------------------------------------------------------
-- The Groups of Fields
------------------------------------------------------------

namespace Questionnaire

namespace Form

open Format Fields

/- The orders of all questions fit into sixty-four bits. -/
def Fits
    (form : Form) : Prop :=
  ∀ question ∈ form.questions, question.Fits

instance
    (form : Form) : Decidable form.Fits :=
  inferInstanceAs (Decidable (∀ question ∈ form.questions, _))

/- The only field of a company that is left out is its logo. -/
theorem lawful_company
    (company : Company) :
    companyFields.Lawful (companyParts company) := by
  refine lawful_written (by decide) rfl (lawful_text _) ?_
  refine lawful_written (by decide) rfl (lawful_text _) ?_
  refine lawful_maybe (by decide)
    (fun logo _ => ⟨lawful_text logo, nofun⟩) ?_
  refine lawful_written (by decide) rfl (lawful_palette _) ?_
  exact lawful_written (by decide) rfl (lawful_wording _) lawful_done

/- The orders of the questions are the only numbers of a form. -/
theorem lawful_content
    {form : Form}
    (hFits : form.Fits) :
    contentFields.Lawful (form.questions, form.criteria, ()) := by
  refine lawful_written (by decide) rfl
    (lawful_list (fun question hQuestion =>
      lawful_question (hFits question hQuestion))) ?_
  exact lawful_written (by decide) rfl (lawful_criteria _) lawful_done

theorem lawful_endpoints
    (endpoints : Endpoints) :
    endpointFields.Lawful
      (endpoints.webhooks, endpoints.redirects, ()) := by
  refine lawful_written (by decide) rfl (lawful_verdictPair _) ?_
  exact lawful_written (by decide) rfl (lawful_verdictPair _)
    lawful_done

end Form

end Questionnaire

------------------------------------------------------------
-- Finding the Groups
------------------------------------------------------------

namespace Questionnaire

namespace Form

open Fields

/- All members that are written of a form. -/
def members
    (form : Form) : List (String × Json) :=
  companyFields.toMembers (companyParts form.company)
    ++ contentFields.toMembers (form.questions, form.criteria, ())
    ++ endpointFields.toMembers
        (form.endpoints.webhooks, form.endpoints.redirects, ())

/- The rows in which the members of a form are read. -/
def rows
    (form : Form) : List (String × Json) :=
  (Table.ofList (membersInKeyOrder form.members)).rows

/- No two groups share a name. -/
theorem names_apart :
    (∀ name ∈ companyFields.names,
        name ∉ contentFields.names ∧ name ∉ endpointFields.names) ∧
      ∀ name ∈ contentFields.names, name ∉ endpointFields.names := by
  decide

/- A member of a form belongs to one of the groups. -/
theorem mem_members
    {form : Form}
    {member : String × Json}
    (hMember : member ∈ form.members) :
    (member ∈ companyFields.toMembers (companyParts form.company) ∧
        member.1 ∈ companyFields.names) ∨
      (member ∈ contentFields.toMembers
            (form.questions, form.criteria, ()) ∧
          member.1 ∈ contentFields.names) ∨
        (member ∈ endpointFields.toMembers
              (form.endpoints.webhooks, form.endpoints.redirects,
                ()) ∧
            member.1 ∈ endpointFields.names) := by
  rcases List.mem_append.mp hMember with hOther | hEndpoint
  · rcases List.mem_append.mp hOther with hCompany | hContent
    · exact .inl ⟨hCompany,
        mem_names_of_mem_toMembers _ _ member hCompany⟩
    · exact .inr (.inl ⟨hContent,
        mem_names_of_mem_toMembers _ _ member hContent⟩)
  · exact .inr (.inr ⟨hEndpoint,
      mem_names_of_mem_toMembers _ _ member hEndpoint⟩)

/- A company takes none of the other members for its own. -/
theorem carries_company
    (form : Form) :
    companyFields.Carries form.rows (companyParts form.company) := by
  refine carries_among ?_ ?_
  · intro member hMember hName
    have hApart := names_apart.1 member.1 hName
    rcases mem_members hMember with hFound | hFound | hFound
    · exact hFound.1
    · exact absurd hFound.2 hApart.1
    · exact absurd hFound.2 hApart.2
  · intro member hMember
    exact List.mem_append_left _ (List.mem_append_left _ hMember)

/- Nor do the questions and the criteria. -/
theorem carries_content
    (form : Form) :
    contentFields.Carries form.rows
      (form.questions, form.criteria, ()) := by
  refine carries_among ?_ ?_
  · intro member hMember hName
    rcases mem_members hMember with hFound | hFound | hFound
    · exact absurd hName (names_apart.1 _ hFound.2).1
    · exact hFound.1
    · exact absurd hFound.2 (names_apart.2 _ hName)
  · intro member hMember
    exact List.mem_append_left _ (List.mem_append_right _ hMember)

/- Nor do the addresses. -/
theorem carries_endpoints
    (form : Form) :
    endpointFields.Carries form.rows
      (form.endpoints.webhooks, form.endpoints.redirects, ()) := by
  refine carries_among ?_ ?_
  · intro member hMember hName
    rcases mem_members hMember with hFound | hFound | hFound
    · exact absurd hName (names_apart.1 _ hFound.2).2
    · exact absurd hName (names_apart.2 _ hFound.2)
    · exact hFound.1
  · intro member hMember
    exact List.mem_append_right _ hMember

/- So each group finds what was written of it. -/
theorem ofJson_toJson
    {form : Form}
    (hFits : form.Fits) :
    ofJson form.toJson.inKeyOrder = .ok form := by
  refine (ofJson_eq_ok_iff ⟨form.toJson, rfl⟩).mpr
    ⟨form.rows, rfl, ?_, ?_, ?_⟩
  · exact contentFields.tells_of_lawful .fewerWanted _
      (lawful_content hFits) form.carries_content
  · exact companyFields.tells_of_lawful .exactWanted _
      (lawful_company form.company) form.carries_company
  · exact endpointFields.tells_of_lawful .exactWanted _
      (lawful_endpoints form.endpoints) form.carries_endpoints

end Form

end Questionnaire

------------------------------------------------------------
-- The Text of a Form
------------------------------------------------------------

namespace Questionnaire

namespace Form

open Fields

/- What is written of a form is not nested too deep. -/
theorem fits_toJson
    {form : Form}
    (hFits : form.Fits) :
    form.toJson.Fits Json.depthLimit := by
  have hDepths :
      companyFields.depth ≤ 126 ∧ contentFields.depth ≤ 126 ∧
        endpointFields.depth ≤ 126 := by
    decide
  have hMembers : ∀ member ∈ form.members, member.2.Fits 126 := by
    intro member hMember
    rcases mem_members hMember with hFound | hFound | hFound
    · exact (fits_toMembers _ _ (lawful_company form.company) member
        hFound.1).mono hDepths.1
    · exact (fits_toMembers _ _ (lawful_content hFits) member
        hFound.1).mono hDepths.2.1
    · exact (fits_toMembers _ _ (lawful_endpoints form.endpoints)
        member hFound.1).mono hDepths.2.2
  exact .object hMembers

/- A form is read back from its text on one line. -/
theorem parse_compact
    {form : Form}
    (hFits : form.Fits) :
    parse form.toJson.compact = .ok form :=
  (parse_eq_ok_iff (Json.parse_compact (fits_toJson hFits))).mpr
    (ofJson_toJson hFits)

/- And it is read back from the text that is indented. -/
theorem parse_pretty
    {form : Form}
    (hFits : form.Fits) :
    parse form.toJson.pretty = .ok form :=
  (parse_eq_ok_iff (Json.parse_pretty (fits_toJson hFits))).mpr
    (ofJson_toJson hFits)

end Form

end Questionnaire
