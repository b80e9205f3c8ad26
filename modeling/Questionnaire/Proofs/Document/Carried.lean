import Questionnaire.Proofs.Document.Naming
import Questionnaire.Proofs.Document.Quiet
import Questionnaire.Proofs.Plan.Wire

/-
  A page carries the plan of its form.

  Key definitions include:
    * `PageParts`
    * `parts?`
    * `endText`

  Whatever the texts of a form are, the tag before the plan is
  found once in the page, and what stands between it and the
  next closing tag is read back as the plan
  (`page_carries_plan`).
-/

------------------------------------------------------------
-- The Parts of a Page
------------------------------------------------------------

namespace Questionnaire.Document

/- What stands before the plan, the plan, and what follows. -/
structure PageParts where
  front : List Char
  plan : List Char
  tail : List Char
  deriving DecidableEq

/-
  The parts of a page: the plan is between the tag that opens
  its element and the next tag that closes one.
-/
def parts?
    (page : String) : Option PageParts := do
  let (front, rest) ← cut? planMarker.toList page.toList
  let (plan, tail) ← cut? scriptEnd.toList rest
  return ⟨front, plan, tail⟩

/- Everything after the tag that closes the plan's element. -/
def endText : String :=
  "\n<script>\n" ++ scriptText ++ "\n" ++ scriptEnd
    ++ "\n</body>\n</html>\n"

/- The front of a page, its plan between the marks, and its end. -/
theorem toList_pageOf
    (form : Form)
    (plan : Plan) :
    (pageOf form plan).toList =
      frontText form plan
        ++ (planMarker.toList
          ++ ((planText plan).toList
            ++ (scriptEnd.toList ++ endText.toList))) := by
  have hClosing : closingText = scriptEnd ++ endText := by
    simp only [closingText, endText, String.append_assoc]
  simp only [pageOf, frontText, hClosing, String.toList_ofList,
    String.toList_append, List.append_assoc]

end Questionnaire.Document

------------------------------------------------------------
-- The Script
------------------------------------------------------------

namespace Questionnaire.Document

/- The lines of a part of the script are quiet. -/
def QuietLines
    (lines : List String) : Prop :=
  ∀ line ∈ lines, Quiet line.toList

theorem QuietLines.nil :
    QuietLines [] :=
  fun _ hLine => absurd hLine List.not_mem_nil

theorem QuietLines.append
    {lines others : List String}
    (hLines : QuietLines lines)
    (hOthers : QuietLines others) :
    QuietLines (lines ++ others) :=
  List.forall_mem_append.mpr ⟨hLines, hOthers⟩

theorem QuietLines.cons
    {line : String}
    {chars : List Char}
    {lines : List String}
    (hText : line = String.ofList chars)
    (hChars : Quiet chars)
    (hLines : QuietLines lines) :
    QuietLines (line :: lines) :=
  List.forall_mem_cons.mpr ⟨quiet_of_spelled hText hChars, hLines⟩

theorem quiet_scriptLines :
    QuietLines scriptLines := by
  refine .append (.append (.append (.append (.append
    (.append (.append ?_ ?_) ?_) ?_) ?_) ?_) ?_) ?_
  all_goals
    repeat' first
      | exact QuietLines.nil
      | refine QuietLines.cons rfl (quiet_of_not_mem (by decide)) ?_
      | refine QuietLines.cons rfl (by decide) ?_

/- The script neither begins nor ends a script element. -/
theorem quiet_scriptText :
    Quiet scriptText.toList := by
  rw [scriptText, String.toList_join, List.flatMap_def]
  refine Quiet.flatten ?_
  rw [List.map_map]
  intro part hPart
  rcases List.mem_map.mp hPart with ⟨line, hLine, hEq⟩
  rw [← hEq]
  have hLines := quiet_scriptLines line hLine
  rw [Function.comp_apply, String.toList_append]
  exact hLines.append (quiet_of_not_mem (by decide))

end Questionnaire.Document

------------------------------------------------------------
-- Finding the Plan
------------------------------------------------------------

namespace Questionnaire.Document

/- The tag before the plan begins as a script element does. -/
theorem planMarker_spelled :
    ∃ more,
      planMarker.toList = '<' :: 's' :: 'c' :: more ∧
        '<' ∉ 's' :: 'c' :: more ∧
          isClear scriptEnd.toList planMarker.toList = true := by
  have hMarker : planMarker = String.ofList _ := rfl
  have hEnd : scriptEnd = String.ofList _ := rfl
  rw [hMarker, hEnd, String.toList_ofList, String.toList_ofList]
  exact ⟨_, rfl, by decide, by decide⟩

/- The closing tag ends a script element. -/
theorem scriptEnd_spelled :
    ∃ more,
      scriptEnd.toList = '<' :: '/' :: 's' :: 'c' :: more ∧
        '<' ∉ '/' :: 's' :: 'c' :: more ∧
          isClear planMarker.toList scriptEnd.toList = true := by
  have hMarker : planMarker = String.ofList _ := rfl
  have hEnd : scriptEnd = String.ofList _ := rfl
  rw [hMarker, hEnd, String.toList_ofList, String.toList_ofList]
  exact ⟨_, rfl, by decide, by decide⟩

/- The texts in which neither tag begins. -/
structure Untagged
    (text : List Char) : Prop where
  marker : isClear planMarker.toList text = true
  closing : isClear scriptEnd.toList text = true

theorem Untagged.append
    {text rest : List Char}
    (hText : Untagged text)
    (hRest : Untagged rest) :
    Untagged (text ++ rest) :=
  ⟨isClear_append hText.marker hRest.marker,
    isClear_append hText.closing hRest.closing⟩

/- Neither tag begins where no script element does. -/
theorem Quiet.untagged
    {text : List Char}
    (hText : Quiet text) :
    Untagged text := by
  constructor
  · rcases planMarker_spelled with ⟨more, hMarker, _⟩
    have hClear := hText ['<', 's', 'c'] (by decide)
    have hLonger :
        isClear (['<', 's', 'c'] ++ more) text = true :=
      isClear_of_start hClear
    rw [hMarker]
    exact hLonger
  · rcases scriptEnd_spelled with ⟨more, hEnd, _⟩
    have hClear := hText ['<', '/', 's', 'c'] (by decide)
    have hLonger :
        isClear (['<', '/', 's', 'c'] ++ more) text = true :=
      isClear_of_start hClear
    rw [hEnd]
    exact hLonger

/- No tag begins in a plan, and nothing else that is unsafe. -/
theorem not_unsafe_planText
    {plan : Plan}
    {c : Char}
    (hMem : c ∈ (planText plan).toList) :
    Json.isUnsafe c = false := by
  rw [planText, Json.toList_embedded_compact] at hMem
  exact Json.not_unsafe_scripted hMem

/- The plan is written without brackets of tags. -/
theorem untagged_planText
    (plan : Plan) :
    Untagged (planText plan).toList := by
  apply Quiet.untagged
  apply quiet_of_not_mem
  intro hMem
  exact absurd (not_unsafe_planText hMem) (by decide)

/- The script's own element is closed once. -/
theorem endText_spelled :
    ∃ script last,
      endText.toList = script ++ (scriptEnd.toList ++ last) ∧
        Untagged script ∧ Untagged last := by
  have hOpening :
      Untagged "\n<script>\n".toList := by
    have hMarker : planMarker = String.ofList _ := rfl
    have hEnd : scriptEnd = String.ofList _ := rfl
    have hText : "\n<script>\n" = String.ofList _ := rfl
    constructor
    · rw [hMarker, hText, String.toList_ofList,
        String.toList_ofList]
      decide
    · rw [hEnd, hText, String.toList_ofList,
        String.toList_ofList]
      decide
  have hBreak : Quiet "\n".toList :=
    quiet_of_not_mem (by decide)
  have hLast : Quiet "\n</body>\n</html>\n".toList :=
    quiet_of_spelled rfl (by decide)
  refine
    ⟨("\n<script>\n" ++ scriptText ++ "\n").toList,
      "\n</body>\n</html>\n".toList, ?_, ?_, hLast.untagged⟩
  · simp only [endText, String.toList_append, List.append_assoc]
  · rw [String.toList_append, String.toList_append]
    exact (hOpening.append quiet_scriptText.untagged).append
      hBreak.untagged

/- The tag before the plan stands once in a page. -/
theorem occurrences_planMarker
    (form : Form)
    (plan : Plan) :
    occurrences planMarker.toList (pageOf form plan).toList = 1 := by
  have hFront := (quiet_frontText form plan).untagged
  have hPlan := untagged_planText plan
  rcases endText_spelled with ⟨script, last, hText, hScript, hLast⟩
  rcases scriptEnd_spelled with ⟨_, _, _, hEnd⟩
  rcases planMarker_spelled with ⟨more, hMarker, hOnce, _⟩
  have hHere (rest : List Char) :
      occurrences planMarker.toList (planMarker.toList ++ rest) =
        1 + occurrences planMarker.toList rest := by
    rw [hMarker]
    exact occurrences_mark hOnce rest
  rw [toList_pageOf, occurrences_append hFront.marker, hHere,
    occurrences_append hPlan.marker, occurrences_append hEnd,
    hText, occurrences_append hScript.marker,
    occurrences_append hEnd, occurrences_of_clear hLast.marker]

/- The closing tag stands twice in a page. -/
theorem occurrences_scriptEnd
    (form : Form)
    (plan : Plan) :
    occurrences scriptEnd.toList (pageOf form plan).toList = 2 := by
  have hFront := (quiet_frontText form plan).untagged
  have hPlan := untagged_planText plan
  rcases endText_spelled with ⟨script, last, hText, hScript, hLast⟩
  rcases planMarker_spelled with ⟨_, _, _, hMarker⟩
  rcases scriptEnd_spelled with ⟨more, hEnd, hOnce, _⟩
  have hHere (rest : List Char) :
      occurrences scriptEnd.toList (scriptEnd.toList ++ rest) =
        1 + occurrences scriptEnd.toList rest := by
    rw [hEnd]
    exact occurrences_mark hOnce rest
  rw [toList_pageOf, occurrences_append hFront.closing,
    occurrences_append hMarker, occurrences_append hPlan.closing,
    hHere, hText, occurrences_append hScript.closing, hHere,
    occurrences_of_clear hLast.closing]

/- A page is cut at the tag before its plan. -/
theorem cut?_planMarker
    {text : List Char}
    (hText : Untagged text)
    (rest : List Char) :
    cut? planMarker.toList (text ++ (planMarker.toList ++ rest)) =
      some (text, rest) := by
  have hClear := hText.marker
  rcases planMarker_spelled with ⟨_, hMarker, _⟩
  rw [hMarker] at hClear ⊢
  exact cut?_append hClear rest

/- So the first end mark behind it is its own. -/
theorem cut?_scriptEnd
    {text : List Char}
    (hText : Untagged text)
    (rest : List Char) :
    cut? scriptEnd.toList (text ++ (scriptEnd.toList ++ rest)) =
      some (text, rest) := by
  have hClear := hText.closing
  rcases scriptEnd_spelled with ⟨_, hEnd, _⟩
  rw [hEnd] at hClear ⊢
  exact cut?_append hClear rest

/- The parts of a page are cut from it one by one. -/
theorem parts?_of_cut
    {page : String}
    {front rest plan tail : List Char}
    (hFront : cut? planMarker.toList page.toList = some (front, rest))
    (hPlan : cut? scriptEnd.toList rest = some (plan, tail)) :
    ∃ parts,
      parts? page = some parts ∧
        parts.front = front ∧ parts.plan = plan ∧
          parts.tail = tail := by
  refine ⟨⟨front, plan, tail⟩, ?_, rfl, rfl, rfl⟩
  simp only [parts?, hFront, hPlan, Option.bind_eq_bind,
    Option.bind_some, Option.pure_def]

/- They are what the page was put together from. -/
theorem parts?_pageOf
    (form : Form)
    (plan : Plan) :
    ∃ parts,
      parts? (pageOf form plan) = some parts ∧
        parts.front = frontText form plan ∧
          parts.plan = (planText plan).toList ∧
            parts.tail = endText.toList := by
  have hFront := (quiet_frontText form plan).untagged
  have hPlan := untagged_planText plan
  refine parts?_of_cut ?_ (cut?_scriptEnd hPlan endText.toList)
  rw [toList_pageOf]
  exact cut?_planMarker hFront _

end Questionnaire.Document

------------------------------------------------------------
-- The Plan in the Page
------------------------------------------------------------

namespace Questionnaire

open Document

variable {form : Form}
variable {settings : Settings}
variable {warnings : List Warning}

/- A step for each question, the review and the commitment. -/
theorem Plan.totalSteps_ofForm
    (form : Form)
    (delays : Delays) :
    (Plan.ofForm form delays).totalSteps =
      form.questions.length + 2 := by
  simp only [Plan.ofForm, Form.inOrder, List.length_map,
    List.length_mergeSort]

/-
  A page carries the plan of its form: the tag before the plan
  stands in the page once and the closing tag twice, and what
  is between the tag and the next closing tag is read as the
  plan.  Delays and steps are counted in sixty-four bits.
-/
theorem page_carries_plan
    (hAudit : form.audit = .ok warnings)
    (hDelays : settings.delays.Fits)
    (hSteps : form.questions.length + 2 < Nat.pow 2 64) :
    ∃ page parts,
      form.page settings = .ok page ∧
        occurrences planMarker.toList page.toList = 1 ∧
          occurrences scriptEnd.toList page.toList = 2 ∧
            parts? page = some parts ∧
              Plan.format.parse (String.ofList parts.plan) =
                .ok (Plan.ofForm form settings.delays) := by
  have hFits : (Plan.ofForm form settings.delays).Fits := by
    refine ⟨?_, hDelays⟩
    rw [Plan.totalSteps_ofForm]
    exact hSteps
  rcases parts?_pageOf form (Plan.ofForm form settings.delays) with
    ⟨parts, hParts, _, hPlan, _⟩
  refine ⟨_, parts, Form.page_of_audit hAudit,
    occurrences_planMarker _ _, occurrences_scriptEnd _ _,
    hParts, ?_⟩
  rw [hPlan, String.ofList_toList]
  exact (readsBack_plan hFits).parse

/- A form whose texts look like the tags around a plan. -/
def Form.imitating : Form :=
  { company := { name := "</script>", slug := "acme" }
    questions := [
      { id := "name"
        kind := .shortText
        label :=
          "<script type=\"application/json\" id=\"funnel-config\">" }] }

theorem Form.audit_imitating :
    Form.imitating.audit = .ok [] := by
  rfl

/- Its page carries its plan like any other. -/
theorem imitating_carries_plan :
    Form.imitating.audit = .ok [] ∧
      Delays.Fits {} ∧
        Form.imitating.questions.length + 2 < Nat.pow 2 64 ∧
          ∃ page parts,
            Form.imitating.page {} = .ok page ∧
              occurrences planMarker.toList page.toList = 1 ∧
                occurrences scriptEnd.toList page.toList = 2 ∧
                  parts? page = some parts ∧
                    Plan.format.parse (String.ofList parts.plan) =
                      .ok (Plan.ofForm Form.imitating {}) := by
  have hDelays : Delays.Fits {} := by
    decide
  have hSteps :
      Form.imitating.questions.length + 2 < Nat.pow 2 64 := by
    decide
  exact ⟨Form.audit_imitating, hDelays, hSteps,
    page_carries_plan Form.audit_imitating hDelays hSteps⟩

end Questionnaire
