import Questionnaire.Proofs.Document.Page
import Questionnaire.Proofs.Document.Search

/-
  No script element begins or ends before the plan of a page.

  Key definitions include:
    * `Quiet`
    * `QuietPieces`

  Shown text holds no mark of a tag, so what is written of some
  pieces is quiet if their markup is.  Indentation keeps it so
  (`quiet_indentLines`): a tag begins without blanks.
-/

------------------------------------------------------------
-- Quiet Texts
------------------------------------------------------------

namespace Questionnaire.Document

/- How the tags of a script element begin. -/
def scriptMarks : List (List Char) := [
  ['<', 's', 'c'],
  ['<', '/', 's', 'c']]

/- No script element begins or ends in a text. -/
def Quiet
    (text : List Char) : Prop :=
  ∀ mark ∈ scriptMarks, isClear mark text = true

instance
    (text : List Char) : Decidable (Quiet text) := by
  unfold Quiet
  infer_instance

variable {text rest : List Char}

/- The marks of a script element are marks of a tag. -/
theorem less_of_scriptMarks
    {mark : List Char}
    (hMark : mark ∈ scriptMarks) :
    ∃ more, mark = '<' :: more ∧ '\n' ∉ mark := by
  simp only [scriptMarks, List.mem_cons, List.not_mem_nil,
    or_false] at hMark
  rcases hMark with hEq | hEq
  · rw [hEq]
    exact ⟨_, rfl, by decide⟩
  · rw [hEq]
    exact ⟨_, rfl, by decide⟩

/- Two quiet texts do not make a mark where they meet. -/
theorem Quiet.append
    (hText : Quiet text)
    (hRest : Quiet rest) :
    Quiet (text ++ rest) :=
  fun mark hMark =>
    isClear_append (hText mark hMark) (hRest mark hMark)

theorem Quiet.flatten
    {parts : List (List Char)}
    (hParts : ∀ part ∈ parts, Quiet part) :
    Quiet parts.flatten :=
  fun mark hMark =>
    isClear_flatten (fun part hPart => hParts part hPart mark hMark)

/- A text without tags is quiet. -/
theorem quiet_of_not_mem
    (hNotMem : '<' ∉ text) :
    Quiet text := by
  intro mark hMark
  rcases less_of_scriptMarks hMark with ⟨more, hEq, _⟩
  rw [hEq]
  exact isClear_of_not_mem hNotMem

/- A text is quiet if its spelling is. -/
theorem quiet_of_spelled
    {text : String}
    {chars : List Char}
    (hText : text = String.ofList chars)
    (hChars : Quiet chars) :
    Quiet text.toList := by
  rw [hText, String.toList_ofList]
  exact hChars

end Questionnaire.Document

------------------------------------------------------------
-- Quiet Pieces
------------------------------------------------------------

namespace Questionnaire.Document

/- No script element begins or ends in some pieces. -/
def QuietPieces
    (pieces : List Piece) : Prop :=
  ∀ piece ∈ pieces, Quiet piece.written

variable {pieces others : List Piece}

theorem QuietPieces.nil :
    QuietPieces [] :=
  fun _ hPiece => absurd hPiece List.not_mem_nil

theorem QuietPieces.append
    (hPieces : QuietPieces pieces)
    (hOthers : QuietPieces others) :
    QuietPieces (pieces ++ others) :=
  List.forall_mem_append.mpr ⟨hPieces, hOthers⟩

/- Parts that repeat are quiet if each one is. -/
theorem QuietPieces.flatMap
    {α : Type}
    {parts : List α}
    {piecesOf : α → List Piece}
    (hParts : ∀ part ∈ parts, QuietPieces (piecesOf part)) :
    QuietPieces (parts.flatMap piecesOf) := by
  intro piece hPiece
  rcases List.mem_flatMap.mp hPiece with ⟨part, hPart, hMem⟩
  exact hParts part hPart piece hMem

/- Shown text comes first. -/
theorem QuietPieces.shown_cons
    {words : String}
    (hOthers : QuietPieces others) :
    QuietPieces (.shown words :: others) :=
  List.forall_mem_cons.mpr
    ⟨quiet_of_not_mem (less_not_mem_escaped _), hOthers⟩

/- Markup comes first. -/
theorem QuietPieces.markup_cons
    {text : String}
    {chars : List Char}
    (hText : text = String.ofList chars)
    (hChars : Quiet chars)
    (hOthers : QuietPieces others) :
    QuietPieces (.markup text :: others) :=
  List.forall_mem_cons.mpr
    ⟨quiet_of_spelled hText hChars, hOthers⟩

/- Markup comes first, and shown text after it. -/
theorem QuietPieces.words_cons
    {text words : String}
    {chars : List Char}
    (hText : text = String.ofList chars)
    (hChars : Quiet chars)
    (hOthers : QuietPieces others) :
    QuietPieces (.markup text :: .shown words :: others) :=
  QuietPieces.markup_cons hText hChars
    (QuietPieces.shown_cons hOthers)

theorem QuietPieces.whenTrue
    {condition : Bool}
    (hPieces : QuietPieces pieces) :
    QuietPieces (whenTrue condition pieces) := by
  cases condition with
  | false => exact QuietPieces.nil
  | true => exact hPieces

/- What is written of some pieces is clear if each piece is. -/
theorem isClear_written
    {mark : List Char}
    (hPieces :
      ∀ piece ∈ pieces, isClear mark piece.written = true) :
    isClear mark (written pieces) = true := by
  rw [written, List.flatMap_def]
  exact isClear_flatten (List.forall_mem_map.mpr hPieces)

/- What is written of quiet pieces is quiet. -/
theorem QuietPieces.written
    (hPieces : QuietPieces pieces) :
    Quiet (written pieces) :=
  fun mark hMark =>
    isClear_written
      (fun piece hPiece => hPieces piece hPiece mark hMark)

end Questionnaire.Document

------------------------------------------------------------
-- Indented Pieces
------------------------------------------------------------

namespace Questionnaire.Document

variable {mark text : List Char}

/- A mark without line breaks meets only what was there before. -/
theorem meets_indentLines
    (hMark : '\n' ∉ mark)
    (hMeets : meets mark (indentLines text) = true) :
    meets mark text = true := by
  induction mark generalizing text with
  | nil => rfl
  | cons a mark ih =>
      rcases List.ne_and_not_mem_of_not_mem_cons hMark with
        ⟨hNe, hMore⟩
      cases text with
      | nil => rfl
      | cons c text =>
          by_cases hChar : c = '\n'
          · cases text with
            | nil => exact hMeets
            | cons d text =>
                rw [hChar, indentLines_break, List.cons_append,
                  meets, beq_false_of_ne hNe.symm] at hMeets
                exact absurd hMeets Bool.false_ne_true
          · rw [indentLines_cons hChar, meets, Bool.and_eq_true]
              at hMeets
            rw [meets, Bool.and_eq_true]
            exact ⟨hMeets.1, ih hMore hMeets.2⟩

/- Indentation keeps a text clear of a mark without blanks. -/
theorem isClear_indentLines
    {c : Char}
    (hBreak : '\n' ∉ c :: mark)
    (hBlank : c ≠ ' ')
    (hClear : isClear (c :: mark) text = true) :
    isClear (c :: mark) (indentLines text) = true := by
  induction text with
  | nil => rfl
  | cons d text ih =>
      rcases isClear_cons.mp hClear with ⟨hMeets, hText⟩
      by_cases hChar : d = '\n'
      · cases text with
        | nil => exact hClear
        | cons e text =>
            have hIndent : c ∉ '\n' :: indent := by
              have hNotBreak : c ≠ '\n' :=
                (List.ne_of_not_mem_cons hBreak).symm
              simp [indent, hNotBreak, hBlank]
            rw [hChar, indentLines_break]
            exact isClear_append (isClear_of_not_mem hIndent)
              (ih hText)
      · rw [indentLines_cons hChar]
        refine isClear_cons.mpr ⟨?_, ih hText⟩
        rw [← indentLines_cons hChar]
        exact Bool.eq_false_iff.mpr
          (mt (meets_indentLines hBreak)
            (Bool.eq_false_iff.mp hMeets))

/- Indentation keeps a text quiet. -/
theorem quiet_indentLines
    (hText : Quiet text) :
    Quiet (indentLines text) := by
  intro mark hMark
  have hClear := hText mark hMark
  rcases less_of_scriptMarks hMark with ⟨more, hEq, hBreak⟩
  rw [hEq] at hBreak hClear ⊢
  exact isClear_indentLines hBreak (by decide) hClear

/- Quiet pieces are quiet when they are indented. -/
theorem QuietPieces.indented
    {pieces : List Piece}
    (hPieces : QuietPieces pieces) :
    Quiet (indented pieces) := by
  have hFrom (atStart : Bool) :
      Quiet (indentedFrom atStart (pieces.map Piece.written)) := by
    induction pieces generalizing atStart with
    | nil => exact quiet_of_not_mem List.not_mem_nil
    | cons piece pieces ih =>
        rcases List.forall_mem_cons.mp hPieces with
          ⟨hPiece, hOthers⟩
        rw [List.map_cons, indentedFrom_cons, indentedPiece]
        refine Quiet.append (Quiet.append ?_ ?_) (ih hOthers _)
        · apply quiet_of_not_mem
          intro hMem
          exact absurd (eq_of_mem_indentBefore hMem) (by decide)
        · exact quiet_indentLines hPiece
  exact hFrom true

end Questionnaire.Document

------------------------------------------------------------
-- Before the Steps
------------------------------------------------------------

namespace Questionnaire.Document

open QuietPieces

theorem quiet_titlePieces
    (company : Company) :
    QuietPieces (titlePieces company) := by
  refine words_cons
    (by repeat' first | apply spelled_append | exact rfl)
    (by decide) ?_
  refine words_cons rfl (by decide) ?_
  exact words_cons rfl (by decide)
    (markup_cons rfl (by decide) nil)

/- The only tags of a style sheet are around it. -/
theorem quiet_stylePieces
    (colors : Colors) :
    QuietPieces (stylePieces colors) := by
  refine append ?_ ?_
  · refine markup_cons rfl (by decide) ?_
    refine QuietPieces.flatMap ?_
    intro block hBlock piece hPiece
    exact quiet_of_not_mem
      ((plain_styleSheet block hBlock).pieces colors piece hPiece)
  · exact markup_cons rfl (by decide) nil

theorem quiet_benefitPieces
    (company : Company) :
    QuietPieces (benefitPieces company) := by
  unfold benefitPieces
  split
  · exact nil
  · refine append ?_ (markup_cons rfl (by decide) nil)
    refine markup_cons rfl (by decide) ?_
    refine QuietPieces.flatMap ?_
    intro benefit _
    exact words_cons rfl (by decide)
      (markup_cons rfl (by decide) nil)

/- The logo is a tag, but none of a script element. -/
theorem quiet_heroPieces
    (company : Company) :
    QuietPieces (heroPieces company) := by
  refine append (append (append (append ?_ ?_) ?_) ?_) ?_
  · refine markup_cons (spelled_append rfl rfl) (by decide) ?_
    split
    · refine words_cons rfl (by decide) ?_
      exact words_cons rfl (by decide)
        (markup_cons rfl (by decide) nil)
    · exact nil
  · exact words_cons rfl (by decide)
      (markup_cons rfl (by decide) nil)
  · split
    · exact words_cons rfl (by decide)
        (markup_cons rfl (by decide) nil)
    · exact nil
  · exact markup_cons rfl (by decide) (quiet_benefitPieces company)
  · exact markup_cons rfl (by decide) nil

theorem quiet_progressPieces
    (totalSteps : Nat) :
    QuietPieces (progressPieces totalSteps) := by
  refine words_cons
    (by repeat' first | apply spelled_append | exact rfl)
    (by decide) ?_
  exact markup_cons
    (by repeat' first | apply spelled_append | exact rfl)
    (by decide) nil

/- No script element begins or ends before the steps. -/
theorem quiet_headPieces
    (company : Company)
    (totalSteps : Nat) :
    QuietPieces (headPieces company totalSteps) :=
  append
    (append
      (append (quiet_titlePieces company) (quiet_stylePieces _))
      (quiet_heroPieces company))
    (quiet_progressPieces totalSteps)

end Questionnaire.Document

------------------------------------------------------------
-- In the Steps
------------------------------------------------------------

namespace Questionnaire.Document

open QuietPieces

theorem quiet_backButton :
    QuietPieces [.markup backButton] :=
  markup_cons
    (by repeat' first | apply spelled_append | exact rfl)
    (by decide) nil

/- Whatever the options are, their cards have no script. -/
theorem quiet_choicePieces
    (question : Question)
    (layout : String)
    (choices : List Choice) :
    QuietPieces (choicePieces question layout choices) := by
  refine append (append ?_ ?_) (markup_cons rfl (by decide) nil)
  · refine words_cons rfl (by decide) ?_
    exact words_cons rfl (by decide)
      (markup_cons rfl (by decide) nil)
  · split
    · exact markup_cons rfl (by decide) nil
    · refine QuietPieces.flatMap ?_
      intro choice _
      refine words_cons rfl (by decide) ?_
      refine words_cons rfl (by decide) ?_
      refine words_cons rfl (by decide) ?_
      exact words_cons rfl (by decide)
        (markup_cons rfl (by decide) nil)

theorem quiet_linePieces
    (question : Question)
    (inputType : String)
    (maxLength : Option Nat) :
    QuietPieces (linePieces question inputType maxLength) := by
  refine append (append ?_ ?_) (markup_cons rfl (by decide) nil)
  · refine words_cons rfl (by decide) ?_
    refine words_cons rfl (by decide) ?_
    refine words_cons rfl (by decide) ?_
    exact words_cons rfl (by decide)
      (markup_cons rfl (by decide) nil)
  · split
    · exact words_cons rfl (by decide)
        (markup_cons rfl (by decide) nil)
    · exact nil

theorem quiet_textAreaPieces
    (question : Question) :
    QuietPieces (textAreaPieces question) := by
  refine words_cons rfl (by decide) ?_
  refine words_cons rfl (by decide) ?_
  exact words_cons rfl (by decide)
    (markup_cons rfl (by decide) nil)

/- A field has its label, its message and its button around it. -/
theorem quiet_fieldPieces
    {field : List Piece}
    (hField : QuietPieces field)
    (question : Question)
    (message : String)
    (goOn : String) :
    QuietPieces (fieldPieces question field message goOn) := by
  refine append (append (append (append ?_ hField) ?_) ?_) ?_
  · refine words_cons rfl (by decide) ?_
    exact words_cons rfl (by decide)
      (markup_cons rfl (by decide) nil)
  · refine words_cons rfl (by decide) ?_
    refine words_cons rfl (by decide) ?_
    exact markup_cons (spelled_append rfl rfl) (by decide) nil
  · exact QuietPieces.whenTrue (markup_cons rfl (by decide) nil)
  · exact words_cons rfl (by decide)
      (markup_cons rfl (by decide) nil)

/- So each kind of control is quiet. -/
theorem quiet_controlPieces
    (question : Question)
    (goOn : String) :
    QuietPieces (controlPieces question goOn) := by
  unfold controlPieces
  cases Control.ofQuestion question with
  | line inputType validator maxLength =>
      exact quiet_fieldPieces (quiet_linePieces _ _ _) _ _ _
  | lines => exact quiet_fieldPieces (quiet_textAreaPieces _) _ _ _
  | options layout choices => exact quiet_choicePieces _ _ _

/- No script element begins or ends in a step. -/
theorem quiet_stepPieces
    (step last : Nat)
    (question : Question) :
    QuietPieces (stepPieces step last question) := by
  refine append
    (append
      (append
        (append (append (append ?_ ?_) ?_) ?_) ?_) ?_) ?_
  · refine markup_cons rfl (by decide) ?_
    exact QuietPieces.whenTrue (markup_cons rfl (by decide) nil)
  · refine words_cons rfl (by decide) ?_
    refine words_cons rfl (by decide) ?_
    exact words_cons rfl (by decide)
      (markup_cons rfl (by decide) nil)
  · exact QuietPieces.whenTrue quiet_backButton
  · exact words_cons
      (by repeat' first | apply spelled_append | exact rfl)
      (by decide) (markup_cons rfl (by decide) nil)
  · split
    · exact words_cons rfl (by decide)
        (markup_cons rfl (by decide) nil)
    · exact nil
  · exact markup_cons rfl (by decide) (quiet_controlPieces _ _)
  · exact markup_cons rfl (by decide) nil

end Questionnaire.Document

------------------------------------------------------------
-- Before the Plan
------------------------------------------------------------

namespace Questionnaire.Document

open QuietPieces

/- Past the questions only their number is shown. -/
set_option maxRecDepth 4000 in
theorem quiet_reviewPieces
    (questions : Nat) :
    QuietPieces (reviewPieces questions) := by
  refine append (append (append ?_ ?_) ?_) ?_
  · refine markup_cons rfl (by decide) ?_
    exact QuietPieces.whenTrue (markup_cons rfl (by decide) nil)
  · exact words_cons rfl (by decide)
      (markup_cons rfl (by decide) nil)
  · exact QuietPieces.whenTrue quiet_backButton
  · exact markup_cons
      (by repeat' first | apply spelled_append | exact rfl)
      (by decide) nil

set_option maxRecDepth 4000 in
theorem quiet_commitmentPieces
    (questions : Nat) :
    QuietPieces (commitmentPieces questions) := by
  refine words_cons rfl (by decide) ?_
  exact markup_cons
    (by repeat' first | apply spelled_append | exact rfl)
    (by decide) nil

set_option maxRecDepth 4000 in
theorem quiet_successPieces :
    QuietPieces successPieces :=
  markup_cons
    (by repeat' first | apply spelled_append | exact rfl)
    (by decide) nil

/- All that is written before the plan. -/
def frontText
    (form : Form)
    (plan : Plan) : List Char :=
  written (headPieces form.company plan.totalSteps)
    ++ (stepBlocks form.inOrder).flatten
    ++ written (closingPieces form.inOrder.length)

/- No script element begins or ends before the plan. -/
theorem quiet_frontText
    (form : Form)
    (plan : Plan) :
    Quiet (frontText form plan) := by
  refine Quiet.append (Quiet.append ?_ ?_) ?_
  · exact (quiet_headPieces form.company plan.totalSteps).written
  · refine Quiet.flatten ?_
    intro block hBlock
    rcases List.mem_map.mp hBlock with ⟨⟨question, index⟩, _, hEq⟩
    rw [← hEq]
    exact (quiet_stepPieces _ _ question).indented
  · exact (append
      (append (quiet_reviewPieces _) (quiet_commitmentPieces _))
      quiet_successPieces).written

end Questionnaire.Document
