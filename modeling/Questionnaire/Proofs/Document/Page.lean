import Questionnaire.Document.Page
import Questionnaire.Proofs.Document.Block

/-
  The attributes for the script that a whole page shows.

  Key definitions include:
    * `Shows`
    * `Plain`
    * `reviewData`
    * `commitmentData`
    * `stepsData`

  Before the steps a page shows no attribute for its script
  (`shows_headPieces`); then it shows those of the steps, one
  step after another, and those of the review and of the
  commitment (`dataFrom_pageOf`).
-/

------------------------------------------------------------
-- Reading Pieces That Are Not Indented
------------------------------------------------------------

namespace Questionnaire.Document

variable {before middle after : Cursor}
variable {text : String}
variable {chars rest : List Char}
variable {pieces others : List Piece}
variable {data more : List Attribute}

/- Pieces as they stand lead a reader from one state to another. -/
def Shows
    (before : Cursor)
    (pieces : List Piece)
    (after : Cursor)
    (data : List Attribute) : Prop :=
  Reads before (written pieces) after data

theorem Shows.nil :
    Shows before [] before [] :=
  Reads.nil

/- The next pieces go on where the reading has come to. -/
theorem Shows.append
    (middle : Cursor)
    (hPieces : Shows before pieces middle data)
    (hOthers : Shows middle others after more) :
    Shows before (pieces ++ others) after (data ++ more) := by
  unfold Shows written
  rw [List.flatMap_append]
  exact Reads.append hPieces hOthers

/- Nothing is found in the first of two parts. -/
theorem Shows.append_left
    (middle : Cursor)
    (hPieces : Shows before pieces middle [])
    (hOthers : Shows middle others after more) :
    Shows before (pieces ++ others) after more :=
  Shows.append middle hPieces hOthers

/- What every part shows from a state to itself, all show. -/
theorem Shows.flatMap
    {α : Type}
    {parts : List α}
    {piecesOf : α → List Piece}
    (hParts : ∀ part, Shows before (piecesOf part) before []) :
    Shows before (parts.flatMap piecesOf) before [] := by
  induction parts with
  | nil => exact Shows.nil
  | cons part parts ih =>
      exact Shows.append_left before (hParts part) ih

/- Markup comes first. -/
theorem Shows.markup_cons
    (middle : Cursor)
    (data : List Attribute)
    (hText : text = String.ofList chars)
    (hChars : Reads before chars middle data)
    (hOthers : Shows middle others after more) :
    Shows before (.markup text :: others) after
      (data ++ more) := by
  refine Reads.append ?_ hOthers
  rw [Piece.written, hText, String.toList_ofList]
  exact hChars

/- Markup comes last. -/
theorem Shows.markup
    (hText : text = String.ofList chars)
    (hChars : Reads before chars after data) :
    Shows before [.markup text] after data := by
  have hMarkup :=
    Shows.markup_cons after data hText hChars Shows.nil
  rw [List.append_nil] at hMarkup
  exact hMarkup

/- Words come first, between tags. -/
theorem Shows.words_cons
    {words : String}
    (hOthers : Shows .text others after more) :
    Shows .text (.shown words :: others) after more :=
  (reads_text (less_not_mem_escaped _)).append hOthers

/- The value of an attribute comes first, then its end. -/
theorem Shows.value
    (name written : List Char)
    (value : String)
    (hText : text = String.ofList ('"' :: rest))
    (hRest : Reads (.tag []) rest middle data)
    (hOthers : Shows middle others after more) :
    Shows (.value name written)
      (.shown value :: .markup text :: others) after
      ((closing name (written ++ value.toList.flatMap escapedChar)
        ++ data) ++ more) := by
  have hMarkup :
      Reads (.value name
          (written ++ value.toList.flatMap escapedChar))
        (Piece.markup text).written middle
        (closing name
          (written ++ value.toList.flatMap escapedChar)
          ++ data) := by
    rw [Piece.written, hText, String.toList_ofList]
    exact (reads_quote name _).append hRest
  exact (reads_value (quote_not_mem_escaped _)).append
    (hMarkup.append hOthers)

end Questionnaire.Document

------------------------------------------------------------
-- Pieces Without Tags
------------------------------------------------------------

namespace Questionnaire.Document

/- No tag begins in a text. -/
def Plain
    (text : String) : Prop :=
  '<' ∉ text.toList

/- A text is plain if it is spelled without the mark of a tag. -/
theorem plain_of_spelled
    {text : String}
    {chars : List Char}
    (hText : text = String.ofList chars)
    (hChars : '<' ∉ chars) :
    Plain text := by
  unfold Plain
  rw [hText, String.toList_ofList]
  exact hChars

/- Two plain texts make a plain text. -/
theorem Plain.append
    {text other : String}
    (hText : Plain text)
    (hOther : Plain other) :
    Plain (text ++ other) := by
  unfold Plain
  rw [String.toList_append, List.mem_append]
  exact not_or.mpr ⟨hText, hOther⟩

/- No tag begins in a piece. -/
def Piece.Plain
    (piece : Piece) : Prop :=
  '<' ∉ piece.written

/- Plain pieces are read over. -/
theorem shows_of_plain
    {pieces : List Piece}
    (hPieces : ∀ piece ∈ pieces, piece.Plain) :
    Shows .text pieces .text [] := by
  apply reads_text
  intro hMem
  rcases List.mem_flatMap.mp hMem with ⟨piece, hPiece, hChar⟩
  exact hPieces piece hPiece hChar

/- No tag begins in a part of a rule. -/
def StylePart.Plain : StylePart → Prop
  | .text fixed => Document.Plain fixed
  | .color _ => True

/- No tag begins in a rule. -/
def StyleRule.Plain
    (rule : StyleRule) : Prop :=
  Document.Plain rule.selector ∧ ∀ part ∈ rule.body, part.Plain

/- No tag begins in a block of a style sheet. -/
def StyleBlock.Plain : StyleBlock → Prop
  | .rule one => one.Plain
  | .group heading rules =>
      Document.Plain heading ∧ ∀ rule ∈ rules, rule.Plain

/- A colour is shown text, in which no tag begins. -/
theorem StylePart.Plain.piece
    {part : StylePart}
    (hPart : part.Plain)
    (colors : Colors) :
    (part.piece colors).Plain := by
  cases part with
  | text fixed => exact hPart
  | color field => exact less_not_mem_escaped _

/- So no tag begins in a rule, whatever the colours are. -/
theorem StyleRule.Plain.pieces
    {rule : StyleRule}
    (hRule : rule.Plain)
    (colors : Colors) :
    ∀ piece ∈ rule.pieces colors, piece.Plain := by
  rcases hRule with ⟨hSelector, hBody⟩
  intro piece hPiece
  rcases List.mem_append.mp hPiece with hFront | hEnd
  · rcases List.mem_cons.mp hFront with hEq | hMem
    · rw [hEq]
      exact hSelector.append (plain_of_spelled rfl (by decide))
    · rcases List.mem_map.mp hMem with ⟨part, hPart, hEq⟩
      rw [← hEq]
      exact (hBody part hPart).piece colors
  · rw [List.mem_singleton.mp hEnd]
    exact plain_of_spelled rfl (by decide)

theorem StyleBlock.Plain.pieces
    {block : StyleBlock}
    (hBlock : block.Plain)
    (colors : Colors) :
    ∀ piece ∈ block.pieces colors, piece.Plain := by
  cases block with
  | rule one => exact StyleRule.Plain.pieces hBlock colors
  | group heading rules =>
      rcases hBlock with ⟨hHeading, hRules⟩
      intro piece hPiece
      rcases List.mem_append.mp hPiece with hFront | hEnd
      · rcases List.mem_cons.mp hFront with hEq | hMem
        · rw [hEq]
          exact hHeading.append
            (plain_of_spelled rfl (by decide))
        · rcases List.mem_flatMap.mp hMem with
            ⟨rule, hRule, hRulePiece⟩
          exact (hRules rule hRule).pieces colors piece
            hRulePiece
      · rw [List.mem_singleton.mp hEnd]
        exact plain_of_spelled rfl (by decide)

/- No tag begins in the style sheet. -/
theorem plain_styleSheet :
    ∀ block ∈ styleSheet, block.Plain := by
  simp only [styleSheet, headStyle, stepStyle, fieldStyle,
    buttonStyle, endStyle, List.cons_append, List.nil_append,
    List.forall_mem_cons, StyleBlock.Plain, StyleRule.Plain,
    StylePart.Plain, List.not_mem_nil, false_implies,
    implies_true, and_true, true_and]
  repeat' apply And.intro
  all_goals exact plain_of_spelled rfl (by decide)

end Questionnaire.Document

------------------------------------------------------------
-- The Head of the Page
------------------------------------------------------------

namespace Questionnaire.Document

/- The value of an attribute, after some of it. -/
def atValue
    (name : String)
    (written : String) : Cursor :=
  .value name.toList written.toList

variable {before middle after : Cursor}
variable {text : String}
variable {chars rest : List Char}
variable {others : List Piece}
variable {more : List Attribute}

/- An attribute that is not for the script comes first. -/
theorem Shows.other_cons
    {name written value : String}
    (middle : Cursor)
    (hName : isDataName name = false)
    (hText : text = String.ofList ('"' :: rest))
    (hRest : Reads (.tag []) rest middle [])
    (hOthers : Shows middle others after more) :
    Shows (atValue name written)
      (.shown value :: .markup text :: others) after more := by
  have hValue := Shows.value name.toList written.toList value
    hText hRest hOthers
  rw [closing_of_other hName] at hValue
  exact hValue

/- An attribute that is for the script comes first. -/
theorem Shows.data_cons
    {name value : String}
    (middle : Cursor)
    (data : List Attribute)
    (hName : isDataName name = true)
    (hValue : Unbroken value)
    (hText : text = String.ofList chars)
    (hChars : chars = '"' :: rest)
    (hRest : Reads (.tag []) rest middle data)
    (hOthers : Shows middle others after more) :
    Shows (atValue name "")
      (.shown value :: .markup text :: others) after
      (attributeOf name value :: (data ++ more)) := by
  rw [hChars] at hText
  have hShows := Shows.value name.toList [] value
    hText hRest hOthers
  rw [closing_of_data hName] at hShows
  unfold attributeOf
  rw [(broken_eq_iff value).mpr hValue]
  exact hShows

set_option maxRecDepth 4000 in
theorem shows_titlePieces
    (company : Company) :
    Shows .text (titlePieces company) .text [] := by
  refine Shows.markup_cons (atValue "content" "funnel-runtime ") []
    (by repeat' first | apply spelled_append | exact rfl)
    (by decide) ?_
  refine Shows.other_cons .text rfl rfl (by decide) ?_
  refine Shows.words_cons ?_
  refine Shows.markup_cons .text [] rfl (by decide) ?_
  refine Shows.words_cons ?_
  exact Shows.markup rfl (by decide)

theorem shows_stylePieces
    (colors : Colors) :
    Shows .text (stylePieces colors) .text [] := by
  refine Shows.append_left .text ?_ ?_
  · refine Shows.markup_cons .text [] rfl (by decide) ?_
    apply shows_of_plain
    intro piece hPiece
    rcases List.mem_flatMap.mp hPiece with ⟨block, hBlock, hMem⟩
    exact (plain_styleSheet block hBlock).pieces colors piece hMem
  · exact Shows.markup rfl (by decide)

theorem shows_benefitPieces
    (company : Company) :
    Shows .text (benefitPieces company) .text [] := by
  unfold benefitPieces
  cases company.benefits with
  | nil => exact Shows.nil
  | cons benefit benefits =>
      refine Shows.append_left .text ?_ ?_
      · refine Shows.markup_cons .text [] rfl (by decide) ?_
        apply Shows.flatMap
        intro words
        refine Shows.markup_cons .text [] rfl (by decide) ?_
        refine Shows.words_cons ?_
        exact Shows.markup rfl (by decide)
      · exact Shows.markup rfl (by decide)

/- A logo stands inside of a tag, the other texts between tags. -/
theorem shows_heroPieces
    (company : Company) :
    Shows .text (heroPieces company) .text [] := by
  refine Shows.append_left .text
    (Shows.append_left .text
      (Shows.append_left .text
        (Shows.append_left .text ?_ ?_) ?_) ?_) ?_
  · refine Shows.markup_cons .text []
      (spelled_append rfl rfl) (by decide) ?_
    cases company.logo? with
    | none => exact Shows.nil
    | some logo =>
        refine Shows.markup_cons (atValue "src" "") [] rfl
          (by decide) ?_
        refine Shows.other_cons (atValue "alt" "") rfl rfl
          (by decide) ?_
        refine Shows.other_cons .text rfl rfl (by decide) ?_
        exact Shows.nil
  · refine Shows.markup_cons .text [] rfl (by decide) ?_
    refine Shows.words_cons ?_
    exact Shows.markup rfl (by decide)
  · cases company.heroSubtitle? with
    | none => exact Shows.nil
    | some subtitle =>
        refine Shows.markup_cons .text [] rfl (by decide) ?_
        refine Shows.words_cons ?_
        exact Shows.markup rfl (by decide)
  · exact Shows.markup_cons .text [] rfl (by decide)
      (shows_benefitPieces company)
  · exact Shows.markup rfl (by decide)

set_option maxRecDepth 4000 in
theorem shows_progressPieces
    (totalSteps : Nat) :
    Shows .text (progressPieces totalSteps) .text [] := by
  refine Shows.markup_cons .text []
    (by repeat' first | apply spelled_append | exact rfl)
    (by decide) ?_
  refine Shows.words_cons ?_
  exact Shows.markup
    (by repeat' first | apply spelled_append | exact rfl)
    (by decide)

/- Before the steps there is nothing for the script. -/
theorem shows_headPieces
    (company : Company)
    (totalSteps : Nat) :
    Shows .text (headPieces company totalSteps) .text [] :=
  Shows.append_left .text
    (Shows.append_left .text
      (Shows.append_left .text (shows_titlePieces company)
        (shows_stylePieces _))
      (shows_heroPieces company))
    (shows_progressPieces totalSteps)

end Questionnaire.Document

------------------------------------------------------------
-- The Last Steps
------------------------------------------------------------

namespace Questionnaire.Document

/- A number is written with digits, so no blanks get into it. -/
theorem unbroken_toString
    (n : Nat) :
    Unbroken (toString n) := by
  have hDigits :
      ∀ c ∈ (toString n).toList, c.isDigit = true := by
    intro c hMem
    rw [Nat.toString_eq_repr, Nat.toList_repr] at hMem
    exact Nat.isDigit_of_mem_toDigits (by decide) (by decide) hMem
  constructor
  · intro hMem
    exact absurd (hDigits _ hMem) (by decide)
  · intro hLast
    exact absurd (hDigits _ (List.mem_of_getLast? hLast))
      (by decide)

/- The attributes of the review. -/
def reviewData
    (questions : Nat) : List Attribute :=
  [attributeOf "data-step" (toString (questions + 1))]
    ++ (if 0 < questions then
          [attributeOf "data-action" "back"]
        else
          [])
    ++ [attributeOf "data-action" "confirm-review"]

/- The attributes of the commitment. -/
def commitmentData
    (questions : Nat) : List Attribute := [
  attributeOf "data-step" (toString (questions + 2)),
  attributeOf "data-action" "back",
  attributeOf "data-action" "commit",
  attributeOf "data-answer" "yes",
  attributeOf "data-action" "commit",
  attributeOf "data-answer" "no"]

/- The steps behind the questions carry their numbers. -/
set_option maxRecDepth 4000 in
theorem shows_reviewPieces
    (questions : Nat) :
    Shows .text (reviewPieces questions) .text
      (reviewData questions) := by
  refine Shows.append .text
    (Shows.append .text
      (Shows.append_left
        (atValue "class"
          (if questions == 0 then "step active" else "step"))
        ?_ ?_) ?_) ?_
  · refine Shows.markup_cons (atValue "class" "step") [] rfl
      (by decide) ?_
    cases questions == 0 with
    | false => exact Shows.nil
    | true => exact Shows.markup rfl (by decide)
  · refine Shows.markup_cons (atValue "data-step" "") [] rfl
      ?_ ?_
    · cases questions == 0 <;> decide
    · exact Shows.data_cons .text [] rfl (unbroken_toString _)
        rfl rfl (by decide) Shows.nil
  · by_cases hBack : 0 < questions
    · simp only [hBack, if_true, whenTrue]
      exact Shows.markup
        (spelled_append (spelled_append rfl rfl) rfl)
        (by decide)
    · simp only [hBack, if_false, whenTrue]
      exact Shows.nil
  · exact Shows.markup
      (by repeat' first | apply spelled_append | exact rfl)
      (by decide)

theorem shows_commitmentPieces
    (questions : Nat) :
    Shows .text (commitmentPieces questions) .text
      (commitmentData questions) := by
  refine Shows.markup_cons (atValue "data-step" "") [] rfl
    (by decide) ?_
  exact Shows.data_cons .text [
      attributeOf "data-action" "back",
      attributeOf "data-action" "commit",
      attributeOf "data-answer" "yes",
      attributeOf "data-action" "commit",
      attributeOf "data-answer" "no"]
    rfl (unbroken_toString _)
    (by repeat' first | apply spelled_append | exact rfl)
    (by rfl) (by decide +kernel) Shows.nil

set_option maxRecDepth 4000 in
theorem shows_successPieces :
    Shows .text successPieces .text [] :=
  Shows.markup
    (by repeat' first | apply spelled_append | exact rfl)
    (by decide)

/- After the steps come the review and the commitment. -/
theorem shows_closingPieces
    (questions : Nat) :
    Shows .text (closingPieces questions) .text
      (reviewData questions ++ commitmentData questions) := by
  have hAll :=
    Shows.append .text
      (Shows.append .text (shows_reviewPieces questions)
        (shows_commitmentPieces questions))
      shows_successPieces
  rw [List.append_nil] at hAll
  exact hAll

end Questionnaire.Document

------------------------------------------------------------
-- The Whole Page
------------------------------------------------------------

namespace Questionnaire.Document

/- The attributes of some steps, from a step on. -/
def stepsData : Nat → List Question → List Attribute
  | _, [] => []
  | step, question :: questions =>
      stepData step question ++ stepsData (step + 1) questions

/- The blocks of some steps show the attributes of the steps. -/
theorem reads_stepBlocks
    (index : Nat)
    (last : Nat)
    (questions : List Question) :
    Reads .text
      ((questions.zipIdx index).map
        (fun (question, index) =>
          indented (stepPieces (index + 1) last question))).flatten
      .text (stepsData (index + 1) questions) := by
  induction questions generalizing index with
  | nil => exact Reads.nil
  | cons question questions ih =>
      rw [List.zipIdx_cons, List.map_cons, List.flatten_cons]
      have hStep := writes_stepPieces (index + 1) last question
      exact hStep.reads.append (ih (index + 1))

/- What a page shows its script, up to the end of the form. -/
theorem dataFrom_pageOf
    (form : Form)
    (plan : Plan) :
    ∃ more,
      dataFrom .text (pageOf form plan).toList =
        stepsData 1 form.inOrder
          ++ (reviewData form.inOrder.length
            ++ commitmentData form.inOrder.length)
          ++ more := by
  have hSteps :=
    reads_stepBlocks 0 form.inOrder.length form.inOrder
  have hForm :=
    Reads.append
      (Reads.append
        (shows_headPieces form.company plan.totalSteps) hSteps)
      (shows_closingPieces form.inOrder.length)
  refine ⟨dataFrom .text
    (planMarker.toList
      ++ ((planText plan).toList ++ closingText.toList)), ?_⟩
  unfold pageOf stepBlocks
  rw [String.toList_ofList, List.append_assoc,
    List.append_assoc]
  exact hForm.dataFrom_append _

end Questionnaire.Document
