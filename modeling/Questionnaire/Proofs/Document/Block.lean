import Questionnaire.Document.Step
import Questionnaire.Proofs.Document.Attribute
import Questionnaire.Proofs.Document.Indent

/-
  The attributes that a step writes for the script.

  Key definitions include:
    * `Spot`
    * `Passes`
    * `Writes`
    * `attributeOf`
    * `stepData`

  `Writes` says of some pieces where a reader comes from, where
  it gets to, and what it finds on the way when the pieces are
  indented.  It goes through pieces one after another
  (`Writes.append`), so what a step writes
  (`writes_stepPieces`) is what its parts write.
-/

------------------------------------------------------------
-- Reading Indented Pieces
------------------------------------------------------------

namespace Questionnaire.Document

/- Where a reader stands, and whether a line begins there. -/
structure Spot where
  atStart : Bool
  cursor : Cursor
  deriving DecidableEq, Repr

variable {before middle after : Spot}
variable {pieces others : List Piece}
variable {data more : List Attribute}

/- Some characters, indented, lead from one spot to another. -/
def Passes
    (before : Spot)
    (chars : List Char)
    (after : Spot)
    (data : List Attribute) : Prop :=
  startsLine before.atStart chars = after.atStart
    ∧ Reads before.cursor
      (indentedPiece before.atStart chars) after.cursor data

instance {chars : List Char} :
    Decidable (Passes before chars after data) :=
  inferInstanceAs (Decidable (_ ∧ _))

/-
  Some pieces, indented, lead a reader from one spot to another
  and show it some attributes for the script on the way.
-/
structure Writes
    (before : Spot)
    (pieces : List Piece)
    (after : Spot)
    (data : List Attribute) : Prop where
  line :
    startsLineAfter before.atStart
      (pieces.map Piece.written) = after.atStart
  reads :
    Reads before.cursor
      (indentedFrom before.atStart
        (pieces.map Piece.written)) after.cursor data

theorem Writes.nil :
    Writes before [] before [] :=
  ⟨rfl, Reads.nil⟩

theorem Writes.append
    (middle : Spot)
    (hPieces : Writes before pieces middle data)
    (hOthers : Writes middle others after more) :
    Writes before (pieces ++ others) after (data ++ more) := by
  constructor
  · rw [List.map_append]
    unfold startsLineAfter
    rw [List.foldl_append]
    exact (congrArg
      (fun atStart => List.foldl startsLine atStart _)
      hPieces.line).trans hOthers.line
  · rw [List.map_append, indentedFrom_append, hPieces.line]
    exact hPieces.reads.append hOthers.reads

/- Nothing is found in the first of two parts. -/
theorem Writes.append_left
    (middle : Spot)
    (hPieces : Writes before pieces middle [])
    (hOthers : Writes middle others after more) :
    Writes before (pieces ++ others) after more :=
  Writes.append middle hPieces hOthers

/- Nothing is found in the second of two parts. -/
theorem Writes.append_right
    (middle : Spot)
    (hPieces : Writes before pieces middle data)
    (hOthers : Writes middle others after []) :
    Writes before (pieces ++ others) after data := by
  have hAll := Writes.append middle hPieces hOthers
  rw [List.append_nil] at hAll
  exact hAll

/- Markup by itself is read as it is spelled. -/
theorem Writes.markup
    {text : String}
    {chars : List Char}
    (hText : text = String.ofList chars)
    (hPasses : Passes before chars after data) :
    Writes before [.markup text] after data := by
  rcases hPasses with ⟨hLine, hReads⟩
  have hChars : Piece.written (.markup text) = chars := by
    rw [hText, Piece.written, String.toList_ofList]
  constructor
  · rw [List.map_singleton, hChars]
    exact hLine
  · rw [List.map_singleton, hChars, indentedFrom_singleton]
    exact hReads

/- Markup comes first. -/
theorem Writes.markup_cons
    {text : String}
    {chars : List Char}
    (middle : Spot)
    (data : List Attribute)
    (hText : text = String.ofList chars)
    (hPasses : Passes before chars middle data)
    (hOthers : Writes middle others after more) :
    Writes before (.markup text :: others) after (data ++ more) :=
  Writes.append middle (Writes.markup hText hPasses) hOthers

/- What every part writes from a spot to itself, all write. -/
theorem Writes.flatMap
    {α : Type}
    {parts : List α}
    {piecesOf : α → List Piece}
    {dataOf : α → List Attribute}
    (hParts :
      ∀ part, Writes before (piecesOf part) before (dataOf part)) :
    Writes before (parts.flatMap piecesOf) before
      (parts.flatMap dataOf) := by
  induction parts with
  | nil => exact Writes.nil
  | cons part parts ih =>
      exact Writes.append before (hParts part) ih

end Questionnaire.Document

------------------------------------------------------------
-- Spelled Text
------------------------------------------------------------

namespace Questionnaire.Document

/- Texts that are spelled one after another. -/
theorem spelled_append
    {text other : String}
    {chars more : List Char}
    (hText : text = String.ofList chars)
    (hOther : other = String.ofList more) :
    text ++ other = String.ofList (chars ++ more) := by
  rw [hText, hOther, String.ofList_append]

end Questionnaire.Document

------------------------------------------------------------
-- Reading Shown Text
------------------------------------------------------------

namespace Questionnaire.Document

variable {middle after : Spot}
variable {text : String}
variable {pieces : List Piece}
variable {data more : List Attribute}

/- The blanks before a piece that begins with no break. -/
theorem indentBefore_of_head
    {atStart : Bool}
    {first : Char}
    {rest : List Char}
    (hFirst : endsLine first = false) :
    indentBefore atStart (first :: rest) =
      if atStart then indent else [] := by
  simp [indentBefore, hFirst]

/- A piece keeps its first character, unless a break. -/
theorem indentLines_of_head
    {first : Char}
    {rest : List Char}
    (hFirst : endsLine first = false) :
    indentLines (first :: rest) = first :: indentLines rest := by
  apply indentLines_cons
  intro hEq
  rw [hEq] at hFirst
  exact absurd hFirst (by decide)

/- Nothing that is read after a tag depends on the value. -/
theorem Reads.of_value
    {cursor : Cursor}
    {rest : List Char}
    (hReads : Reads (.value [] []) ('"' :: rest) cursor data) :
    Reads (.tag []) rest cursor data :=
  ⟨hReads.arrives, hReads.finds⟩

/- Shown text and the markup after it, which begins no line. -/
theorem indentedFrom_shown
    {atStart : Bool}
    {value : String}
    {first : Char}
    {rest : List Char}
    (hText : text = String.ofList (first :: rest))
    (hFirst : endsLine first = false) :
    indentedFrom atStart
        ([.shown value, .markup text].map Piece.written) =
      indentedPiece atStart (value.toList.flatMap escapedChar)
        ++ ((if startsLine atStart
              (value.toList.flatMap escapedChar) then indent
            else [])
          ++ first :: indentLines rest) := by
  simp only [List.map_cons, List.map_nil, Piece.written, hText,
    String.toList_ofList]
  rw [indentedFrom_cons, indentedFrom_singleton]
  rw [indentedPiece.eq_def _ (first :: rest),
    indentBefore_of_head hFirst, indentLines_of_head hFirst]

/- After shown text and markup, the markup decides. -/
theorem startsLineAfter_shown
    {atStart : Bool}
    {value : String}
    {first : Char}
    {rest : List Char}
    (hText : text = String.ofList (first :: rest)) :
    startsLineAfter atStart
        ([.shown value, .markup text].map Piece.written) =
      startsLine false (first :: rest) := by
  simp only [List.map_cons, List.map_nil, Piece.written,
    startsLineAfter, List.foldl_cons, List.foldl_nil, hText,
    String.toList_ofList, startsLine, List.getLast?_cons]

/- Markup that begins no line is indented within itself only. -/
theorem Passes.reads
    {cursor : Cursor}
    {first : Char}
    {rest : List Char}
    (hPasses : Passes ⟨false, cursor⟩ (first :: rest) middle data)
    (hFirst : endsLine first = false) :
    Reads cursor (first :: indentLines rest)
      middle.cursor data := by
  have hReads := hPasses.2
  rw [indentedPiece, indentBefore_of_head hFirst,
    indentLines_of_head hFirst] at hReads
  exact hReads

/-
  The value of an attribute is shown and the markup after it
  ends the attribute.  The blanks that come before this markup
  are the last of the value.
-/
theorem Writes.value
    (name written : List Char)
    (value : String)
    {rest : List Char}
    (hText : text = String.ofList ('"' :: rest))
    (hPasses :
      Passes ⟨false, .value [] []⟩ ('"' :: rest) middle data) :
    Writes ⟨false, .value name written⟩
      [.shown value, .markup text] middle
      (closing name
          (written ++ (broken value.toList).flatMap escapedChar)
        ++ data) := by
  have hLine : endsLine '"' = false := by decide
  have hTail :
      Reads (.tag []) (indentLines rest) middle.cursor data :=
    (hPasses.reads hLine).of_value
  have hValue :
      indentedFrom false
          ([.shown value, .markup text].map Piece.written) =
        (broken value.toList).flatMap escapedChar
          ++ (['"'] ++ indentLines rest) := by
    have hBefore :
        indentedPiece false (value.toList.flatMap escapedChar) =
          indentLines (value.toList.flatMap escapedChar) := by
      cases value.toList.flatMap escapedChar with
      | nil => rfl
      | cons first others => rfl
    rw [indentedFrom_shown hText hLine, hBefore,
      ← broken_escaped, ← indentLines_append_indent,
      List.append_assoc]
    rfl
  constructor
  · rw [startsLineAfter_shown hText]
    exact hPasses.1
  · rw [hValue]
    exact (reads_value (quote_not_mem_escaped _)).append
      ((reads_quote name _).append hTail)

/- Indenting a text adds no character but blanks. -/
theorem mem_of_mem_indentLines
    {c : Char}
    {line : List Char}
    (hMem : c ∈ indentLines line) :
    c ∈ line ∨ c = ' ' := by
  have hAll : c ∈ line.flatMap brokenChar := by
    rw [← indentLines_append]
    exact List.mem_append_left _ hMem
  rcases List.mem_flatMap.mp hAll with ⟨other, hOther, hChar⟩
  unfold brokenChar at hChar
  split at hChar
  · rcases List.mem_cons.mp hChar with hEq | hBlank
    · exact .inl (hEq ▸ hOther)
    · exact .inr (by simpa [indent] using hBlank)
  · exact .inl (List.mem_singleton.mp hChar ▸ hOther)

/- Text is shown between tags, and markup comes after it. -/
theorem Writes.words
    {first : Char}
    {rest : List Char}
    {atStart : Bool}
    {words : String}
    (hText : text = String.ofList (first :: rest))
    (hFirst : endsLine first = false)
    (hPasses : Passes ⟨false, .text⟩ (first :: rest) middle data) :
    Writes ⟨atStart, .text⟩
      [.shown words, .markup text] middle data := by
  have hIndent : ∀ condition : Bool,
      Reads .text (if condition then indent else [])
        .text [] := by
    intro condition
    cases condition <;> decide
  have hWords :
      Reads .text
        (indentedPiece atStart (words.toList.flatMap escapedChar))
        .text [] := by
    apply reads_text
    intro hMem
    rcases List.mem_append.mp hMem with hBefore | hLines
    · exact absurd (eq_of_mem_indentBefore hBefore) (by decide)
    · rcases mem_of_mem_indentLines hLines with hChar | hBlank
      · exact less_not_mem_escaped _ hChar
      · exact absurd hBlank (by decide)
  constructor
  · rw [startsLineAfter_shown hText]
    exact hPasses.1
  · rw [indentedFrom_shown hText hFirst]
    exact hWords.append
      ((hIndent _).append (hPasses.reads hFirst))

end Questionnaire.Document

------------------------------------------------------------
-- Attributes of a Step
------------------------------------------------------------

namespace Questionnaire.Document

/- An attribute as a step writes it. -/
def attributeOf
    (name : String)
    (value : String) : Attribute :=
  ⟨name, (broken value.toList).flatMap escapedChar⟩

/- The attributes of an option. -/
def optionData
    (choice : Choice) : List Attribute := [
  attributeOf "data-action" "select",
  attributeOf "data-value" choice.value]

/- The attributes of the control of a question. -/
def controlData
    (question : Question) : List Attribute :=
  if question.kind.isChoice then
    question.options.flatMap optionData
  else [
    attributeOf "data-field" question.id,
    attributeOf "data-action" "continue"]

/- The attributes of a step. -/
def stepData
    (step : Nat)
    (question : Question) : List Attribute :=
  [ attributeOf "data-step" (toString step),
    attributeOf "data-qid" question.id,
    attributeOf "data-kind" question.kind.name ]
    ++ (if 1 < step then
          [attributeOf "data-action" "back"]
        else
          [])
    ++ controlData question

/- Text, at the beginning of a line and elsewhere. -/
def lineStart : Spot :=
  ⟨true, .text⟩

def inText : Spot :=
  ⟨false, .text⟩

/- A tag, after some of a name. -/
def inTag
    (name : String) : Spot :=
  ⟨false, .tag name.toList⟩

/- The value of an attribute, after some of it. -/
def inValue
    (name : String)
    (written : String) : Spot :=
  ⟨false, .value name.toList written.toList⟩

variable {middle after : Spot}
variable {text : String}
variable {pieces : List Piece}
variable {data more : List Attribute}

/- An attribute that is for the script, and what comes after. -/
theorem Writes.data_cons
    {name value : String}
    {rest : List Char}
    (middle : Spot)
    (hName : isDataName name = true)
    (hText : text = String.ofList ('"' :: rest))
    (hPasses : Passes (inValue "" "") ('"' :: rest) middle [])
    (hOthers : Writes middle pieces after more) :
    Writes (inValue name "")
      (.shown value :: .markup text :: pieces) after
      (attributeOf name value :: more) := by
  have hValue :=
    Writes.value name.toList [] value hText hPasses
  rw [closing_of_data hName] at hValue
  exact Writes.append middle hValue hOthers

/- An attribute that is not, and what comes after. -/
theorem Writes.other_cons
    {name written value : String}
    {rest : List Char}
    (middle : Spot)
    (hName : isDataName name = false)
    (hText : text = String.ofList ('"' :: rest))
    (hPasses : Passes (inValue "" "") ('"' :: rest) middle [])
    (hOthers : Writes middle pieces after more) :
    Writes (inValue name written)
      (.shown value :: .markup text :: pieces) after more := by
  have hValue :=
    Writes.value name.toList written.toList value hText hPasses
  rw [closing_of_other hName] at hValue
  exact Writes.append middle hValue hOthers

/- Words between tags, and what comes after. -/
theorem Writes.words_cons
    {atStart : Bool}
    {words : String}
    {first : Char}
    {rest : List Char}
    (middle : Spot)
    (data : List Attribute)
    (hText : text = String.ofList (first :: rest))
    (hFirst : endsLine first = false)
    (hPasses : Passes inText (first :: rest) middle data)
    (hOthers : Writes middle pieces after more) :
    Writes ⟨atStart, .text⟩
      (.shown words :: .markup text :: pieces) after
      (data ++ more) :=
  Writes.append middle (Writes.words hText hFirst hPasses) hOthers

end Questionnaire.Document

------------------------------------------------------------
-- What the Parts of a Step Write
------------------------------------------------------------

namespace Questionnaire.Document

/- An option begins and ends at the beginning of a line. -/
theorem writes_optionPieces
    (questionId : String)
    (choice : Choice) :
    Writes lineStart (optionPieces questionId choice) lineStart
      (optionData choice) := by
  refine Writes.markup_cons (inValue "data-value" "")
    [attributeOf "data-action" "select"] rfl (by decide) ?_
  refine Writes.data_cons (inValue "name" "q-") rfl rfl
    (by decide) ?_
  refine Writes.other_cons (inValue "value" "") rfl rfl
    (by decide) ?_
  refine Writes.other_cons inText rfl rfl (by decide) ?_
  refine Writes.words_cons lineStart [] rfl rfl (by decide) ?_
  exact Writes.nil

/- The options are written one after another. -/
theorem writes_choicePieces
    (question : Question)
    (layout : String)
    (choices : List Choice) :
    Writes lineStart (choicePieces question layout choices)
      lineStart (choices.flatMap optionData) := by
  refine Writes.append_right lineStart
    (Writes.append_left lineStart ?_ ?_)
    (Writes.markup rfl (by decide))
  · refine Writes.markup_cons
      (inValue "class" "radio-group radio-group--") [] rfl
      (by decide) ?_
    refine Writes.other_cons (inValue "id" "group-") rfl rfl
      (by decide) ?_
    refine Writes.other_cons lineStart rfl rfl (by decide) ?_
    exact Writes.nil
  · cases choices with
    | nil =>
        have hNone :
            Writes lineStart noOptionPieces lineStart [] :=
          Writes.markup rfl (by decide)
        exact hNone
    | cons choice others =>
        exact Writes.flatMap (writes_optionPieces question.id)

/- The field for one line of text. -/
theorem writes_linePieces
    (question : Question)
    (inputType : String)
    (maxLength : Option Nat) :
    Writes lineStart (linePieces question inputType maxLength)
      lineStart [attributeOf "data-field" question.id] := by
  refine Writes.append_right (inTag "")
    (Writes.append_right (inTag "") ?_ ?_)
    (Writes.markup rfl (by decide))
  · refine Writes.markup_cons (inValue "type" "") [] rfl
      (by decide) ?_
    refine Writes.other_cons (inValue "id" "inp-") rfl rfl
      (by decide) ?_
    refine Writes.other_cons (inValue "data-field" "") rfl rfl
      (by decide) ?_
    refine Writes.data_cons (inValue "placeholder" "") rfl rfl
      (by decide) ?_
    refine Writes.other_cons (inTag "") rfl rfl (by decide) ?_
    exact Writes.nil
  · cases maxLength with
    | none => exact Writes.nil
    | some n =>
        refine Writes.markup_cons (inValue "maxlength" "") [] rfl
          (by decide) ?_
        refine Writes.other_cons (inTag "") rfl rfl (by decide) ?_
        exact Writes.nil

/- The field for several lines of text. -/
theorem writes_textAreaPieces
    (question : Question) :
    Writes lineStart (textAreaPieces question) lineStart
      [attributeOf "data-field" question.id] := by
  refine Writes.markup_cons (inValue "id" "inp-") [] rfl
    (by decide) ?_
  refine Writes.other_cons (inValue "data-field" "") rfl rfl
    (by decide) ?_
  refine Writes.data_cons (inValue "placeholder" "") rfl rfl
    (by decide) ?_
  refine Writes.other_cons lineStart rfl rfl (by decide) ?_
  exact Writes.nil

/- A field with what belongs to it. -/
theorem writes_fieldPieces
    {question : Question}
    {field : List Piece}
    {data : List Attribute}
    (message : String)
    (goOn : String)
    (hField : Writes lineStart field lineStart data) :
    Writes lineStart (fieldPieces question field message goOn)
      lineStart
      (data ++ [attributeOf "data-action" "continue"]) := by
  -- The tag of the button is still open where it may be disabled.
  refine Writes.append_right
    (inTag (if question.required then "disabled" else ""))
    (Writes.append_right (inTag "")
      (Writes.append lineStart
        (Writes.append_left lineStart ?_ hField) ?_) ?_) ?_
  · refine Writes.markup_cons (inValue "for" "inp-") [] rfl
      (by decide) ?_
    refine Writes.other_cons inText rfl rfl (by decide) ?_
    refine Writes.words_cons lineStart [] rfl rfl (by decide) ?_
    exact Writes.nil
  · refine Writes.markup_cons (inValue "id" "err-") [] rfl
      (by decide) ?_
    refine Writes.other_cons inText rfl rfl (by decide) ?_
    refine Writes.words_cons (inTag "")
      [attributeOf "data-action" "continue"]
      (spelled_append rfl rfl) rfl (by decide) ?_
    exact Writes.nil
  · cases question.required with
    | false => exact Writes.nil
    | true => exact Writes.markup rfl (by decide)
  · refine Writes.markup_cons inText [] rfl ?_ ?_
    · cases question.required <;> decide
    · refine Writes.words_cons lineStart [] rfl rfl (by decide) ?_
      exact Writes.nil

/- The control of a question. -/
theorem writes_controlPieces
    (question : Question)
    (goOn : String) :
    Writes lineStart (controlPieces question goOn) lineStart
      (controlData question) := by
  unfold controlPieces controlData Control.ofQuestion
  cases question.kind with
  | shortText | email | phone =>
      exact writes_fieldPieces _ goOn (writes_linePieces ..)
  | longText =>
      exact writes_fieldPieces _ goOn (writes_textAreaPieces _)
  | choiceList | choiceCards => exact writes_choicePieces ..

/- A step writes its number, its question and its control. -/
set_option maxRecDepth 4000 in
theorem writes_stepPieces
    (step : Nat)
    (last : Nat)
    (question : Question) :
    Writes lineStart (stepPieces step last question) lineStart
      (stepData step question) := by
  -- From the inside: the class, the number and the question,
  -- the way back, the title, the hint, the control, the end.
  refine Writes.append_right lineStart
    (Writes.append inText
      (Writes.append_right inText
        (Writes.append_right inText
          (Writes.append inText
            (Writes.append_left
              (inValue "class"
                (if step == 1 then "step active" else "step"))
              ?_ ?_) ?_) ?_) ?_) ?_)
    (Writes.markup rfl (by decide))
  · refine Writes.markup_cons (inValue "class" "step") [] rfl
      (by decide) ?_
    cases step == 1 with
    | false => exact Writes.nil
    | true => exact Writes.markup rfl (by decide)
  · refine Writes.markup_cons (inValue "data-step" "") [] rfl ?_ ?_
    · cases step == 1 <;> decide
    · refine Writes.data_cons (inValue "data-qid" "") rfl rfl
        (by decide) ?_
      refine Writes.data_cons (inValue "data-kind" "") rfl rfl
        (by decide) ?_
      refine Writes.data_cons inText rfl rfl (by decide) ?_
      exact Writes.nil
  · by_cases hBack : 1 < step
    · simp only [hBack, if_true, whenTrue]
      exact Writes.markup
        (spelled_append (spelled_append rfl rfl) rfl)
        (by decide)
    · simp only [hBack, if_false, whenTrue]
      exact Writes.nil
  · refine Writes.markup_cons inText []
      (spelled_append
        (spelled_append rfl
          (spelled_append
            (spelled_append (spelled_append rfl rfl) rfl) rfl))
        rfl) (by decide) ?_
    refine Writes.words_cons inText [] rfl rfl (by decide) ?_
    exact Writes.nil
  · cases question.hint? with
    | none => exact Writes.nil
    | some hint =>
        refine Writes.markup_cons inText [] rfl (by decide) ?_
        refine Writes.words_cons inText [] rfl rfl (by decide) ?_
        exact Writes.nil
  · exact Writes.markup_cons lineStart [] rfl (by decide)
      (writes_controlPieces question _)

end Questionnaire.Document
