import Mathlib.Data.String.Basic
import Questionnaire.Proofs.Document.Carried

/-
  The markup of a page depends on the shape of its form only.

  Key definitions include:
    * `marks`
    * `Alike`
    * `Form.shape`
    * `style?`
    * `PageParts.Guarded`

  Two lists of pieces are `Alike` if they have the same markup
  at the same places, whatever is shown between.  Forms of one
  shape have pages with alike pieces, so no text of a form can
  become markup (`markup_of_shape`).
-/

------------------------------------------------------------
-- Marks
------------------------------------------------------------

namespace Questionnaire.Document

/- Whether a character marks a tag or the end of a value. -/
def isMark
    (c : Char) : Bool :=
  c == '<' || c == '>' || c == '"'

/- The marks of a text, in their order. -/
def marks
    (text : List Char) : List Char :=
  text.filter isMark

theorem marks_append
    (text rest : List Char) :
    marks (text ++ rest) = marks text ++ marks rest :=
  List.filter_append text rest

/- A text without any of the marks adds none. -/
theorem marks_eq_nil
    {text : List Char}
    (hText : ∀ c ∈ text, isMark c = false) :
    marks text = [] := by
  refine List.filter_eq_nil_iff.mpr ?_
  intro c hMem
  rw [hText c hMem]
  exact Bool.false_ne_true

/- There are no marks in shown text. -/
theorem marks_escaped
    (text : List Char) :
    marks (text.flatMap escapedChar) = [] := by
  apply marks_eq_nil
  intro c hMem
  rcases List.mem_flatMap.mp hMem with ⟨d, _, hChar⟩
  cases hMark : isMark c with
  | false => rfl
  | true =>
      have hSpecial : c ∈ ['<', '>', '"'] := by
        simpa [isMark, or_assoc] using hMark
      exact absurd hChar (not_special_escaped d c hSpecial)

/- Indentation adds no marks. -/
theorem marks_indentLines
    (text : List Char) :
    marks (indentLines text) = marks text := by
  induction text with
  | nil => rfl
  | cons c text ih =>
      by_cases hChar : c = '\n'
      · cases text with
        | nil => rfl
        | cons d text =>
            rw [hChar, indentLines_break, marks_append, ih]
            rfl
      · rw [indentLines_cons hChar]
        unfold marks at ih ⊢
        rw [List.filter_cons, List.filter_cons, ih]

/- Indentation only adds blanks. -/
theorem marks_indented
    (pieces : List Piece) :
    marks (indented pieces) = marks (written pieces) := by
  have hFrom (atStart : Bool) :
      marks (indentedFrom atStart (pieces.map Piece.written)) =
        marks (written pieces) := by
    induction pieces generalizing atStart with
    | nil => rfl
    | cons piece pieces ih =>
        have hBefore :
            marks (indentBefore atStart piece.written) = [] := by
          apply marks_eq_nil
          intro c hMem
          rw [eq_of_mem_indentBefore hMem]
          rfl
        rw [List.map_cons, indentedFrom_cons, indentedPiece,
          written, List.flatMap_cons, marks_append, marks_append,
          marks_append, hBefore, marks_indentLines, ih]
        rfl
  exact hFrom true

end Questionnaire.Document

------------------------------------------------------------
-- Alike Pieces
------------------------------------------------------------

namespace Questionnaire.Document

/- The same markup at the same places, with any texts between. -/
inductive Alike : List Piece → List Piece → Prop where
  | nil : Alike [] []
  | markup
      {pieces others : List Piece}
      (text : String)
      (hOthers : Alike pieces others) :
      Alike (.markup text :: pieces) (.markup text :: others)
  | shown
      {pieces others : List Piece}
      (words other : String)
      (hOthers : Alike pieces others) :
      Alike (.shown words :: pieces) (.shown other :: others)

namespace Alike

variable {pieces others more rest : List Piece}

theorem refl
    (pieces : List Piece) :
    Alike pieces pieces := by
  induction pieces with
  | nil => exact .nil
  | cons piece pieces ih =>
      cases piece with
      | markup text => exact .markup text ih
      | shown words => exact .shown words words ih

theorem append
    (hPieces : Alike pieces others)
    (hMore : Alike more rest) :
    Alike (pieces ++ more) (others ++ rest) := by
  induction hPieces with
  | nil => exact hMore
  | markup text _ ih => exact .markup text ih
  | shown words other _ ih => exact .shown words other ih

/- Lists of one length are written alike if each item is. -/
theorem flatMap
    {α : Type}
    {parts items : List α}
    {piecesOf itemsOf : α → List Piece}
    (hLength : parts.length = items.length)
    (hParts : ∀ part item, Alike (piecesOf part) (itemsOf item)) :
    Alike (parts.flatMap piecesOf) (items.flatMap itemsOf) := by
  induction parts generalizing items with
  | nil =>
      cases items with
      | nil => exact .nil
      | cons item items => cases hLength
  | cons part parts ih =>
      cases items with
      | nil => cases hLength
      | cons item items =>
          exact (hParts part item).append
            (ih (Nat.succ.inj hLength))

/- Alike pieces are written with the same marks. -/
theorem marks_written
    (hPieces : Alike pieces others) :
    marks (written pieces) = marks (written others) := by
  induction hPieces with
  | nil => rfl
  | markup text _ ih =>
      unfold written at ih ⊢
      rw [List.flatMap_cons, List.flatMap_cons, marks_append,
        marks_append, ih]
  | shown words other _ ih =>
      unfold written at ih ⊢
      rw [List.flatMap_cons, List.flatMap_cons, marks_append,
        marks_append, ih, Piece.written, Piece.written,
        marks_escaped, marks_escaped]

end Alike

end Questionnaire.Document

------------------------------------------------------------
-- The Frame of the Style Sheet
------------------------------------------------------------

namespace Questionnaire.Document

/- A rule as fixed texts and the places of colours. -/
def StyleRule.parts
    (rule : StyleRule) : List StylePart :=
  .text (rule.selector ++ "\x7b") :: rule.body ++ [.text "\x7d\n"]

/- A block as fixed texts and the places of colours. -/
def StyleBlock.parts : StyleBlock → List StylePart
  | .rule one => one.parts
  | .group heading rules =>
      .text (heading ++ "\x7b\n") :: rules.flatMap (·.parts)
        ++ [.text "\x7d\n"]

/- The style sheet as fixed texts and the places of colours. -/
def sheetParts : List StylePart :=
  styleSheet.flatMap (·.parts)

/- The parts of a rule are its pieces, less the colours. -/
theorem StyleRule.map_parts
    (colors : Colors)
    (rule : StyleRule) :
    rule.parts.map (·.piece colors) = rule.pieces colors := by
  unfold StyleRule.parts StyleRule.pieces
  rw [List.map_append, List.map_cons]
  rfl

theorem StyleBlock.map_parts
    (colors : Colors)
    (block : StyleBlock) :
    block.parts.map (·.piece colors) = block.pieces colors := by
  cases block with
  | rule one => exact one.map_parts colors
  | group heading rules =>
      simp only [StyleBlock.parts, StyleBlock.pieces,
        List.map_append, List.map_cons, List.map_flatMap,
        StyleRule.map_parts]
      rfl

/- Each page fills in its colours. -/
theorem stylePieces_eq
    (colors : Colors) :
    stylePieces colors =
      .markup "<style>\n" :: sheetParts.map (·.piece colors)
        ++ [.markup "</style>\n"] := by
  simp only [stylePieces, sheetParts, List.map_flatMap,
    StyleBlock.map_parts]

/- The parts of a style sheet are alike for all colours. -/
theorem alike_stylePieces
    (colors others : Colors) :
    Alike (stylePieces colors) (stylePieces others) := by
  have hParts (parts : List StylePart) :
      Alike (parts.map (·.piece colors))
        (parts.map (·.piece others)) := by
    induction parts with
    | nil => exact .nil
    | cons part parts ih =>
        cases part with
        | text fixed => exact .markup fixed ih
        | color field => exact .shown _ _ ih
  rw [stylePieces_eq, stylePieces_eq]
  exact .append (.markup _ (hParts sheetParts)) (.refl _)

end Questionnaire.Document

------------------------------------------------------------
-- The Shape of a Form
------------------------------------------------------------

namespace Questionnaire

/- What of a question decides on its markup. -/
structure QuestionShape where
  kind : Kind
  required : Bool
  hasHint : Bool
  options : Nat
  deriving DecidableEq

/- What of a form decides on its markup. -/
structure Shape where
  questions : List QuestionShape
  hasLogo : Bool
  hasSubtitle : Bool
  benefits : Nat
  deriving DecidableEq

/- The shape of a question. -/
def Question.shape
    (question : Question) : QuestionShape :=
  { kind := question.kind
    required := question.required
    hasHint := question.hint?.isSome
    options := question.options.length }

/- The shape of a form, with its questions as they are asked. -/
def Form.shape
    (form : Form) : Shape :=
  { questions := form.inOrder.map Question.shape
    hasLogo := form.company.logo?.isSome
    hasSubtitle := form.company.heroSubtitle?.isSome
    benefits := form.company.benefits.length }

end Questionnaire

------------------------------------------------------------
-- The Head of Pages of One Shape
------------------------------------------------------------

namespace Questionnaire.Document

variable {company other : Company}

theorem alike_titlePieces
    (company other : Company) :
    Alike (titlePieces company) (titlePieces other) :=
  .markup _ (.shown _ _ (.markup _ (.shown _ _
    (.markup _ (.shown _ _ (.markup _ .nil))))))

/- The lists of equally many benefits are alike. -/
theorem alike_benefitPieces
    (hBenefits : company.benefits.length = other.benefits.length) :
    Alike (benefitPieces company) (benefitPieces other) := by
  unfold benefitPieces
  cases hCompany : company.benefits with
  | nil =>
      cases hOther : other.benefits with
      | nil => exact .nil
      | cons benefit benefits =>
          rw [hCompany, hOther] at hBenefits
          cases hBenefits
  | cons benefit benefits =>
      cases hOther : other.benefits with
      | nil =>
          rw [hCompany, hOther] at hBenefits
          cases hBenefits
      | cons first rest =>
          rw [hCompany, hOther] at hBenefits
          refine .append (.markup _ ?_) (.refl _)
          refine .flatMap hBenefits ?_
          intro line words
          exact .markup _ (.shown _ _ (.markup _ .nil))

/- Of two texts, both are there or none is. -/
theorem both_or_none
    {text words : Option String}
    (hText : text.isSome = words.isSome) :
    (text = none ∧ words = none) ∨
      ∃ here there, text = some here ∧ words = some there := by
  cases text with
  | none =>
      cases words with
      | none => exact .inl ⟨rfl, rfl⟩
      | some there => cases hText
  | some here =>
      cases words with
      | none => cases hText
      | some there => exact .inr ⟨here, there, rfl, rfl⟩

/- The shape says what is missing from the head of a page. -/
theorem alike_heroPieces
    (hLogo : company.logo?.isSome = other.logo?.isSome)
    (hSubtitle :
      company.heroSubtitle?.isSome = other.heroSubtitle?.isSome)
    (hBenefits : company.benefits.length = other.benefits.length) :
    Alike (heroPieces company) (heroPieces other) := by
  refine .append
    (.append (.append (.append (.markup _ ?_) ?_) ?_) ?_) (.refl _)
  · rcases both_or_none hLogo with
      ⟨hHere, hThere⟩ | ⟨logo, image, hHere, hThere⟩
    · rw [hHere, hThere]
      exact .nil
    · rw [hHere, hThere]
      exact .markup _ (.shown _ _ (.markup _ (.shown _ _
        (.markup _ .nil))))
  · exact .markup _ (.shown _ _ (.markup _ .nil))
  · rcases both_or_none hSubtitle with
      ⟨hHere, hThere⟩ | ⟨subtitle, line, hHere, hThere⟩
    · rw [hHere, hThere]
      exact .nil
    · rw [hHere, hThere]
      exact .markup _ (.shown _ _ (.markup _ .nil))
  · exact .markup _ (alike_benefitPieces hBenefits)

theorem alike_progressPieces
    (totalSteps steps : Nat) :
    Alike (progressPieces totalSteps) (progressPieces steps) :=
  .markup _ (.shown _ _ (.markup _ .nil))

end Questionnaire.Document

------------------------------------------------------------
-- The Steps of Pages of One Shape
------------------------------------------------------------

namespace Questionnaire.Document

variable {question other : Question}

/- As many options give as many cards. -/
theorem alike_choicePieces
    {choices others : List Choice}
    (hLength : choices.length = others.length)
    (layout : String) :
    Alike (choicePieces question layout choices)
      (choicePieces other layout others) := by
  refine .append (.append ?_ ?_) (.refl _)
  · exact .markup _ (.shown _ _ (.markup _ (.shown _ _
      (.markup _ .nil))))
  · cases choices with
    | nil =>
        cases others with
        | nil => exact .refl _
        | cons choice others => cases hLength
    | cons choice choices =>
        cases others with
        | nil => cases hLength
        | cons first others =>
            refine .flatMap hLength ?_
            intro option item
            exact .markup _ (.shown _ _ (.markup _ (.shown _ _
              (.markup _ (.shown _ _ (.markup _ (.shown _ _
                (.markup _ .nil))))))))

theorem alike_linePieces
    (inputType : String)
    (maxLength : Option Nat) :
    Alike (linePieces question inputType maxLength)
      (linePieces other inputType maxLength) := by
  refine .append (.append ?_ (.refl _)) (.refl _)
  exact .markup _ (.shown _ _ (.markup _ (.shown _ _
    (.markup _ (.shown _ _ (.markup _ (.shown _ _
      (.markup _ .nil))))))))

theorem alike_textAreaPieces :
    Alike (textAreaPieces question) (textAreaPieces other) :=
  .markup _ (.shown _ _ (.markup _ (.shown _ _
    (.markup _ (.shown _ _ (.markup _ .nil))))))

theorem alike_fieldPieces
    {field fields : List Piece}
    (hField : Alike field fields)
    (hRequired : question.required = other.required)
    (message goOn onward : String) :
    Alike (fieldPieces question field message goOn)
      (fieldPieces other fields message onward) := by
  unfold fieldPieces
  rw [hRequired]
  refine .append (.append (.append (.append ?_ hField) ?_)
    (.refl _)) ?_
  · exact .markup _ (.shown _ _ (.markup _ (.shown _ _
      (.markup _ .nil))))
  · exact .markup _ (.shown _ _ (.markup _ (.shown _ _
      (.markup _ .nil))))
  · exact .markup _ (.shown _ _ (.markup _ .nil))

/- The shape says which control a question has. -/
theorem alike_controlPieces
    (hShape : question.shape = other.shape)
    (goOn onward : String) :
    Alike (controlPieces question goOn)
      (controlPieces other onward) := by
  simp only [Question.shape, QuestionShape.mk.injEq] at hShape
  rcases hShape with ⟨hKind, hRequired, _, hOptions⟩
  unfold controlPieces Control.ofQuestion
  rw [hKind]
  cases other.kind with
  | longText =>
      exact alike_fieldPieces alike_textAreaPieces hRequired _ _ _
  | choiceList => exact alike_choicePieces hOptions _
  | choiceCards => exact alike_choicePieces hOptions _
  | _ =>
      exact
        alike_fieldPieces (alike_linePieces _ _) hRequired _ _ _

/- Steps that ask questions of one shape are alike. -/
theorem alike_stepPieces
    (hShape : question.shape = other.shape)
    (step last : Nat) :
    Alike (stepPieces step last question)
      (stepPieces step last other) := by
  have hControl := alike_controlPieces hShape
    (if step == last then "Revisar" else "Continuar")
    (if step == last then "Revisar" else "Continuar")
  have hHint : question.hint?.isSome = other.hint?.isSome :=
    congrArg QuestionShape.hasHint hShape
  refine .append
    (.append
      (.append
        (.append (.append (.append (.refl _) ?_) (.refl _)) ?_)
        ?_)
      (.markup _ hControl))
    (.refl _)
  · exact .markup _ (.shown _ _ (.markup _ (.shown _ _
      (.markup _ (.shown _ _ (.markup _ .nil))))))
  · exact .markup _ (.shown _ _ (.markup _ .nil))
  · rcases both_or_none hHint with
      ⟨hHere, hThere⟩ | ⟨hint, line, hHere, hThere⟩
    · rw [hHere, hThere]
      exact .nil
    · rw [hHere, hThere]
      exact .markup _ (.shown _ _ (.markup _ .nil))

end Questionnaire.Document

------------------------------------------------------------
-- Before the Plan of Pages of One Shape
------------------------------------------------------------

namespace Questionnaire.Document

/- Questions of one shape, one by one, have the same marks. -/
theorem marks_stepBlocks
    {questions others : List Question}
    (hShapes :
      questions.map Question.shape = others.map Question.shape) :
    marks (stepBlocks questions).flatten =
      marks (stepBlocks others).flatten := by
  have hLength : questions.length = others.length := by
    have hLengths := congrArg List.length hShapes
    rw [List.length_map, List.length_map] at hLengths
    exact hLengths
  have hFrom (last index : Nat) :
      marks ((questions.zipIdx index).map (fun asked =>
          indented
            (stepPieces (asked.2 + 1) last asked.1))).flatten =
        marks ((others.zipIdx index).map (fun asked =>
          indented
            (stepPieces (asked.2 + 1) last asked.1))).flatten := by
    clear hLength
    induction questions generalizing others index with
    | nil =>
        cases others with
        | nil => rfl
        | cons other others => cases hShapes
    | cons question questions ih =>
        cases others with
        | nil => cases hShapes
        | cons other others =>
            rcases List.cons.inj hShapes with ⟨hShape, hMore⟩
            have hStep :=
              (alike_stepPieces hShape (index + 1)
                last).marks_written
            rw [List.zipIdx_cons, List.zipIdx_cons, List.map_cons,
              List.map_cons, List.flatten_cons, List.flatten_cons,
              marks_append, marks_append, marks_indented,
              marks_indented, hStep, ih hMore]
  unfold stepBlocks
  rw [hLength]
  exact hFrom others.length 0

/- Forms of one shape have the same marks before their plans. -/
theorem marks_frontText
    {form other : Form}
    (hShape : form.shape = other.shape)
    (plan another : Plan) :
    marks (frontText form plan) =
      marks (frontText other another) := by
  simp only [Form.shape, Shape.mk.injEq] at hShape
  rcases hShape with ⟨hQuestions, hLogo, hSubtitle, hBenefits⟩
  have hHead :
      Alike (headPieces form.company plan.totalSteps)
        (headPieces other.company another.totalSteps) :=
    .append
      (.append
        (.append (alike_titlePieces _ _) (alike_stylePieces _ _))
        (alike_heroPieces hLogo hSubtitle hBenefits))
      (alike_progressPieces _ _)
  have hSteps := marks_stepBlocks hQuestions
  have hLength : form.inOrder.length = other.inOrder.length := by
    have hLengths := congrArg List.length hQuestions
    rw [List.length_map, List.length_map] at hLengths
    exact hLengths
  unfold frontText
  rw [marks_append, marks_append, marks_append, marks_append,
    hHead.marks_written, hSteps, hLength]

end Questionnaire.Document

------------------------------------------------------------
-- Colours
------------------------------------------------------------

namespace Questionnaire.Document

/- Whether a character is a small hexadecimal digit. -/
def isSmallHexDigit
    (c : Char) : Bool :=
  c.isDigit || ('a' ≤ c && c ≤ 'f')

/- A colour of six small hexadecimal digits. -/
def IsCanonical
    (color : String) : Prop :=
  ∃ digits,
    color.toList = '#' :: digits ∧ digits.length = 6 ∧
      ∀ c ∈ digits, isSmallHexDigit c = true

/- Hexadecimal digits are among the first characters. -/
theorem toNat_lt_of_isHexDigit
    {c : Char}
    (hDigit : isHexDigit c = true) :
    c.toNat < 128 := by
  have hLess (limit : Char) (hLimit : c.val ≤ limit.val) :
      c.toNat ≤ limit.toNat :=
    UInt32.le_iff_toNat_le.mp hLimit
  simp only [isHexDigit, Char.isDigit, Bool.or_eq_true,
    Bool.and_eq_true, decide_eq_true_eq] at hDigit
  rcases hDigit with (hDigit | hSmall) | hLarge
  · exact Nat.lt_of_le_of_lt (hLess '9' hDigit.2) (by decide)
  · exact Nat.lt_of_le_of_lt (hLess 'f' hSmall.2) (by decide)
  · exact Nat.lt_of_le_of_lt (hLess 'F' hLarge.2) (by decide)

/- What holds of the first characters, one by one, holds of each. -/
theorem forall_of_toNat_lt
    {p : Char → Prop}
    (hAll : ∀ n : Fin 128, p (Char.ofNat n))
    {c : Char}
    (hLess : c.toNat < 128) :
    p c := by
  have hChar := hAll ⟨c.toNat, hLess⟩
  rw [Char.ofNat_toNat] at hChar
  exact hChar

/- A small digit is a digit. -/
theorem isHexDigit_of_isSmallHexDigit
    {c : Char}
    (hSmall : isSmallHexDigit c = true) :
    isHexDigit c = true := by
  unfold isHexDigit
  unfold isSmallHexDigit at hSmall
  rw [hSmall, Bool.true_or]

set_option maxRecDepth 4000 in
/- A hexadecimal digit stays one when it is made small. -/
theorem isSmallHexDigit_toLower
    {c : Char}
    (hDigit : isHexDigit c = true) :
    isSmallHexDigit c.toLower = true :=
  forall_of_toNat_lt
    (p := fun c =>
      isHexDigit c = true → isSmallHexDigit c.toLower = true)
    (by decide) (toNat_lt_of_isHexDigit hDigit) hDigit

set_option maxRecDepth 4000 in
/- A small digit needs no escape. -/
theorem escapedChar_of_isSmallHexDigit
    {c : Char}
    (hSmall : isSmallHexDigit c = true) :
    escapedChar c = [c] :=
  forall_of_toNat_lt
    (p := fun c => isSmallHexDigit c = true → escapedChar c = [c])
    (by decide)
    (toNat_lt_of_isHexDigit (isHexDigit_of_isSmallHexDigit hSmall))
    hSmall

/- Each of them has one byte. -/
theorem utf8ByteSize_of_isHexDigit
    {digits : List Char}
    (hDigits : ∀ c ∈ digits, isHexDigit c = true) :
    (String.ofList digits).utf8ByteSize = digits.length := by
  rw [String.utf8ByteSize_ofList]
  induction digits with
  | nil => rfl
  | cons c digits ih =>
      rcases List.forall_mem_cons.mp hDigits with ⟨hDigit, hMore⟩
      have hByte : c.utf8Size = 1 := by
        rw [Char.utf8Size_eq_one_iff, UInt32.le_iff_toNat_le]
        exact Nat.le_of_lt_succ (toNat_lt_of_isHexDigit hDigit)
      rw [String.utf8Len_cons, ih hMore, hByte, List.length_cons]

/- The digits of a colour are all that follows its mark. -/
theorem dropWhile_color
    {digits : List Char}
    (hDigits : ∀ c ∈ digits, isHexDigit c = true) :
    ('#' :: digits).dropWhile (fun c => c == '#') = digits := by
  cases digits with
  | nil => rfl
  | cons c digits =>
      have hNotMark : c ≠ '#' := by
        intro hEq
        have hDigit := hDigits c List.mem_cons_self
        rw [hEq] at hDigit
        exact absurd hDigit (by decide)
      simp [hNotMark]

/- What may stand in a form for a colour. -/
theorem isHexColor_iff
    {color : String} :
    isHexColor color = true ↔
      ∃ digits,
        color.toList = '#' :: digits ∧
          (digits.length = 3 ∨ digits.length = 6) ∧
            ∀ c ∈ digits, isHexDigit c = true := by
  unfold isHexColor
  constructor
  · intro hColor
    split at hColor
    case h_1 digits hText =>
      simp only [Bool.and_eq_true, Bool.or_eq_true, beq_iff_eq,
        List.all_eq_true] at hColor
      exact ⟨digits, hText, hColor⟩
    case h_2 => cases hColor
  · rintro ⟨digits, hText, hColor⟩
    rw [hText]
    simpa only [Bool.and_eq_true, Bool.or_eq_true, beq_iff_eq,
      List.all_eq_true] using hColor

/- Three digits are doubled, and any digit is made small. -/
theorem toList_canonicalColor
    {color : String}
    {digits : List Char}
    (hText : color.toList = '#' :: digits)
    (hDigits : ∀ c ∈ digits, isHexDigit c = true) :
    (canonicalColor color).toList =
      '#' ::
        (if digits.length = 3 then
          digits.flatMap (fun c => [c, c])
        else
          digits).map Char.toLower := by
  simp only [canonicalColor, hText, dropWhile_color hDigits,
    utf8ByteSize_of_isHexDigit hDigits, beq_iff_eq,
    String.toList_ofList]

/- A colour of a form is written as six small digits. -/
theorem isCanonical_canonicalColor
    {color : String}
    (hColor : isHexColor color = true) :
    IsCanonical (canonicalColor color) := by
  rcases isHexColor_iff.mp hColor with
    ⟨digits, hText, hLength, hDigits⟩
  have hSmall {full : List Char}
      (hFull : ∀ c ∈ full, c ∈ digits) :
      ∀ c ∈ full.map Char.toLower, isSmallHexDigit c = true := by
    intro c hMem
    rcases List.mem_map.mp hMem with ⟨d, hDigit, hEq⟩
    rw [← hEq]
    exact isSmallHexDigit_toLower (hDigits d (hFull d hDigit))
  refine ⟨_, toList_canonicalColor hText hDigits, ?_, ?_⟩
  · rcases hLength with hThree | hSix
    · rcases List.length_eq_three.mp hThree with ⟨a, b, c, hEq⟩
      rw [hEq]
      rfl
    · rw [hSix, if_neg (by decide), List.length_map, hSix]
  · split
    case isTrue =>
      apply hSmall
      intro d hMem
      rcases List.mem_flatMap.mp hMem with ⟨e, hDigit, hEither⟩
      have hSame : d = e := by
        simpa using hEither
      rw [hSame]
      exact hDigit
    case isFalse => exact hSmall (fun c hMem => hMem)

/- A canonical colour is written as it is. -/
theorem IsCanonical.written
    {color : String}
    (hColor : IsCanonical color) :
    (Piece.shown color).written = color.toList := by
  rcases hColor with ⟨digits, hText, hLength, hDigits⟩
  have hSelf : digits.flatMap escapedChar = digits := by
    clear hText hLength
    induction digits with
    | nil => rfl
    | cons c digits ih =>
        rw [List.flatMap_cons,
          escapedChar_of_isSmallHexDigit
            (hDigits c List.mem_cons_self),
          ih (fun d hMem =>
            hDigits d (List.mem_cons_of_mem c hMem))]
        rfl
  rw [Piece.written, hText, List.flatMap_cons, hSelf]
  rfl

end Questionnaire.Document

------------------------------------------------------------
-- The Style Sheet of a Page
------------------------------------------------------------

namespace Questionnaire.Document

/- Both colours of a page have six small hexadecimal digits. -/
def Colors.Canonical
    (colors : Colors) : Prop :=
  ∀ field, IsCanonical (colors.get field)

/- A part of the style sheet with the colours filled in. -/
def StylePart.filled
    (colors : Colors) : StylePart → List Char
  | .text fixed => fixed.toList
  | .color field => (colors.get field).toList

/- The text of the style sheet with the colours filled in. -/
def sheetText
    (colors : Colors) : List Char :=
  '\n' :: sheetParts.flatMap (·.filled colors)

/- The tags around the style sheet. -/
def styleStart : List Char :=
  ['<', 's', 't', 'y', 'l', 'e', '>']

def styleEnd : List Char :=
  ['<', '/', 's', 't', 'y', 'l', 'e', '>']

/- What stands in the first style element of a text. -/
def style?
    (text : List Char) : Option (List Char) := do
  let (_, rest) ← cut? styleStart text
  let (style, _) ← cut? styleEnd rest
  return style

/- The audit passes the colours that a page can use. -/
theorem isHexColor_of_audit
    {form : Form}
    {warnings : List Warning}
    (hAudit : form.audit = .ok warnings) :
    isHexColor form.company.primary = true ∧
      isHexColor form.company.secondary = true := by
  have hAudited := Form.audited_of_audit hAudit
  have hColor {field : ColorField} {color : String}
      (hPassed : auditColor field color = .ok ()) :
      isHexColor color = true := by
    unfold auditColor at hPassed
    split at hPassed
    case isTrue hHex => exact hHex
    case isFalse => cases hPassed
  exact ⟨hColor hAudited.primary, hColor hAudited.secondary⟩

/- Both colours of an audited form are canonical. -/
theorem canonical_ofCompany
    {form : Form}
    {warnings : List Warning}
    (hAudit : form.audit = .ok warnings) :
    (Colors.ofCompany form.company).Canonical := by
  rcases isHexColor_of_audit hAudit with ⟨hPrimary, hSecondary⟩
  intro field
  cases field with
  | primary => exact isCanonical_canonicalColor hPrimary
  | secondary => exact isCanonical_canonicalColor hSecondary

/- Filling in the colours is all that a page does to the sheet. -/
theorem sheetText_eq
    {colors : Colors}
    (hColors : colors.Canonical) :
    sheetText colors =
      '\n' :: written (styleSheet.flatMap (·.pieces colors)) := by
  have hPart (part : StylePart) :
      (part.piece colors).written = part.filled colors := by
    cases part with
    | text fixed => rfl
    | color field => exact (hColors field).written
  have hBlock (block : StyleBlock) :
      written (block.pieces colors) =
        block.parts.flatMap (·.filled colors) := by
    rw [← StyleBlock.map_parts, written, List.flatMap_map]
    simp only [hPart]
  have hSheet :
      written (styleSheet.flatMap (·.pieces colors)) =
        styleSheet.flatMap
          (fun block => written (block.pieces colors)) :=
    List.flatMap_assoc
  rw [hSheet, sheetText, sheetParts, List.flatMap_assoc]
  simp only [hBlock]

theorem written_stylePieces
    {colors : Colors}
    (hColors : colors.Canonical) :
    written (stylePieces colors) =
      styleStart
        ++ (sheetText colors ++ (styleEnd ++ ['\n'])) := by
  have hStart : "<style>\n".toList = styleStart ++ ['\n'] := by
    decide
  have hEnd : "</style>\n".toList = styleEnd ++ ['\n'] := by
    decide
  have hPieces :
      written (stylePieces colors) =
        "<style>\n".toList
          ++ (written (styleSheet.flatMap (·.pieces colors))
            ++ "</style>\n".toList) := by
    simp only [stylePieces, written, Piece.written,
      List.flatMap_append, List.flatMap_cons, List.flatMap_nil,
      List.append_nil, List.append_assoc]
  rw [hPieces, hStart, hEnd, sheetText_eq hColors,
    List.append_assoc]
  rfl

/- No tag begins in the style sheet. -/
theorem less_not_mem_sheetText
    {colors : Colors}
    (hColors : colors.Canonical) :
    '<' ∉ sheetText colors := by
  rw [sheetText_eq hColors]
  refine List.not_mem_cons_of_ne_of_not_mem (by decide) ?_
  intro hMem
  rcases List.mem_flatMap.mp hMem with ⟨piece, hPiece, hChar⟩
  rcases List.mem_flatMap.mp hPiece with ⟨block, hBlock, hPiece⟩
  exact (plain_styleSheet block hBlock).pieces colors piece hPiece
    hChar

/- No style element begins before the style sheet. -/
theorem isClear_titlePieces
    (company : Company) :
    isClear styleStart (written (titlePieces company)) = true := by
  have hShown (words : String) :
      isClear styleStart (Piece.shown words).written = true :=
    isClear_of_not_mem (less_not_mem_escaped _)
  have hMarkup {text : String} {chars : List Char}
      (hText : text = String.ofList chars)
      (hChars : isClear styleStart chars = true) :
      isClear styleStart (Piece.markup text).written = true := by
    rw [Piece.written, hText, String.toList_ofList]
    exact hChars
  apply isClear_written
  simp only [titlePieces, List.forall_mem_cons, hShown, true_and]
  refine ⟨hMarkup
    (by repeat' first | apply spelled_append | exact rfl)
    (by decide), ?_⟩
  refine ⟨hMarkup rfl (by decide), hMarkup rfl (by decide),
    hMarkup rfl (by decide), ?_⟩
  intro piece hPiece
  exact absurd hPiece List.not_mem_nil

/- The style element is cut from a text one tag at a time. -/
theorem style?_of_cut
    {text before rest style after : List Char}
    (hStart : cut? styleStart text = some (before, rest))
    (hEnd : cut? styleEnd rest = some (style, after)) :
    style? text = some style := by
  simp only [style?, hStart, hEnd, Option.bind_eq_bind,
    Option.bind_some, Option.pure_def]

/- The style element of a page has the sheet in its colours. -/
theorem style?_frontText_append
    {form : Form}
    (hColors : (Colors.ofCompany form.company).Canonical)
    (plan : Plan)
    (tail : List Char) :
    style? (frontText form plan ++ tail) =
      some (sheetText (Colors.ofCompany form.company)) := by
  have hTitle := isClear_titlePieces form.company
  have hSheet :
      isClear styleEnd (sheetText (Colors.ofCompany form.company)) =
        true :=
    isClear_of_not_mem (less_not_mem_sheetText hColors)
  have hFront :
      ∃ rest,
        frontText form plan ++ tail =
          written (titlePieces form.company)
            ++ (styleStart
              ++ (sheetText (Colors.ofCompany form.company)
                ++ (styleEnd ++ rest))) := by
    have hStyle := written_stylePieces hColors
    unfold written at hStyle ⊢
    simp only [frontText, headPieces, written,
      List.flatMap_append, hStyle, List.append_assoc]
    exact ⟨_, rfl⟩
  rcases hFront with ⟨rest, hFront⟩
  rw [hFront]
  exact style?_of_cut (cut?_append hTitle _)
    (cut?_append hSheet rest)

/- The first style sheet of a page is the one with its colours. -/
theorem style?_frontText
    {form : Form}
    (hColors : (Colors.ofCompany form.company).Canonical)
    (plan : Plan) :
    style? (frontText form plan) =
      some (sheetText (Colors.ofCompany form.company)) := by
  have hStyle := style?_frontText_append hColors plan []
  rw [List.append_nil] at hStyle
  exact hStyle

end Questionnaire.Document

------------------------------------------------------------
-- Pages of One Shape
------------------------------------------------------------

namespace Questionnaire

open Document

/-
  What holds of the parts of every page: no tag or entity in
  its plan, the style sheet of all pages in colours of six small
  digits, and the end of all pages.
-/
structure Document.PageParts.Guarded
    (parts : PageParts) : Prop where
  plan : ∀ c ∈ ['<', '>', '&'], c ∉ parts.plan
  style :
    ∃ colors : Colors,
      colors.Canonical ∧
        style? parts.front = some (sheetText colors)
  tail : parts.tail = endText.toList

/- The parts of the page of an audited form are guarded. -/
theorem guarded_of_audit
    {form : Form}
    {warnings : List Warning}
    {plan : Plan}
    {parts : PageParts}
    (hAudit : form.audit = .ok warnings)
    (hFront : parts.front = frontText form plan)
    (hPlan : parts.plan = (planText plan).toList)
    (hTail : parts.tail = endText.toList) :
    parts.Guarded := by
  have hColors := canonical_ofCompany hAudit
  refine ⟨?_, ⟨_, hColors, ?_⟩, hTail⟩
  · rw [hPlan]
    intro c hSpecial hMem
    have hSafe := not_unsafe_planText hMem
    simp only [List.mem_cons, List.not_mem_nil, or_false]
      at hSpecial
    rcases hSpecial with hEq | hEq | hEq
    all_goals
      rw [hEq] at hSafe
      exact absurd hSafe (by decide)
  · rw [hFront]
    exact style?_frontText hColors plan

/-
  No text of a form becomes markup: the pages of two forms of
  one shape have the same marks before their plans, and both
  are guarded.
-/
theorem markup_of_shape
    {form other : Form}
    {settings otherSettings : Settings}
    {warnings otherWarnings : List Warning}
    (hAudit : form.audit = .ok warnings)
    (hOther : other.audit = .ok otherWarnings)
    (hShape : form.shape = other.shape) :
    ∃ page otherPage parts otherParts,
      form.page settings = .ok page ∧
        other.page otherSettings = .ok otherPage ∧
          parts? page = some parts ∧
            parts? otherPage = some otherParts ∧
              marks parts.front = marks otherParts.front ∧
                parts.Guarded ∧ otherParts.Guarded := by
  rcases parts?_pageOf form (Plan.ofForm form settings.delays) with
    ⟨parts, hParts, hFront, hPlan, hTail⟩
  rcases
      parts?_pageOf other
        (Plan.ofForm other otherSettings.delays) with
    ⟨otherParts, hOtherParts, hOtherFront, hOtherPlan,
      hOtherTail⟩
  refine ⟨_, _, parts, otherParts, Form.page_of_audit hAudit,
    Form.page_of_audit hOther, hParts, hOtherParts, ?_,
    guarded_of_audit hAudit hFront hPlan hTail,
    guarded_of_audit hOther hOtherFront hOtherPlan hOtherTail⟩
  rw [hFront, hOtherFront]
  exact marks_frontText hShape _ _

/- A form of the same shape as the one that imitates tags. -/
def Form.harmless : Form :=
  { company := { name := "Acme", slug := "acme" }
    questions := [
      { id := "name"
        kind := .shortText
        label := "Name" }] }

theorem Form.shape_harmless :
    Form.imitating.shape = Form.harmless.shape := by
  have hImitating :
      Form.imitating.inOrder = Form.imitating.questions :=
    List.mergeSort_singleton _
  have hHarmless :
      Form.harmless.inOrder = Form.harmless.questions :=
    List.mergeSort_singleton _
  rw [Form.shape, Form.shape, hImitating, hHarmless]
  rfl

/- Its tags are not found among the marks of its page. -/
theorem imitating_markup :
    Form.imitating.audit = .ok [] ∧
      Form.harmless.audit = .ok [] ∧
        Form.imitating.shape = Form.harmless.shape ∧
          ∃ page otherPage parts otherParts,
            Form.imitating.page {} = .ok page ∧
              Form.harmless.page {} = .ok otherPage ∧
                parts? page = some parts ∧
                  parts? otherPage = some otherParts ∧
                    marks parts.front = marks otherParts.front ∧
                      parts.Guarded ∧ otherParts.Guarded := by
  have hHarmless : Form.harmless.audit = .ok [] := by
    rfl
  exact ⟨Form.audit_imitating, hHarmless, Form.shape_harmless,
    markup_of_shape Form.audit_imitating hHarmless
      Form.shape_harmless⟩

end Questionnaire
