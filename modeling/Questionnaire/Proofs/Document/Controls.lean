import Questionnaire.Proofs.Document.Landmark

/-
  The landmarks in the parts of a page.

  Key definitions include:
    * `promptLandmarks`
    * `Numbered`

  There are none before the steps (`bears_headPieces`).  A step
  begins with its tag and its number; then come its controls, and
  no text that is shown adds one (`numbered_stepPieces`,
  `numbered_reviewPieces`, `numbered_commitmentPieces`).
-/

------------------------------------------------------------
-- Before the Steps
------------------------------------------------------------

namespace Questionnaire.Document

/- Only the title itself is shown among the first tags. -/
theorem bears_titlePieces
    (company : Company) :
    Bears .asIs (titlePieces company) [] :=
  bears_of_fits
    (.markup
      (by repeat' first | apply spelled_append | exact rfl)
      (.shown (.markup rfl (.shown (.markup rfl (.shown
        (.markup rfl .done)))))))
    (by decide +kernel)

/- A rule by itself may end with a gap, a block does not. -/
theorem bears_styleSheet
    (colors : Colors) :
    ∀ block ∈ styleSheet, Bears .asIs (block.pieces colors) [] := by
  simp only [styleSheet, headStyle, stepStyle, fieldStyle,
    buttonStyle, endStyle, List.forall_mem_cons,
    StyleBlock.pieces, StyleRule.pieces, StylePart.piece,
    List.map_cons, List.map_nil, List.flatMap_cons,
    List.flatMap_nil, List.cons_append, List.nil_append,
    List.append_nil, List.not_mem_nil, false_implies,
    implies_true, and_true]
  repeat' apply And.intro
  all_goals
    apply bears_of_fits
    · repeat'
        first
        | exact .done
        | apply Fits.markup
        | apply Fits.shown
        | apply spelled_append
        | exact rfl
    · decide +kernel

theorem bears_stylePieces
    (colors : Colors) :
    Bears .asIs (stylePieces colors) [] := by
  refine Bears.plain (.markup rfl .done) (by decide +kernel) ?_
  have hSheet := Bears.flatMap (bears_styleSheet colors)
  rw [List.flatMap_eq_nil_iff.mpr (fun _ _ => rfl)] at hSheet
  exact hSheet.append
    (bears_of_fits (.markup rfl .done) (by decide +kernel))

theorem bears_benefitPieces
    (company : Company) :
    Bears .asIs (benefitPieces company) [] := by
  unfold benefitPieces
  split
  · exact .nil
  · refine Bears.plain (.markup rfl .done) (by decide +kernel) ?_
    have hBenefits :
        Bears .asIs
          (company.benefits.flatMap
            (fun benefit =>
              [.markup "<li>", .shown benefit, .markup "</li>"]))
          (company.benefits.flatMap (fun _ => [])) :=
      Bears.flatMap
        (fun benefit _ =>
          bears_of_fits (.markup rfl (.shown (.markup rfl .done)))
            (by decide +kernel))
    rw [List.flatMap_eq_nil_iff.mpr (fun _ _ => rfl)] at hBenefits
    exact hBenefits.append
      (bears_of_fits (.markup rfl .done) (by decide +kernel))

/- The logo and the lines below the headline may be missing. -/
theorem bears_heroPieces
    (company : Company) :
    Bears .asIs (heroPieces company) [] := by
  refine Bears.append_left
    (Bears.append_left
      (Bears.append_left (Bears.append_left ?_ ?_) ?_) ?_) ?_
  · refine Bears.plain (.markup (spelled_append rfl rfl) .done)
      (by decide +kernel) ?_
    split
    · exact bears_of_fits
        (.markup rfl (.shown (.markup rfl (.shown
          (.markup rfl .done))))) (by decide +kernel)
    · exact .nil
  · exact bears_of_fits (.markup rfl (.shown (.markup rfl .done)))
      (by decide +kernel)
  · split
    · exact bears_of_fits
        (.markup rfl (.shown (.markup rfl .done)))
        (by decide +kernel)
    · exact .nil
  · exact Bears.plain (.markup rfl .done) (by decide +kernel)
      (bears_benefitPieces company)
  · exact bears_of_fits (.markup rfl .done) (by decide +kernel)

theorem bears_progressPieces
    (totalSteps : Nat) :
    Bears .asIs (progressPieces totalSteps) [] :=
  bears_of_fits
    (.markup
      (by repeat' first | apply spelled_append | exact rfl)
      (.shown
        (.markup
          (by repeat' first | apply spelled_append | exact rfl)
          .done)))
    (by decide +kernel)

/- There are no landmarks before the steps. -/
theorem bears_headPieces
    (company : Company)
    (totalSteps : Nat) :
    Bears .asIs (headPieces company totalSteps) [] :=
  Bears.append_left
    (Bears.append_left
      (Bears.append_left (bears_titlePieces company)
        (bears_stylePieces _))
      (bears_heroPieces company))
    (bears_progressPieces totalSteps)

end Questionnaire.Document

------------------------------------------------------------
-- In the Steps
------------------------------------------------------------

namespace Questionnaire.Document

/- The landmarks of the control of a question. -/
def promptLandmarks
    (prompt : Prompt) : List Landmark :=
  if prompt.kind.isChoice then
    prompt.options.map (fun _ => .select)
  else [
    .goOn,
    if prompt.required then .goOnDisabled else .goOnEnabled]

/-
  What is written of a step after the mark of its number: the
  number, the end of the mark, and some landmarks.
-/
structure Numbered
    (layout : Layout)
    (step : Nat)
    (found : List Landmark)
    (pieces : List Piece) : Prop where
  begins : ∃ text chars more rest,
    pieces = shownNumber step :: .markup text :: rest ∧
      text = String.ofList chars ∧ chars = '"' :: more
  bears : Bears layout pieces found

/- The button is the same on every step but the first. -/
theorem bears_backButton
    (layout : Layout) :
    Bears layout [.markup backButton] [.back] := by
  refine bears_of_fits
    (.markup (spelled_append (spelled_append rfl rfl) rfl) .done)
    ?_
  cases layout <;> decide +kernel

/- There is a control to select each of the options. -/
theorem bears_choicePieces
    (question : Question)
    (style : String)
    (choices : List Choice) :
    Bears .indented (choicePieces question style choices)
      ((choices.map (·.value)).map (fun _ => .select)) := by
  have hOption
      (choice : Choice) :
      Bears .indented (optionPieces question.id choice) [.select] :=
    bears_of_fits
      (.markup rfl (.shown (.markup rfl (.shown (.markup rfl
        (.shown (.markup rfl (.shown (.markup rfl .done)))))))))
      (by decide +kernel)
  rw [List.map_map]
  refine Bears.append_right (Bears.append_left ?_ ?_)
    (bears_of_fits (.markup rfl .done) (by decide +kernel))
  · exact bears_of_fits
      (.markup rfl (.shown (.markup rfl (.shown
        (.markup rfl .done)))))
      (by decide +kernel)
  · cases choices with
    | nil =>
        exact bears_of_fits (.markup rfl .done) (by decide +kernel)
    | cons choice choices =>
        rw [List.map_eq_flatMap]
        exact Bears.flatMap (fun choice _ => hOption choice)

/- A field by itself has no control to go on. -/
theorem bears_linePieces
    (question : Question)
    (inputType : String)
    (maxLength : Option Nat) :
    Bears .indented (linePieces question inputType maxLength)
      [] := by
  refine Bears.append_left (Bears.append_left ?_ ?_)
    (bears_of_fits (.markup rfl .done) (by decide +kernel))
  · exact bears_of_fits
      (.markup rfl (.shown (.markup rfl (.shown (.markup rfl
        (.shown (.markup rfl (.shown (.markup rfl .done)))))))))
      (by decide +kernel)
  · split
    · exact bears_of_fits
        (.markup rfl (.shown (.markup rfl .done)))
        (by decide +kernel)
    · exact .nil

theorem bears_textAreaPieces
    (question : Question) :
    Bears .indented (textAreaPieces question) [] :=
  bears_of_fits
    (.markup rfl (.shown (.markup rfl (.shown (.markup rfl
      (.shown (.markup rfl .done)))))))
    (by decide +kernel)

/- The way on can be used at first, or it cannot. -/
theorem bears_fieldPieces
    {field : List Piece}
    (hField : Bears .indented field [])
    (question : Question)
    (message : String)
    (goOn : String) :
    Bears .indented (fieldPieces question field message goOn)
      [ .goOn,
        if question.required then
          .goOnDisabled
        else
          .goOnEnabled ] := by
  unfold fieldPieces
  rw [List.append_assoc, List.append_assoc]
  refine Bears.append_left (Bears.append_left ?_ hField) ?_
  · exact bears_of_fits
      (.markup rfl (.shown (.markup rfl (.shown
        (.markup rfl .done)))))
      (by decide +kernel)
  · cases question.required with
    | false =>
        exact bears_of_fits
          (.markup rfl (.shown (.markup rfl (.shown
            (.markup (spelled_append rfl rfl) (.markup rfl (.shown
              (.markup rfl .done))))))))
          (by decide +kernel)
    | true =>
        exact bears_of_fits
          (.markup rfl (.shown (.markup rfl (.shown
            (.markup (spelled_append rfl rfl) (.markup rfl
              (.markup rfl (.shown (.markup rfl .done)))))))))
          (by decide +kernel)

/- The control of a question is the one of its prompt. -/
theorem bears_controlPieces
    (question : Question)
    (goOn : String) :
    Bears .indented (controlPieces question goOn)
      (promptLandmarks (Prompt.ofQuestion question)) := by
  unfold controlPieces promptLandmarks Control.ofQuestion
    Prompt.ofQuestion Question.offered
  cases question.kind with
  | shortText | email | phone =>
      exact bears_fieldPieces (bears_linePieces _ _ _) _ _ _
  | longText =>
      exact bears_fieldPieces (bears_textAreaPieces _) _ _ _
  | choiceList | choiceCards =>
      exact bears_choicePieces _ _ _

/- The tag of a step, its number, its question and its controls. -/
theorem numbered_stepPieces
    (step last : Nat)
    (question : Question) :
    ∃ pieces,
      stepPieces step last question =
          .markup "      <div class=\"step"
            :: whenTrue (step == 1) [.markup " active"]
            ++ .markup "\" data-step=\"" :: pieces ∧
        Numbered .indented step
          ((if 1 < step then [.back] else [])
            ++ promptLandmarks (Prompt.ofQuestion question))
          pieces := by
  refine ⟨?pieces, ?split, ?begins, ?bears⟩
  case split =>
    simp only [stepPieces, List.append_assoc, List.cons_append,
      List.nil_append]
    exact rfl
  case begins => exact ⟨_, _, _, _, rfl, rfl, rfl⟩
  case bears =>
    refine Bears.plain
      (.shown (.markup rfl (.shown (.markup rfl (.shown
        (.markup rfl .done)))))) (by decide +kernel) ?_
    have hBack :=
      Bears.whenTrue (1 < step) (bears_backButton .indented)
    simp only [decide_eq_true_eq] at hBack
    refine hBack.append ?_
    refine Bears.plain
      (.markup
        (by repeat' first | apply spelled_append | exact rfl)
        (.shown (.markup rfl .done))) (by decide +kernel) ?_
    refine Bears.append_left ?_ ?_
    · split
      · exact bears_of_fits
          (.markup rfl (.shown (.markup rfl .done)))
          (by decide +kernel)
      · exact .nil
    · refine Bears.plain (.markup rfl .done) (by decide +kernel) ?_
      exact (bears_controlPieces question _).append_right
        (bears_of_fits (.markup rfl .done) (by decide +kernel))

end Questionnaire.Document

------------------------------------------------------------
-- After the Questions
------------------------------------------------------------

namespace Questionnaire.Document

/- The review is on screen at first if there are no questions. -/
theorem numbered_reviewPieces
    (questions : Nat) :
    ∃ pieces,
      reviewPieces questions =
          .markup "\n      <div class=\"step"
            :: whenTrue (questions == 0) [.markup " active"]
            ++ .markup "\" data-step=\"" :: pieces ∧
        Numbered .asIs (questions + 1)
          ((if 0 < questions then [.back] else []) ++ [.confirm])
          pieces := by
  refine ⟨?pieces, ?split, ?begins, ?bears⟩
  case split =>
    simp only [reviewPieces, List.append_assoc, List.cons_append,
      List.nil_append]
    exact rfl
  case begins => exact ⟨_, _, _, _, rfl, rfl, rfl⟩
  case bears =>
    refine Bears.plain (.shown (.markup rfl .done))
      (by decide +kernel) ?_
    have hBack :=
      Bears.whenTrue (0 < questions) (bears_backButton .asIs)
    simp only [decide_eq_true_eq] at hBack
    refine hBack.append ?_
    exact bears_of_fits
      (.markup
        (by repeat' first | apply spelled_append | exact rfl)
        .done) (by decide +kernel)

/- The commitment is never on screen at first. -/
theorem numbered_commitmentPieces
    (questions : Nat) :
    ∃ pieces,
      commitmentPieces questions =
          .markup "      <div class=\"step\" data-step=\""
            :: pieces ∧
        Numbered .asIs (questions + 2) [.back, .commit, .commit]
          pieces := by
  refine ⟨_, rfl, ?begins, ?bears⟩
  case begins =>
    exact ⟨_, _, _, _, rfl,
      by repeat' first | apply spelled_append | exact rfl,
      by rfl⟩
  case bears =>
    exact bears_of_fits
      (.shown
        (.markup
          (by repeat' first | apply spelled_append | exact rfl)
          .done)) (by decide +kernel)

end Questionnaire.Document
