import Questionnaire.Proofs.Form.Known
import Questionnaire.Proofs.Json.Alike

/-
  A question of an unknown kind is blamed before anything else,
  and a known kind is never to blame.

  Key definitions include:
    * `Json.BlamesKind`
    * `Json.Relabelled`

  Whether a text is a form, and if not why, does not depend on
  which of the known labels its questions have
  (`Form.parse_error_iff_of_relabelled`).
-/

------------------------------------------------------------
-- The First Unknown Kind
------------------------------------------------------------

namespace Questionnaire

namespace Json

variable {value : Json}

/-
  The first item of the questions that is mislabelled has some
  unknown kind; it is called by its id, or else by its position
  counted from one.
-/
def BlamesKind
    (value : Json)
    (unknown : UnknownKind) : Prop :=
  ∃ before item after,
    value.get? "questions" =
        some (.array (before ++ item :: after)) ∧
      (∀ other ∈ before, ∀ label, ¬ other.Mislabelled label) ∧
      item.Mislabelled unknown.kind ∧
      (item.get? "id" = some (.string unknown.question) ∨
        ((∀ id, item.get? "id" ≠ some (.string id)) ∧
          unknown.question = "#" ++ toString (before.length + 1)))

/- The items of a member are those of its array. -/
theorem bind_items?_eq_some_iff
    {found : Option Json}
    {items : List Json} :
    found.bind items? = some items ↔ found = some (.array items) := by
  cases found with
  | none => simp
  | some value => cases value <;> simp [items?]

/- And its text is the string that it is, or another. -/
theorem getD_bind_text?_eq_iff
    {found : Option Json}
    {other text : String} :
    text = (found.bind text?).getD other ↔
      found = some (.string text) ∨
        ((∀ id, found ≠ some (.string id)) ∧ text = other) := by
  cases found with
  | none => simp
  | some value => cases value <;> simp [text?, eq_comm]

/- The unknown kind that is found is the one to blame. -/
theorem unknownKind?_eq_some_iff
    {unknown : UnknownKind} :
    unknownKind? value = some unknown ↔ value.BlamesKind unknown := by
  rw [unknownKind?, Option.bind_eq_some_iff]
  simp only [bind_items?_eq_some_iff, firstUnknownKind?_eq_some_iff,
    unknownKindOf?_eq_some_iff, getD_bind_text?_eq_iff]
  constructor
  · rintro ⟨items, hItems, before, item, after, hSplit, hBefore,
      hLabel, hQuestion⟩
    rw [hSplit] at hItems
    rw [Nat.add_comm] at hQuestion
    exact ⟨before, item, after, hItems, hBefore, hLabel, hQuestion⟩
  · rintro ⟨before, item, after, hItems, hBefore, hLabel, hQuestion⟩
    rw [Nat.add_comm] at hQuestion
    exact ⟨_, hItems, before, item, after, rfl, hBefore, hLabel,
      hQuestion⟩

/- There is one to blame if any item is mislabelled. -/
theorem exists_blamesKind_iff :
    (∃ unknown, value.BlamesKind unknown) ↔
      ∃ items,
        value.get? "questions" = some (.array items) ∧
          ∃ item ∈ items, ∃ label, item.Mislabelled label := by
  constructor
  · rintro ⟨unknown, before, item, after, hItems, _, hLabel, _⟩
    exact ⟨_, hItems, item,
      List.mem_append_right _ List.mem_cons_self, _, hLabel⟩
  · rintro ⟨items, hItems, item, hItem, label, hLabel⟩
    cases hFound : unknownKind? value with
    | some unknown =>
        exact ⟨unknown, unknownKind?_eq_some_iff.mp hFound⟩
    | none =>
        have hFirst : firstUnknownKind? 1 items = none := by
          rw [unknownKind?, hItems] at hFound
          exact hFound
        have hNone := firstUnknownKind?_eq_none_iff.mp hFirst
        exact absurd hLabel (hNone item hItem label)

end Json

namespace Form

variable {source : String}
variable {value : Json}

/- The unknown kind is what is wrong with a text, if there is one. -/
theorem parse_eq_unknownKind_iff
    (hValue : Json.parse source = .ok value)
    {unknown : UnknownKind} :
    parse source = .error (.unknownKind unknown) ↔
      value.BlamesKind unknown := by
  rw [← Json.unknownKind?_eq_some_iff]
  simp only [parse, hValue]
  cases unknownKind? value with
  | some other => simp
  | none =>
      cases ofJson value with
      | ok form => simp
      | error mismatch => simp

end Form

end Questionnaire

------------------------------------------------------------
-- Other Labels
------------------------------------------------------------

namespace Questionnaire

/- A label of a kind stands where another one stood. -/
def Kind.Relabelled
    (old new : Json) : Prop :=
  ∃ label ∈ Kind.labels, ∃ other ∈ Kind.labels,
    old = .string label ∧ new = .string other

/- Known labels are converted, every one of them. -/
theorem Kind.Relabelled.alike
    {surplus : Surplus}
    {old new : Json}
    (hLabels : Kind.Relabelled old new) :
    Kind.format.Alike surplus old new := by
  rcases hLabels with ⟨label, hLabel, other, hOther, hOld, hNew⟩
  rcases Kind.mem_labels_iff.mp hLabel with ⟨kind, hKind⟩
  rcases Kind.mem_labels_iff.mp hOther with ⟨another, hAnother⟩
  rw [hOld, hNew, Format.Alike, Kind.convert_string_iff.mpr hKind,
    Kind.convert_string_iff.mpr hAnother]
  exact .ok trivial

namespace Json

/- A question has another label, or is the same. -/
def QuestionRelabelled
    (old new : Json) : Prop :=
  old = new ∨
    ∃ olds news,
      old = .object olds ∧ new = .object news ∧
        RowsMatch
          (fun name old new =>
            old = new ∨ (name = "type" ∧ Kind.Relabelled old new))
          olds news

/- The questions of a value have other labels, or are the same. -/
def Relabelled
    (old new : Json) : Prop :=
  ∃ olds news,
    old = .object olds ∧ new = .object news ∧
      RowsMatch
        (fun name old new =>
          old = new ∨
            (name = "questions" ∧
              ∃ items others,
                old = .array items ∧ new = .array others ∧
                  List.Forall₂ QuestionRelabelled items others))
        olds news

variable {old new : Json}

/- Known labels are none to blame. -/
theorem QuestionRelabelled.unknownKindOf?_eq
    (hQuestion : QuestionRelabelled old new)
    (position : Nat) :
    unknownKindOf? position old = unknownKindOf? position new := by
  rcases hQuestion with hEq | ⟨olds, news, hOld, hNew, hMembers⟩
  · rw [hEq]
  · have hGet (name : String) :
        old.get? name = olds.lookup name ∧
          new.get? name = news.lookup name := by
      rw [hOld, hNew]
      exact ⟨rfl, rfl⟩
    have hId : old.get? "id" = new.get? "id" := by
      rw [(hGet "id").1, (hGet "id").2]
      rcases hMembers.lookup "id" with
        ⟨hNone, hOther⟩ | ⟨value, other, hValue, hOther, hSame⟩
      · rw [hNone, hOther]
      · rcases hSame with hEq | ⟨hType, _⟩
        · rw [hValue, hOther, hEq]
        · exact absurd hType (by decide)
    have hType :
        old.get? "type" = new.get? "type" ∨
          ((∀ label, ¬ old.Mislabelled label) ∧
            ∀ label, ¬ new.Mislabelled label) := by
      simp only [Mislabelled, (hGet "type").1, (hGet "type").2]
      rcases hMembers.lookup "type" with
        ⟨hNone, hOther⟩ | ⟨value, other, hValue, hOther, hSame⟩
      · rw [hNone, hOther]
        exact .inl rfl
      · rw [hValue, hOther]
        rcases hSame with hEq | ⟨_, label, hLabel, name, hName, hIs⟩
        · rw [hEq]
          exact .inl rfl
        · rw [hIs.1, hIs.2]
          refine .inr ⟨?_, ?_⟩
          · rintro found ⟨hFound, hUnknown⟩
            cases hFound
            exact hUnknown hLabel
          · rintro found ⟨hFound, hUnknown⟩
            cases hFound
            exact hUnknown hName
    rcases hType with hSame | ⟨hOldKnown, hNewKnown⟩
    · rw [unknownKindOf?, unknownKindOf?, hId, hSame]
    · rw [unknownKindOf?_eq_none_iff.mpr hOldKnown,
        unknownKindOf?_eq_none_iff.mpr hNewKnown]

theorem firstUnknownKind?_eq_of_relabelled
    {items others : List Json}
    (hItems : List.Forall₂ QuestionRelabelled items others)
    (position : Nat) :
    firstUnknownKind? position items =
      firstUnknownKind? position others := by
  induction hItems generalizing position with
  | nil => rfl
  | cons hItem _ ih =>
      rw [firstUnknownKind?, firstUnknownKind?, ih (position + 1),
        hItem.unknownKindOf?_eq]

theorem Relabelled.unknownKind?_eq
    (hRelabelled : Relabelled old new) :
    unknownKind? old = unknownKind? new := by
  rcases hRelabelled with ⟨olds, news, hOld, hNew, hMembers⟩
  have hGet :
      old.get? "questions" = olds.lookup "questions" ∧
        new.get? "questions" = news.lookup "questions" := by
    rw [hOld, hNew]
    exact ⟨rfl, rfl⟩
  rw [unknownKind?, unknownKind?, hGet.1, hGet.2]
  rcases hMembers.lookup "questions" with
    ⟨hNone, hOther⟩ | ⟨value, other, hValue, hOther, hSame⟩
  · rw [hNone, hOther]
  · rw [hValue, hOther]
    rcases hSame with hEq | ⟨_, items, others, hIs, hIsNot, hItems⟩
    · rw [hEq]
    · rw [hIs, hIsNot]
      exact firstUnknownKind?_eq_of_relabelled hItems 1

/- So questions with other labels are converted alike. -/
theorem QuestionRelabelled.alike
    {surplus : Surplus}
    (hQuestion : QuestionRelabelled old new) :
    Question.format.Alike surplus old new := by
  rcases hQuestion with hEq | ⟨olds, news, hOld, hNew, hMembers⟩
  · rw [hEq]
    exact .refl new
  · rw [hOld, hNew]
    refine Format.alike_record (hMembers.imp ?_)
    rintro ⟨name, old⟩ ⟨_, new⟩ ⟨hName, hValue⟩
    refine ⟨hName, ?_⟩
    simp only [] at hValue ⊢
    rcases hValue with hEq | ⟨hType, hLabels⟩
    · rw [hEq]
      exact .refl new _
    · rw [hType, Fields.required, Fields.AlikeAt, if_neg (by decide),
        Fields.required, Fields.AlikeAt, if_pos rfl]
      exact hLabels.alike

end Json

namespace Form

variable {source other : String}
variable {old new : Json}

/- And so are the forms, one group of fields after the other. -/
theorem agree_ofJson
    (hRelabelled : Json.Relabelled old new) :
    Agree Anyhow (ofJson old) (ofJson new) := by
  rcases hRelabelled with ⟨olds, news, hOld, hNew, hMembers⟩
  have hGroup {α σ : Type}
      {surplus : Surplus}
      {fields : Fields α σ}
      (hQuestions :
        ∀ items others,
          List.Forall₂ Json.QuestionRelabelled items others →
            fields.AlikeAt surplus "questions"
              (.array items) (.array others)) :
      Agree Anyhow
        (fields.convertMembers surplus olds)
        (fields.convertMembers surplus news) := by
    refine Fields.agree_convertMembers (hMembers.imp ?_)
    rintro ⟨name, old⟩ ⟨other, new⟩ ⟨hName, hValue⟩
    refine ⟨hName, ?_⟩
    simp only [] at hValue ⊢
    rcases hValue with
      hEq | ⟨hIs, items, others, hItems, hOthers, hAll⟩
    · rw [hEq]
      exact .refl new fields
    · rw [hIs, hItems, hOthers]
      exact hQuestions items others hAll
  have hContent :
      ∀ items others,
        List.Forall₂ Json.QuestionRelabelled items others →
          contentFields.AlikeAt .fewerWanted "questions"
            (.array items) (.array others) := by
    intro items others hItems
    rw [contentFields, Fields.withDefault, Fields.AlikeAt, if_pos rfl]
    exact Format.alike_list
      (hItems.imp (fun _ _ hItem => hItem.alike))
  have hCompany : "questions" ∉ companyFields.names := by decide
  have hEndpoints : "questions" ∉ endpointFields.names := by decide
  rw [hOld, hNew]
  refine (hGroup hContent).bind (fun _ _ _ => ?_)
  refine (hGroup (fun _ _ _ =>
    .of_not_mem _ _ companyFields hCompany)).bind (fun _ _ _ => ?_)
  exact (hGroup (fun _ _ _ =>
    .of_not_mem _ _ endpointFields hEndpoints)).bind
      (fun _ _ _ => .ok trivial)

/-
  A text with other known labels has the same error, whichever
  it is.
-/
theorem parse_error_iff_of_relabelled
    (hOld : Json.parse source = .ok old)
    (hNew : Json.parse other = .ok new)
    (hRelabelled : Json.Relabelled old new)
    (error : ReadError) :
    parse source = .error error ↔ parse other = .error error := by
  have hAgree := agree_ofJson hRelabelled
  simp only [parse, hOld, hNew, hRelabelled.unknownKind?_eq]
  cases unknownKind? new with
  | some unknown => exact Iff.rfl
  | none =>
      generalize ofJson old = first at hAgree ⊢
      generalize ofJson new = second at hAgree ⊢
      cases hAgree with
      | ok =>
          constructor
          · intro hFails
            cases hFails
          · intro hFails
            cases hFails
      | error mismatch => exact Iff.rfl

end Form

end Questionnaire

------------------------------------------------------------
-- Unknown and Known Kinds
------------------------------------------------------------

namespace Questionnaire

/-
  Of a text that spells a value the first unknown kind is what
  is wrong, whatever else is.  A known kind is never wrong: the
  labels that are looked for are those that are read, and other
  known labels in their place leave every error as it is.  The
  questions of a form are the items of the value, one by one,
  each of the kind that its item names, and they are written by
  the kind's own name.
-/
theorem unknown_kind_is_blamed_first
    {source : String}
    {value : Json}
    (hValue : Json.parse source = .ok value) :
    (∀ unknown,
      Form.parse source = .error (.unknownKind unknown) ↔
        value.BlamesKind unknown) ∧
      ((∃ unknown, value.BlamesKind unknown) ↔
        ∃ items,
          value.get? "questions" = some (.array items) ∧
            ∃ item ∈ items, ∃ label, item.Mislabelled label) ∧
      (∀ label,
        label ∈ Kind.labels ↔
          ∃ kind,
            Kind.format.convert .fewerWanted (.string label) =
              .ok kind) ∧
      (∀ other relabelled,
        Json.parse other = .ok relabelled →
          value.Relabelled relabelled →
            ∀ error,
              Form.parse source = .error error ↔
                Form.parse other = .error error) ∧
      ∀ form,
        Form.parse source = .ok form →
          value.ListsQuestions form.questions ∧
            ∀ question ∈ form.questions,
              (Question.format.toJson question).get? "type" =
                some (.string question.kind.name) := by
  refine ⟨fun _ => Form.parse_eq_unknownKind_iff hValue,
    Json.exists_blamesKind_iff, ?_, ?_, ?_⟩
  · intro label
    simp only [Kind.mem_labels_iff, Kind.convert_string_iff]
  · exact fun other relabelled hOther =>
      Form.parse_error_iff_of_relabelled hValue hOther
  · intro form hForm
    have hRead := (Form.parse_eq_ok_iff hValue).mp hForm
    exact ⟨Form.listsQuestions_of_ofJson
      (Form.inOrder_of_parse hValue) hRead, fun _ _ => rfl⟩

/- A form of two questions that have nothing but their label. -/
def Json.sketch
    (label : String) : Json :=
  .object [
    ("questions",
      .array [
        .object [("type", .string "email")],
        .object [("type", .string label)]])]

theorem Json.fits_sketch
    (label : String) :
    (sketch label).Fits depthLimit := by
  simp [sketch, depthLimit, fits_array_iff, fits_object_iff,
    Fits.string]

/-
  The second question is blamed for its label only if that is
  unknown.  Which known label it has makes no difference.
-/
theorem sketch_is_blamed :
    Form.parse (Json.sketch "quiz").compact =
        .error (.unknownKind ⟨"#2", "quiz"⟩) ∧
      ∀ error,
        Form.parse (Json.sketch "text").compact = .error error ↔
          Form.parse (Json.sketch "long-text").compact =
            .error error := by
  have hParse (label : String) :
      Json.parse (Json.sketch label).compact =
        .ok (Json.sketch label) :=
    Json.parse_compact (Json.fits_sketch label)
  have hQuiz := unknown_kind_is_blamed_first (hParse "quiz")
  have hText := unknown_kind_is_blamed_first (hParse "text")
  constructor
  · refine (hQuiz.1 _).mpr
      ⟨[_], _, [], rfl, ?_, ⟨rfl, by decide⟩, .inr ⟨nofun, rfl⟩⟩
    intro other hOther label hMislabelled
    rw [List.mem_singleton.mp hOther] at hMislabelled
    cases hMislabelled.1
    exact hMislabelled.2 (by decide)
  · refine hText.2.2.2.1 _ _ (hParse "long-text")
      ⟨_, _, rfl, rfl, .cons ⟨rfl, .inr ⟨rfl, ?_⟩⟩ .nil⟩
    refine ⟨_, _, rfl, rfl, .cons (.inl rfl) (.cons (.inr ?_) .nil)⟩
    refine ⟨_, _, rfl, rfl, .cons ⟨rfl, .inr ⟨rfl, ?_⟩⟩ .nil⟩
    exact ⟨"text", by decide, "long-text", by decide, rfl, rfl⟩

end Questionnaire
