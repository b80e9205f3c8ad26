import Questionnaire.Form.Wire
import Questionnaire.Proofs.Form.Kind
import Questionnaire.Proofs.Json.Parsed

/-
  What a form that was read tells of the value it was read from.

  Key definitions include:
    * `Json.Mislabelled`
    * `Json.NamesKind`
    * `Json.ListsQuestions`

  Every question comes from an item that names its kind
  (`Form.listsQuestions_of_ofJson`), so no item of a form that
  is read has an unknown one (`Form.unknownKind?_of_ofJson`).
-/

------------------------------------------------------------
-- Groups of Fields
------------------------------------------------------------

namespace Questionnaire

namespace Form

/-
  A form is read from the members of an object, in which each
  group of fields finds what it has.
-/
theorem ofJson_eq_ok_iff
    {value : Json}
    (hOrder : value.InOrder)
    {form : Form} :
    ofJson value = .ok form ↔
      ∃ members,
        value = .object members ∧
          contentFields.Tells .fewerWanted members
            (form.questions, form.criteria, ()) ∧
          companyFields.Tells .exactWanted members
            (companyParts form.company) ∧
          endpointFields.Tells .exactWanted members
            (form.endpoints.webhooks, form.endpoints.redirects,
              ()) := by
  constructor
  · intro hForm
    cases value with
    | object members =>
        have hDistinct := hOrder.nodup_names
        rcases bind_eq_ok.mp hForm with
          ⟨⟨questions, criteria, _⟩, hContent, hRest⟩
        rcases bind_eq_ok.mp hRest with ⟨parts, hCompany, hRest⟩
        rcases bind_eq_ok.mp hRest with
          ⟨⟨webhooks, redirects, _⟩, hEndpoints, hMade⟩
        rw [← pure_eq_ok.mp hMade]
        exact ⟨members, rfl,
          (Fields.convertMembers_eq_ok_iff (by decide) hDistinct).mp
            hContent,
          (Fields.convertMembers_eq_ok_iff (by decide) hDistinct).mp
            hCompany,
          (Fields.convertMembers_eq_ok_iff (by decide) hDistinct).mp
            hEndpoints⟩
    | _ => exact absurd hForm nofun
  · rintro ⟨members, hValue, hContent, hCompany, hEndpoints⟩
    rw [hValue]
    refine bind_eq_ok.mpr
      ⟨_, Fields.convertMembers_of_tells hContent, ?_⟩
    refine bind_eq_ok.mpr
      ⟨_, Fields.convertMembers_of_tells hCompany, ?_⟩
    exact bind_eq_ok.mpr
      ⟨_, Fields.convertMembers_of_tells hEndpoints, rfl⟩

end Form

end Questionnaire

------------------------------------------------------------
-- The Kinds of Questions
------------------------------------------------------------

namespace Questionnaire

namespace Json

/-
  What stands for the kind in an item of the questions, be it an
  object or the list of its fields.
-/
def kindIn? : Json → Option Json
  | .object members => members.lookup "type"
  | .array (_ :: value :: _) => some value
  | _ => none

/- An item names a kind by its name or its alias. -/
def NamesKind
    (item : Json)
    (kind : Kind) : Prop :=
  ∃ label,
    item.kindIn?.bind Json.label? = some label ∧
      (label = kind.name ∨ kind.alias? = some label)

/- An item is an object whose label is no name of a kind. -/
def Mislabelled
    (item : Json)
    (label : String) : Prop :=
  item.get? "type" = some (.string label) ∧ label ∉ Kind.labels

/- The text that an object has as its type is its label. -/
theorem kindIn?_of_get?
    {item : Json}
    {label : String}
    (hLabel : item.get? "type" = some (.string label)) :
    item.kindIn?.bind Json.label? = some label := by
  cases item with
  | object members =>
      have hLookup : members.lookup "type" = some (.string label) :=
        hLabel
      rw [kindIn?, hLookup]
      rfl
  | _ => exact absurd hLabel nofun

/- An item that names a kind is not mislabelled. -/
theorem NamesKind.not_mislabelled
    {item : Json}
    {kind : Kind}
    (hNames : item.NamesKind kind)
    (label : String) :
    ¬ item.Mislabelled label := by
  rintro ⟨hLabel, hUnknown⟩
  rcases hNames with ⟨found, hFound, hKind⟩
  rw [kindIn?_of_get? hLabel] at hFound
  rw [Option.some.inj hFound] at hUnknown
  exact hUnknown
    (Kind.mem_labels_iff.mpr ⟨kind, Kind.lookup_names_iff.mpr hKind⟩)

end Json

/- A text that is no known label makes an item mislabelled. -/
theorem unknownKindOf?_eq_some_iff
    {position : Nat}
    {item : Json}
    {unknown : UnknownKind} :
    unknownKindOf? position item = some unknown ↔
      item.Mislabelled unknown.kind ∧
        unknown.question =
          ((item.get? "id").bind Json.text?).getD
            ("#" ++ toString position) := by
  have hText (label : String) :
      (item.get? "type").bind Json.text? = some label ↔
        item.get? "type" = some (.string label) := by
    cases item.get? "type" with
    | none => simp
    | some value => cases value <;> simp [Json.text?]
  rw [unknownKindOf?]
  cases hType : (item.get? "type").bind Json.text? with
  | none =>
      constructor
      · intro hNone
        cases hNone
      · rintro ⟨⟨hLabel, _⟩, _⟩
        rw [(hText _).mpr hLabel] at hType
        cases hType
  | some label =>
      have hFound {other : String}
          (hLabel : item.get? "type" = some (.string other)) :
          label = other := by
        rw [(hText other).mpr hLabel] at hType
        exact (Option.some.inj hType).symm
      by_cases hKnown : label ∈ Kind.labels
      case pos =>
        simp only [if_pos (List.contains_iff_mem.mpr hKnown)]
        constructor
        · intro hNone
          cases hNone
        · rintro ⟨⟨hLabel, hUnknown⟩, _⟩
          exact absurd (hFound hLabel ▸ hKnown) hUnknown
      case neg =>
        have hContains : ¬ Kind.labels.contains label = true :=
          fun hIn => hKnown (List.contains_iff_mem.mp hIn)
        simp only [if_neg hContains, Option.some.injEq]
        constructor
        · intro hUnknown
          rw [← hUnknown]
          exact ⟨⟨(hText label).mp hType, hKnown⟩, rfl⟩
        · rintro ⟨⟨hLabel, _⟩, hQuestion⟩
          rw [hFound hLabel, ← hQuestion]

theorem unknownKindOf?_eq_none_iff
    {position : Nat}
    {item : Json} :
    unknownKindOf? position item = none ↔
      ∀ label, ¬ item.Mislabelled label := by
  rw [Option.eq_none_iff_forall_ne_some]
  constructor
  · intro hNone label hMislabelled
    exact hNone ⟨_, label⟩
      (unknownKindOf?_eq_some_iff.mpr ⟨hMislabelled, rfl⟩)
  · intro hNone unknown hSome
    exact hNone _ (unknownKindOf?_eq_some_iff.mp hSome).1

/-
  The first item of an unknown kind has others before it that
  are not mislabelled.
-/
theorem firstUnknownKind?_eq_some_iff
    {items : List Json}
    {position : Nat}
    {unknown : UnknownKind} :
    firstUnknownKind? position items = some unknown ↔
      ∃ before item after,
        items = before ++ item :: after ∧
          (∀ other ∈ before, ∀ label, ¬ other.Mislabelled label) ∧
          unknownKindOf? (position + before.length) item =
            some unknown := by
  induction items generalizing position with
  | nil => simp [firstUnknownKind?]
  | cons first items ih =>
      rw [firstUnknownKind?, exists_split_cons_iff]
      simp only [List.forall_mem_cons, List.not_mem_nil,
        false_implies, implies_true, true_and, List.length_nil,
        Nat.add_zero, List.length_cons, ← Nat.add_assoc,
        Nat.add_right_comm position _ 1]
      cases hFirst : unknownKindOf? position first with
      | some found =>
          -- What is mislabelled has no place after it.
          have hMislabelled :=
            (unknownKindOf?_eq_some_iff.mp hFirst).1
          rw [Option.orElse_some]
          refine (or_iff_left ?_).symm
          rintro ⟨_, _, _, _, ⟨hNone, _⟩, _⟩
          exact hNone _ hMislabelled
      | none =>
          have hNone := unknownKindOf?_eq_none_iff.mp hFirst
          rw [Option.orElse_none, ih, or_iff_right nofun]
          simp only [and_iff_right hNone]

/- There is none if no item is mislabelled. -/
theorem firstUnknownKind?_eq_none_iff
    {items : List Json}
    {position : Nat} :
    firstUnknownKind? position items = none ↔
      ∀ item ∈ items, ∀ label, ¬ item.Mislabelled label := by
  induction items generalizing position with
  | nil => simp [firstUnknownKind?]
  | cons item items ih =>
      rw [firstUnknownKind?, List.forall_mem_cons,
        ← @unknownKindOf?_eq_none_iff position, ← @ih (position + 1)]
      cases unknownKindOf? position item with
      | none => simp
      | some unknown => simp

/- A question comes from an item that names its kind. -/
theorem Question.namesKind_of_convert
    {surplus : Surplus}
    {item : Json}
    (hOrder : item.InOrder)
    {question : Question}
    (hConvert : format.convert surplus item = .ok question) :
    item.NamesKind question.kind := by
  have hNamed {value : Json}
      (hIn : item.kindIn? = some value)
      (hKind :
        Kind.format.convert surplus value = .ok question.kind) :
      item.NamesKind question.kind := by
    rcases Format.convert_choice_eq_ok.mp hKind with
      ⟨label, hLabel, hLookup⟩
    rw [Json.NamesKind, hIn]
    exact ⟨label, hLabel, Kind.lookup_names_iff.mp hLookup⟩
  cases item with
  | object members =>
      have hDistinct := hOrder.nodup_names
      have hMembers :=
        (Format.convert_record_object _ _ _ _ _).symm.trans hConvert
      rcases bind_eq_ok.mp hMembers with ⟨parts, hParts, hBuild⟩
      have hTells :=
        (Fields.convertMembers_eq_ok_iff (by decide) hDistinct).mp
          hParts
      rcases (Fields.tells_field_iff hDistinct).mp hTells.2.2.2 with
        ⟨_, ⟨value, hLookup, hKind⟩ | ⟨_, hAbsent⟩, _⟩
      · rw [← pure_eq_ok.mp hBuild] at hNamed ⊢
        exact hNamed hLookup hKind
      · exact absurd hAbsent nofun
  | array items =>
      rcases bind_eq_ok.mp hConvert with
        ⟨⟨parts, surplusItems⟩, hItems, hMade⟩
      cases items with
      | nil => exact absurd hItems nofun
      | cons first items =>
        rcases bind_eq_ok.mp hItems with ⟨id, _, hItems⟩
        rcases bind_eq_ok.mp hItems with
          ⟨⟨more, others⟩, hMore, hPair⟩
        cases items with
        | nil => exact absurd hMore nofun
        | cons value items =>
          rcases bind_eq_ok.mp hMore with ⟨kind, hKind, hMore⟩
          rcases bind_eq_ok.mp hMore with ⟨⟨last, _⟩, _, hLast⟩
          rcases Prod.mk.inj (pure_eq_ok.mp hPair) with ⟨hParts, _⟩
          rcases Prod.mk.inj (pure_eq_ok.mp hLast) with ⟨hRest, _⟩
          rw [← hParts, ← hRest] at hMade
          simp only [] at hMade
          split at hMade
          case isTrue =>
            rw [← pure_eq_ok.mp hMade] at hNamed ⊢
            exact hNamed rfl hKind
          case isFalse => exact absurd hMade nofun
  | _ => exact absurd hConvert nofun

end Questionnaire

------------------------------------------------------------
-- Forms that Were Read
------------------------------------------------------------

namespace Questionnaire

/-
  The items of a value are converted to some questions, one by
  one and each of the kind that its item names; there are none
  if there is no such member.
-/
def Json.ListsQuestions
    (value : Json)
    (questions : List Question) : Prop :=
  (value.get? "questions" = none ∧ questions = []) ∨
    ∃ items,
      value.get? "questions" = some (.array items) ∧
        List.Forall₂
          (fun item question =>
            Question.format.convert .fewerWanted item =
                .ok question ∧
              item.NamesKind question.kind)
          items questions

/- A list is converted item by item. -/
theorem Format.convert_list_eq_ok
    {α : Type}
    {surplus : Surplus}
    {format : Format α}
    {value : Json}
    {results : List α}
    (hConvert :
      (Format.list format).convert surplus value = .ok results) :
    ∃ items,
      value = .array items ∧
        List.Forall₂
          (fun item result =>
            format.convert surplus item = .ok result)
          items results := by
  cases value with
  | array items =>
      rw [convert] at hConvert
      exact ⟨items, rfl, mapM_eq_ok.mp hConvert⟩
  | _ => exact absurd hConvert nofun

namespace Form

variable {value : Json}
variable {form : Form}

/- The questions of a form that is read are those of the value. -/
theorem listsQuestions_of_ofJson
    (hOrder : value.InOrder)
    (hForm : ofJson value = .ok form) :
    value.ListsQuestions form.questions := by
  rcases (ofJson_eq_ok_iff hOrder).mp hForm with
    ⟨members, hValue, hContent, _, _⟩
  rw [hValue] at hOrder ⊢
  rcases (Fields.tells_field_iff hOrder.nodup_names).mp hContent with
    ⟨_, ⟨held, hLookup, hConvert⟩ | ⟨hLookup, hAbsent⟩, _⟩
  · rcases Format.convert_list_eq_ok hConvert with
      ⟨items, hHeld, hItems⟩
    rw [hHeld] at hLookup
    have hOrdered (item) (hItem : item ∈ items) : item.InOrder :=
      hOrder.item_of_get? hLookup hItem
    have hBoth :=
      (List.forall₂_and_left _ _).mpr ⟨hOrdered, hItems⟩
    refine .inr ⟨items, hLookup, hBoth.imp ?_⟩
    rintro item question ⟨hItem, hConvert⟩
    exact ⟨hConvert, Question.namesKind_of_convert hItem hConvert⟩
  · exact .inl ⟨hLookup, (Option.some.inj hAbsent).symm⟩

/- So none of its items has an unknown kind. -/
theorem unknownKind?_of_ofJson
    (hOrder : value.InOrder)
    (hForm : ofJson value = .ok form) :
    unknownKind? value = none := by
  rcases listsQuestions_of_ofJson hOrder hForm with
    ⟨hNone, _⟩ | ⟨items, hItems, hQuestions⟩
  · rw [unknownKind?, hNone]
    rfl
  · rw [unknownKind?, hItems]
    refine firstUnknownKind?_eq_none_iff.mpr (fun item hItem => ?_)
    rcases exists_right_of_mem hQuestions hItem with
      ⟨question, _, _, hNames⟩
    exact hNames.not_mislabelled

/- What is parsed has its members in order. -/
theorem inOrder_of_parse
    {source : String}
    (hValue : Json.parse source = .ok value) :
    value.InOrder := by
  rcases Json.parse_eq_ok_iff.mp hValue with ⟨written, _, hOrder⟩
  exact ⟨written, hOrder⟩

/- A text spells the form that its value stands for. -/
theorem parse_eq_ok_iff
    {source : String}
    (hValue : Json.parse source = .ok value) :
    parse source = .ok form ↔ ofJson value = .ok form := by
  constructor
  · intro hForm
    simp only [parse, hValue] at hForm
    split at hForm
    case h_1 => exact absurd hForm nofun
    case h_2 =>
      split at hForm
      case h_1 hRead =>
        rw [hRead, Except.ok.inj hForm]
      case h_2 => exact absurd hForm nofun
  · intro hForm
    simp only [parse, hValue, hForm,
      unknownKind?_of_ofJson (inOrder_of_parse hValue) hForm]

end Form

end Questionnaire
