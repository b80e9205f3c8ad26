import Questionnaire.Proofs.Form.Known
import Questionnaire.Proofs.Json.Variant

/-
  Reading a form passes over what is not known.

  Key definitions include:
    * `Form.knownNames`
    * `Form.Variant`

  A text whose members stand in another order and among others,
  or in which kinds and connectives have other labels, is read
  as the same form (`variant_is_same_form`).
-/

------------------------------------------------------------
-- Variants of a Form
------------------------------------------------------------

namespace Questionnaire

namespace Form

/- The names of the members that a form has. -/
def knownNames : List String :=
  companyFields.names ++ contentFields.names ++ endpointFields.names

/-
  The new value is a variant of the old one: further members
  have names that a form does not have, and the values of its
  own members are variants of what they were.
-/
def Variant
    (old new : Json) : Prop :=
  ∃ olds news,
    old = .object olds ∧ new = .object news ∧
      MembersVary knownNames
        (fun name old new =>
          companyFields.VariantAt name old new ∧
            contentFields.VariantAt name old new ∧
              endpointFields.VariantAt name old new)
        olds news

end Form

/- All labels of a kind are variants of each other. -/
theorem Kind.variant_of_labels
    {kind : Kind}
    {label other : String}
    (hLabel : label = kind.name ∨ kind.alias? = some label)
    (hOther : other = kind.name ∨ kind.alias? = some other) :
    Kind.format.Variant (.string label) (.string other) := by
  rw [← Kind.lookup_names_iff] at hLabel hOther
  exact .inr ⟨label, other, rfl, rfl, hLabel.trans hOther.symm⟩

/- And so are those of a connective. -/
theorem Connective.variant_of_labels :
    ∀ labels ∈ [["AND", "ALL"], ["OR", "ANY"]],
      ∀ label ∈ labels, ∀ other ∈ labels,
        Connective.format.Variant (.string label)
          (.string other) := by
  intro labels hLabels label hLabel other hOther
  have hNames :
      ∀ labels ∈ [["AND", "ALL"], ["OR", "ANY"]],
        ∀ label ∈ labels, ∀ other ∈ labels,
          Connective.names.lookup label =
            Connective.names.lookup other := by
    decide
  exact .inr ⟨label, other, rfl, rfl,
    hNames labels hLabels label hLabel other hOther⟩

namespace Form

/- Variants are the same form, group by group of its fields. -/
theorem ofJson_of_variant
    {old new : Json}
    (hVariant : Variant old new)
    {form : Form}
    (hForm : ofJson old.inKeyOrder = .ok form) :
    ofJson new.inKeyOrder = .ok form := by
  rcases hVariant with ⟨olds, news, hOld, hNew, hVary⟩
  have hDistinct :
      companyFields.isDistinct = true ∧
        contentFields.isDistinct = true ∧
          endpointFields.isDistinct = true := by
    decide
  have hKnown :
      companyFields.names ⊆ knownNames ∧
        contentFields.names ⊆ knownNames ∧
          endpointFields.names ⊆ knownNames := by
    decide
  rw [hOld] at hForm
  rw [hNew]
  rcases (ofJson_eq_ok_iff ⟨.object olds, rfl⟩).mp hForm with
    ⟨members, hMembers, hContent, hCompany, hEndpoints⟩
  rw [← Json.object.inj hMembers] at hContent hCompany hEndpoints
  refine (ofJson_eq_ok_iff ⟨.object news, rfl⟩).mpr
    ⟨_, rfl, ?_, ?_, ?_⟩
  · exact contentFields.tells_of_variant .fewerWanted hVary
      hDistinct.2.1 hKnown.2.1
      (fun _ _ _ _ hRelated => hRelated.2.1) hContent
  · exact companyFields.tells_of_variant .exactWanted hVary
      hDistinct.1 hKnown.1
      (fun _ _ _ _ hRelated => hRelated.1) hCompany
  · exact endpointFields.tells_of_variant .exactWanted hVary
      hDistinct.2.2 hKnown.2.2
      (fun _ _ _ _ hRelated => hRelated.2.2) hEndpoints

end Form

end Questionnaire

------------------------------------------------------------
-- Texts of One Form
------------------------------------------------------------

namespace Questionnaire

/-
  A text that spells a variant of what another one spells is the
  same form, if the other is one.  All labels of a kind are
  variants of each other, and so are those of a connective.
-/
theorem variant_is_same_form :
    (∀ source other old new form,
      Json.parseWritten source = .ok old →
        Json.parseWritten other = .ok new →
          Form.Variant old new →
            Form.parse source = .ok form →
              Form.parse other = .ok form) ∧
      (∀ (kind : Kind) (label other : String),
        (label = kind.name ∨ kind.alias? = some label) →
          (other = kind.name ∨ kind.alias? = some other) →
            Kind.format.Variant (.string label) (.string other)) ∧
      ∀ labels ∈ [["AND", "ALL"], ["OR", "ANY"]],
        ∀ label ∈ labels, ∀ other ∈ labels,
          Connective.format.Variant (.string label)
            (.string other) := by
  refine ⟨?_, fun _ _ _ => Kind.variant_of_labels,
    Connective.variant_of_labels⟩
  intro source other old new form hOld hNew hVariant hForm
  have hSource := Json.parse_eq_ok_iff.mpr ⟨old, hOld, rfl⟩
  have hOther := Json.parse_eq_ok_iff.mpr ⟨new, hNew, rfl⟩
  rw [Form.parse_eq_ok_iff hSource] at hForm
  rw [Form.parse_eq_ok_iff hOther]
  exact Form.ofJson_of_variant hVariant hForm

/- The least that a form of one question has to say. -/
def Json.brief : Json :=
  .object [
    ("companyName", .string "Acme"),
    ("slug", .string "acme"),
    ("questions",
      .array [
        .object [
          ("id", .string "name"),
          ("type", .string "text"),
          ("label", .string "Name")]]),
    ("qualificationCriteria", .object [("logic", .string "AND")])]

/-
  The same backwards, with other labels, and with members whose
  names are known elsewhere.
-/
def Json.crowded : Json :=
  .object [
    ("type", .string "quiz"),
    ("qualificationCriteria",
      .object [("value", .null), ("logic", .string "ALL")]),
    ("questions",
      .array [
        .object [
          ("slug", .array []),
          ("label", .string "Name"),
          ("type", .string "short-text"),
          ("id", .string "name")]]),
    ("slug", .string "acme"),
    ("companyName", .string "Acme")]

/- The form that both are. -/
def Form.brief : Form where
  company := { name := "Acme", slug := "acme" }
  questions := [{ id := "name", kind := .shortText, label := "Name" }]

/- Members may be turned around, and others put before them. -/
theorem MembersVary.of_reversed
    {known : List String}
    {related : String → Json → Json → Prop}
    {olds kept inserted : List (String × Json)}
    (hKept : RowsMatch related olds kept)
    (hInserted : ∀ member ∈ inserted, member.1 ∉ known)
    (hDistinct : ((inserted ++ kept.reverse).map Prod.fst).Nodup) :
    MembersVary known related olds (inserted ++ kept.reverse) :=
  ⟨kept, inserted, hKept, hInserted,
    List.perm_append_comm.trans
      ((List.reverse_perm kept).append_right inserted),
    hDistinct⟩

theorem Form.variant_crowded :
    Form.Variant Json.brief Json.crowded := by
  have hQuestion :
      Question.format.Variant
        (.object [
          ("id", .string "name"),
          ("type", .string "text"),
          ("label", .string "Name")])
        (.object [
          ("slug", .array []),
          ("label", .string "Name"),
          ("type", .string "short-text"),
          ("id", .string "name")]) := by
    refine .inr (.inl ⟨_, _, rfl, rfl, ?_⟩)
    refine @MembersVary.of_reversed _ _ _
      [("id", .string "name"), ("type", .string "short-text"),
        ("label", .string "Name")]
      [("slug", .array [])] ?_ (by decide) (by decide)
    refine .cons ⟨rfl, .refl _ _⟩
      (.cons ⟨rfl, ?_⟩ (.cons ⟨rfl, .refl _ _⟩ .nil))
    exact @Kind.variant_of_labels .shortText _ _ (.inl rfl) (.inr rfl)
  have hCriteria :
      Criteria.format.Variant
        (.object [("logic", .string "AND")])
        (.object [("value", .null), ("logic", .string "ALL")]) := by
    refine .inr (.inl ⟨_, _, rfl, rfl, ?_⟩)
    refine @MembersVary.of_reversed _ _ _
      [("logic", .string "ALL")] [("value", .null)] ?_
      (by decide) (by decide)
    refine .cons ⟨rfl, ?_⟩ .nil
    exact Connective.variant_of_labels ["AND", "ALL"] (by decide)
      "AND" (by decide) "ALL" (by decide)
  have hQuestions :
      (Format.list Question.format).Variant
        (.array [_]) (.array [_]) :=
    .inr ⟨_, _, rfl, rfl, .cons hQuestion .nil⟩
  have hApart :
      "questions" ∉ companyFields.names ∧
        "questions" ∉ endpointFields.names ∧
        "qualificationCriteria" ∉ companyFields.names ∧
          "qualificationCriteria" ∉ endpointFields.names := by
    decide
  refine ⟨_, _, rfl, rfl, ?_⟩
  refine @MembersVary.of_reversed _ _ _
    [("companyName", .string "Acme"), ("slug", .string "acme"),
      ("questions", _), ("qualificationCriteria", _)]
    [("type", .string "quiz")] ?_ (by decide) (by decide)
  refine .cons ⟨rfl, .refl _ _, .refl _ _, .refl _ _⟩
    (.cons ⟨rfl, .refl _ _, .refl _ _, .refl _ _⟩
      (.cons ⟨rfl, ?_, ?_, ?_⟩
        (.cons ⟨rfl, ?_, ?_, ?_⟩ .nil)))
  · exact .of_not_mem _ _ companyFields hApart.1
  · exact hQuestions
  · exact .of_not_mem _ _ endpointFields hApart.2.1
  · exact .of_not_mem _ _ companyFields hApart.2.2.1
  · exact hCriteria
  · exact .of_not_mem _ _ endpointFields hApart.2.2.2

theorem crowded_is_brief :
    Form.parse Json.brief.compact = .ok Form.brief ∧
      Form.parse Json.crowded.compact = .ok Form.brief := by
  have hFits :
      Json.brief.Fits Json.depthLimit ∧
        Json.crowded.Fits Json.depthLimit := by
    constructor
    · simp [Json.brief, Json.depthLimit, Json.fits_array_iff,
        Json.fits_object_iff, Json.Fits.string]
    · simp [Json.crowded, Json.depthLimit, Json.fits_array_iff,
        Json.fits_object_iff, Json.Fits.string, Json.Fits.null]
  have hBrief : Form.parse Json.brief.compact = .ok Form.brief :=
    (Form.parse_eq_ok_iff (Json.parse_compact hFits.1)).mpr rfl
  exact ⟨hBrief,
    variant_is_same_form.1 _ _ _ _ _
      (Json.parseWritten_compact hFits.1)
      (Json.parseWritten_compact hFits.2)
      Form.variant_crowded hBrief⟩

end Questionnaire
