import Questionnaire.Proofs.Json.Told

/-
  Variants of a value, which a format does not tell apart.

  Key definitions include:
    * `MembersVary`
    * `Format.Variant`
    * `Fields.VariantAt`
    * `Format.isDistinct`
    * `Format.Follows`

  In a variant the members of the records may stand in another
  order and among others that are not known, and a choice may
  have another of its labels.  Whatever a value is converted to,
  its variants are (`Format.follows_of_variant`).
-/

------------------------------------------------------------
-- Members in Another Order, among Others
------------------------------------------------------------

namespace Questionnaire

/-
  Some members become others: their values are related at each
  name, further members with names that are not known are put
  among them, and they are put in any order.  No name is there
  twice.
-/
def MembersVary
    (known : List String)
    (related : String → Json → Json → Prop)
    (olds news : List (String × Json)) : Prop :=
  ∃ kept inserted,
    RowsMatch related olds kept ∧
      (∀ member ∈ inserted, member.1 ∉ known) ∧
      news.Perm (kept ++ inserted) ∧
      (news.map Prod.fst).Nodup

namespace MembersVary

variable {known : List String}
variable {related : String → Json → Json → Prop}
variable {olds news : List (String × Json)}

theorem nodup_news
    (hVary : MembersVary known related olds news) :
    (news.map Prod.fst).Nodup := by
  rcases hVary with ⟨_, _, _, _, _, hDistinct⟩
  exact hDistinct

/- Nor was any name there twice before. -/
theorem nodup_olds
    (hVary : MembersVary known related olds news) :
    (olds.map Prod.fst).Nodup := by
  rcases hVary with ⟨kept, inserted, hKept, _, hPerm, hDistinct⟩
  have hAll := (hPerm.map Prod.fst).nodup_iff.mp hDistinct
  rw [List.map_append, ← hKept.keys_eq] at hAll
  exact hAll.of_append_left

/- At a known name there is something related, or nothing. -/
theorem lookup
    (hVary : MembersVary known related olds news)
    {name : String}
    (hName : name ∈ known) :
    (olds.lookup name = none ∧ news.lookup name = none) ∨
      ∃ old new,
        olds.lookup name = some old ∧
          news.lookup name = some new ∧ related name old new := by
  rcases hVary with
    ⟨kept, inserted, hKept, hUnknown, hPerm, hDistinct⟩
  have hNone : inserted.lookup name = none := by
    refine List.lookup_eq_none_iff.mpr (fun member hMember => ?_)
    refine bne_iff_ne.mpr (fun hEq => ?_)
    exact hUnknown member hMember (hEq ▸ hName)
  have hNews : news.lookup name = kept.lookup name := by
    rw [lookup_eq_of_perm hDistinct hPerm, List.lookup_append, hNone,
      Option.or_none]
  rw [hNews]
  exact hKept.lookup name

end MembersVary

end Questionnaire

------------------------------------------------------------
-- Variants of a Format
------------------------------------------------------------

namespace Questionnaire

/- Two values are the same but for the order of members. -/
def Json.Reordered
    (old new : Json) : Prop :=
  old.inKeyOrder = new.inKeyOrder

mutual

/-
  The new value is a variant of the old one: the same but for
  the order of members, or else the same choice, a list of
  variants, or a record with variants in its fields.
-/
def Format.Variant : {α : Type} → Format α → Json → Json → Prop
  | _, .text, old, new => old.Reordered new
  | _, .flag, old, new => old.Reordered new
  | _, .integer, old, new => old.Reordered new
  | _, .natural _, old, new => old.Reordered new
  | _, .choice _ names _ _, old, new =>
      old.Reordered new ∨
        ∃ label other,
          old.label? = some label ∧ new.label? = some other ∧
            names.lookup label = names.lookup other
  | _, .optional format, old, new =>
      (old = .null ↔ new = .null) ∧ format.Variant old new
  | _, .list format, old, new =>
      old.Reordered new ∨
        ∃ olds news,
          old = .array olds ∧ new = .array news ∧
            List.Forall₂ format.Variant olds news
  | _, .record _ fields _ _, old, new =>
      old.Reordered new ∨
        (∃ olds news,
          old = .object olds ∧ new = .object news ∧
            MembersVary fields.names
              (fun name old new => fields.VariantAt name old new)
              olds news) ∨
          ∃ olds news,
            old = .array olds ∧ new = .array news ∧
              fields.VariantItems olds news

/- The new value of a member is a variant of the old one. -/
def Fields.VariantAt
    (name : String) :
    {α σ : Type} → Fields α σ → Json → Json → Prop
  | _, _, .done, _, _ => True
  | _, _, .field fieldName format _ _ rest, old, new =>
      if fieldName = name then
        format.Variant old new
      else
        rest.VariantAt name old new

/- The new fields of a list are variants of the old ones. -/
def Fields.VariantItems :
    {α σ : Type} → Fields α σ → List Json → List Json → Prop
  | _, _, .done, olds, news =>
      itemsInKeyOrder olds = itemsInKeyOrder news
  | _, _, .field _ _ _ _ _, [], [] => True
  | _, _, .field _ format _ _ rest, old :: olds, new :: news =>
      format.Variant old new ∧ rest.VariantItems olds news
  | _, _, .field _ _ _ _ _, _, _ => False

end

/- Every value is a variant of itself. -/
theorem Format.Variant.refl
    (value : Json) :
    {α : Type} →
    (format : Format α) →
    format.Variant value value
  | _, .text => rfl
  | _, .flag => rfl
  | _, .integer => rfl
  | _, .natural _ => rfl
  | _, .choice _ _ _ _ => .inl rfl
  | _, .optional format => ⟨Iff.rfl, .refl value format⟩
  | _, .list _ => .inl rfl
  | _, .record _ _ _ _ => .inl rfl

namespace Fields

theorem VariantAt.refl
    {name : String}
    (value : Json) :
    {α σ : Type} →
    (fields : Fields α σ) →
    fields.VariantAt name value value
  | _, _, .done => trivial
  | _, _, .field fieldName format _ _ rest => by
      rw [VariantAt]
      split
      case isTrue => exact .refl value format
      case isFalse => exact .refl value rest

/- A member that no field is named like may become any other. -/
theorem VariantAt.of_not_mem
    {name : String}
    (old new : Json) :
    {α σ : Type} →
    (fields : Fields α σ) →
    name ∉ fields.names →
    fields.VariantAt name old new
  | _, _, .done, _ => trivial
  | _, _, .field fieldName format _ _ rest, hName => by
      rw [names, List.mem_cons, not_or] at hName
      rw [VariantAt, if_neg (Ne.symm hName.1)]
      exact .of_not_mem old new rest hName.2

end Fields

mutual

/- No record has two fields of one name. -/
def Format.isDistinct : {α : Type} → Format α → Bool
  | _, .text => true
  | _, .flag => true
  | _, .integer => true
  | _, .natural _ => true
  | _, .choice _ _ _ _ => true
  | _, .optional format => format.isDistinct
  | _, .list format => format.isDistinct
  | _, .record _ fields _ _ =>
      decide fields.names.Nodup && fields.isDistinct

/- Neither has any record among the fields. -/
def Fields.isDistinct : {α σ : Type} → Fields α σ → Bool
  | _, _, .done => true
  | _, _, .field _ format _ _ rest =>
      format.isDistinct && rest.isDistinct

end

end Questionnaire

------------------------------------------------------------
-- Values that Follow Others
------------------------------------------------------------

namespace Questionnaire

/- A label stays where it is. -/
theorem Json.label?_inKeyOrder
    {value : Json}
    {label : String}
    (hLabel : value.label? = some label) :
    value.inKeyOrder.label? = some label := by
  cases value with
  | object members =>
      rcases members with _ | ⟨⟨_, content⟩, _ | _⟩
      · cases hLabel
      · cases content with
        | null => exact hLabel
        | _ => cases hLabel
      · simp [label?] at hLabel
  | array items => cases hLabel
  | _ => exact hLabel

namespace Format

variable {α β σ : Type}
variable {surplus : Surplus}
variable {old new : Json}

/- What is not nothing is converted as something. -/
theorem convert_optional_of_ne
    {format : Format α}
    {value : Json}
    (hNull : value ≠ .null) :
    (Format.optional format).convert surplus value =
      (format.convert surplus value).map some := by
  rw [convert]
  exact hNull

/- Whatever the old value is converted to, the new one is. -/
def Follows
    (surplus : Surplus)
    (format : Format α)
    (old new : Json) : Prop :=
  ∀ value,
    format.convert surplus old.inKeyOrder = .ok value →
      format.convert surplus new.inKeyOrder = .ok value

namespace Follows

/- The order of members makes no difference. -/
theorem of_reordered
    {format : Format α}
    (hReordered : old.Reordered new) :
    format.Follows surplus old new := by
  intro value hConvert
  rw [← hReordered]
  exact hConvert

/- Neither does another label of the same choice. -/
theorem choice
    {title : String}
    {names : List (String × α)}
    {known : List String}
    {nameOf : α → String}
    {label other : String}
    (hLabel : old.label? = some label)
    (hOther : new.label? = some other)
    (hSame : names.lookup label = names.lookup other) :
    (Format.choice title names known nameOf).Follows surplus
      old new := by
  intro value hConvert
  rw [convert_choice_eq_ok] at hConvert ⊢
  rcases hConvert with ⟨found, hFound, hLookup⟩
  rw [Json.label?_inKeyOrder hLabel] at hFound
  rw [← Option.some.inj hFound, hSame] at hLookup
  exact ⟨other, Json.label?_inKeyOrder hOther, hLookup⟩

theorem optional
    {format : Format α}
    (hNull : old = .null ↔ new = .null)
    (hFollows : format.Follows surplus old new) :
    (Format.optional format).Follows surplus old new := by
  intro value? hConvert
  by_cases hNothing : old = .null
  case pos =>
    rw [hNull.mp hNothing]
    rw [hNothing] at hConvert
    exact hConvert
  case neg =>
    have hOld := Json.inKeyOrder_ne_null hNothing
    have hNew := Json.inKeyOrder_ne_null (mt hNull.mpr hNothing)
    rw [convert_optional_of_ne hOld, map_eq_ok] at hConvert
    rw [convert_optional_of_ne hNew, map_eq_ok]
    rcases hConvert with ⟨value, hValue, hSome⟩
    exact ⟨value, hFollows value hValue, hSome⟩

theorem list
    {format : Format α}
    {olds news : List Json}
    (hItems : List.Forall₂ (format.Follows surplus) olds news) :
    (Format.list format).Follows surplus
      (.array olds) (.array news) := by
  intro values hConvert
  rw [Json.inKeyOrder, convert, mapM_eq_ok, itemsInKeyOrder_eq_map,
    List.forall₂_map_left_iff] at hConvert
  rw [Json.inKeyOrder, convert, mapM_eq_ok, itemsInKeyOrder_eq_map,
    List.forall₂_map_left_iff]
  exact forall₂_transfer hItems hConvert
    (fun _ _ value hItem hValue => hItem value hValue)

/- A record follows if its members tell what the old ones told. -/
theorem object
    {title : String}
    {fields : Fields β σ}
    {build : β → α}
    {parts : α → β}
    {olds news : List (String × Json)}
    (hNames : fields.names.Nodup)
    (hTells :
      ∀ values,
        fields.Tells surplus
            (Table.ofList (membersInKeyOrder olds)).rows values →
          fields.Tells surplus
            (Table.ofList (membersInKeyOrder news)).rows values) :
    (Format.record title fields build parts).Follows surplus
      (.object olds) (.object news) := by
  intro value hConvert
  rw [Json.inKeyOrder, convert_record_object, bind_eq_ok] at hConvert
  rw [Json.inKeyOrder, convert_record_object, bind_eq_ok]
  rcases hConvert with ⟨values, hValues, hBuild⟩
  have hOlds :=
    (Fields.convertMembers_eq_ok_iff hNames
      (Table.ofList _).ascending.nodup_keys).mp hValues
  exact ⟨values, Fields.convertMembers_of_tells (hTells values hOlds),
    hBuild⟩

/- Or if its items are converted to what the old ones were. -/
theorem array
    {title : String}
    {fields : Fields β σ}
    {build : β → α}
    {parts : α → β}
    {olds news : List Json}
    (hItems :
      ∀ result,
        fields.convertItems surplus (recordOfCount title fields.count)
            (itemsInKeyOrder olds) 0 = .ok result →
          fields.convertItems surplus
              (recordOfCount title fields.count)
              (itemsInKeyOrder news) 0 = .ok result) :
    (Format.record title fields build parts).Follows surplus
      (.array olds) (.array news) := by
  intro value hConvert
  rw [Json.inKeyOrder] at hConvert ⊢
  rcases bind_eq_ok.mp hConvert with
    ⟨⟨values, others⟩, hValues, hMade⟩
  refine bind_eq_ok.mpr ⟨(values, others), hItems _ hValues, ?_⟩
  simp only [] at hMade ⊢
  split at hMade
  case isTrue hNone =>
    rw [if_pos hNone]
    exact hMade
  -- With items that are too many there would be no record.
  case isFalse => exact absurd hMade nofun

end Follows

end Format

end Questionnaire

------------------------------------------------------------
-- Converting Variants
------------------------------------------------------------

namespace Questionnaire

mutual

/-
  The variants of a value are converted to what it is.  The
  induction is on the format, one case for each way in which a
  value may follow another.
-/
theorem Format.follows_of_variant
    (surplus : Surplus) :
    {α : Type} →
    (format : Format α) →
    format.isDistinct = true →
    {old new : Json} →
    format.Variant old new →
    format.Follows surplus old new
  | _, .text, _, _, _, hVariant => .of_reordered hVariant
  | _, .flag, _, _, _, hVariant => .of_reordered hVariant
  | _, .integer, _, _, _, hVariant => .of_reordered hVariant
  | _, .natural _, _, _, _, hVariant => .of_reordered hVariant
  | _, .choice _ _ _ _, _, _, _, hVariant => by
      rw [Format.Variant] at hVariant
      rcases hVariant with
        hSame | ⟨label, other, hLabel, hOther, hSame⟩
      · exact .of_reordered hSame
      · exact .choice hLabel hOther hSame
  | _, .optional format, hDistinct, _, _, hVariant => by
      rw [Format.Variant] at hVariant
      rw [Format.isDistinct] at hDistinct
      exact .optional hVariant.1
        (format.follows_of_variant surplus hDistinct hVariant.2)
  | _, .list format, hDistinct, _, _, hVariant => by
      rw [Format.Variant] at hVariant
      rw [Format.isDistinct] at hDistinct
      rcases hVariant with hSame | ⟨olds, news, rfl, rfl, hItems⟩
      · exact .of_reordered hSame
      · exact .list (hItems.imp (fun _ _ hItem =>
          format.follows_of_variant surplus hDistinct hItem))
  | _, .record title fields _ _, hDistinct, _, _, hVariant => by
      rw [Format.Variant] at hVariant
      rw [Format.isDistinct, Bool.and_eq_true, decide_eq_true_eq]
        at hDistinct
      rcases hVariant with
        hSame | ⟨olds, news, rfl, rfl, hMembers⟩ |
          ⟨olds, news, rfl, rfl, hItems⟩
      · exact .of_reordered hSame
      · exact .object hDistinct.1 (fun _ hTells =>
          fields.tells_of_variant surplus hMembers hDistinct.2
            (fun _ hName => hName) (fun _ _ _ _ hRelated => hRelated)
            hTells)
      · exact .array (fun _ hValues =>
          fields.convertItems_of_variant surplus _ hDistinct.2 hItems
            hValues)

/- The members of a variant tell the values of the fields. -/
theorem Fields.tells_of_variant
    (surplus : Surplus)
    {known : List String}
    {related : String → Json → Json → Prop}
    {olds news : List (String × Json)}
    (hVary : MembersVary known related olds news) :
    {α σ : Type} →
    (fields : Fields α σ) →
    fields.isDistinct = true →
    fields.names ⊆ known →
    (∀ name ∈ fields.names, ∀ old new,
      related name old new → fields.VariantAt name old new) →
    {values : α} →
    fields.Tells surplus
      (Table.ofList (membersInKeyOrder olds)).rows values →
    fields.Tells surplus
      (Table.ofList (membersInKeyOrder news)).rows values
  | _, _, .done, _, _, _, (), _ => trivial
  | _, _, .field name format absent isOmitted rest, hDistinct,
      hKnown, hRelated, (value, more), hTells => by
      rw [Fields.isDistinct, Bool.and_eq_true] at hDistinct
      rw [Fields.names] at hKnown hRelated
      rw [Fields.tells_field_iff
        (Table.ofList _).ascending.nodup_keys] at hTells ⊢
      rcases hTells with ⟨hName, hValue, hRest⟩
      refine ⟨hName, ?_, ?_⟩
      · have hIsKnown := hKnown List.mem_cons_self
        rw [Json.lookup_inKeyOrder hVary.nodup_olds] at hValue
        rw [Json.lookup_inKeyOrder hVary.nodup_news]
        rcases hVary.lookup hIsKnown with
          ⟨hNoOld, hNoNew⟩ | ⟨old, new, hOld, hNew, hPair⟩
        · rw [hNoOld] at hValue
          rw [hNoNew]
          exact hValue
        · rw [hOld] at hValue
          rw [hNew]
          have hVariant :=
            hRelated name List.mem_cons_self old new hPair
          rw [Fields.VariantAt, if_pos rfl] at hVariant
          rcases hValue with ⟨held, hHeld, hConvert⟩ | ⟨hNone, _⟩
          · rw [← Option.some.inj hHeld] at hConvert
            exact .inl ⟨_, rfl,
              format.follows_of_variant surplus hDistinct.1 hVariant
                value hConvert⟩
          · exact absurd hNone nofun
      · refine rest.tells_of_variant surplus hVary hDistinct.2
          (fun _ hOther => hKnown (List.mem_cons_of_mem _ hOther))
          (fun other hOther old new hPair => ?_) hRest
        have hVariant :=
          hRelated other (List.mem_cons_of_mem _ hOther) old new hPair
        -- The field itself has another name than those that follow.
        have hNe : name ≠ other := fun hEq => hName (hEq ▸ hOther)
        rw [Fields.VariantAt, if_neg hNe] at hVariant
        exact hVariant

/- And so do its items, if it is a list. -/
theorem Fields.convertItems_of_variant
    (surplus : Surplus)
    (wanted : String) :
    {α σ : Type} →
    (fields : Fields α σ) →
    fields.isDistinct = true →
    {olds news : List Json} →
    fields.VariantItems olds news →
    {index : Nat} →
    {result : α × List Json} →
    fields.convertItems surplus wanted (itemsInKeyOrder olds) index =
      .ok result →
    fields.convertItems surplus wanted (itemsInKeyOrder news) index =
      .ok result
  | _, _, .done, _, olds, news, hItems, index, result, hConvert => by
      rw [Fields.VariantItems] at hItems
      rw [← hItems]
      exact hConvert
  | _, _, .field name format absent isOmitted rest, hDistinct,
      old :: olds, new :: news, hItems, index, result, hConvert => by
      rw [Fields.isDistinct, Bool.and_eq_true] at hDistinct
      rw [Fields.VariantItems] at hItems
      rcases bind_eq_ok.mp hConvert with ⟨value, hValue, hRest⟩
      rcases bind_eq_ok.mp hRest with ⟨⟨more, others⟩, hMore, hMade⟩
      have hNew :=
        format.follows_of_variant surplus hDistinct.1 hItems.1
          value hValue
      have hNews :=
        rest.convertItems_of_variant surplus wanted hDistinct.2
          hItems.2 hMore
      exact bind_eq_ok.mpr ⟨value, hNew,
        bind_eq_ok.mpr ⟨(more, others), hNews, hMade⟩⟩
  | _, _, .field _ _ _ _ _, _, [], [], _, _, _, hConvert => hConvert
  | _, _, .field _ _ _ _ _, _, [], _ :: _, hItems, _, _, _ =>
      absurd hItems id
  | _, _, .field _ _ _ _ _, _, _ :: _, [], hItems, _, _, _ =>
      absurd hItems id

end

end Questionnaire
