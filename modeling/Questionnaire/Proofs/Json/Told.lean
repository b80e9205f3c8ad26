import Questionnaire.Proofs.Json.Converted
import Questionnaire.Proofs.Json.Ordered
import Questionnaire.Proofs.Results

/-
  What a conversion that succeeds tells of the value.

  Key definitions include:
    * `Json.label?`

  A choice has the value that a label stands for
  (`Format.convert_choice_eq_ok`).  Fields with names of their
  own have the values that members tell, if no name among these
  is repeated, and only such (`Fields.convertMembers_eq_ok_iff`).
-/

------------------------------------------------------------
-- Choices
------------------------------------------------------------

namespace Questionnaire

variable {α : Type}
variable {names : List (String × α)}
variable {known : List String}
variable {value : α}

/- A name stands for the value that is found at it. -/
theorem choiceOf_eq_ok
    {name : String} :
    choiceOf names known name = .ok value ↔
      names.lookup name = some value := by
  rw [choiceOf]
  cases names.lookup name with
  | none => simp
  | some other => simp

/- The label by which a value names a choice. -/
def Json.label? : Json → Option String
  | .string label => some label
  | .object [(label, .null)] => some label
  | _ => none

/- A choice is made by a label that stands for it. -/
theorem Format.convert_choice_eq_ok
    {title : String}
    {nameOf : α → String}
    {surplus : Surplus}
    {held : Json} :
    (Format.choice title names known nameOf).convert surplus held =
        .ok value ↔
      ∃ label,
        held.label? = some label ∧
          names.lookup label = some value := by
  cases held with
  | string label =>
      rw [convert, choiceOf_eq_ok]
      simp [Json.label?]
  | object members =>
      rcases members with _ | ⟨⟨label, content⟩, _ | _⟩
      · simp [convert, Json.label?]
      · rw [convert, bind_eq_ok]
        simp only [choiceOf_eq_ok]
        cases content with
        | null => simp [Json.label?, pure_eq_ok]
        | _ =>
            simp [Json.label?, throw, throwThe,
              MonadExceptOf.throw]
      · simp [convert, Json.label?]
  | _ => simp [convert, Json.label?]

end Questionnaire

------------------------------------------------------------
-- Members that Were Converted
------------------------------------------------------------

namespace Questionnaire

namespace Fields

variable {α β σ : Type}
variable {surplus : Surplus}

/- A member that no field is named like changes no slot. -/
theorem convertInto_of_not_mem
    {name : String}
    (value : Json) :
    {α σ : Type} →
    (fields : Fields α σ) →
    (slots : σ) →
    name ∉ fields.names →
    fields.convertInto surplus name value slots = .ok slots
  | _, _, .done, (), _ => rfl
  | _, _, .field other _ _ _ rest, (slot, slots), hName => by
      rw [names, List.mem_cons, not_or] at hName
      rw [convertInto, if_neg (Ne.symm hName.1),
        convertInto_of_not_mem value rest slots hName.2]
      rfl

/-
  A member fills the slot of the field that is named like it,
  and leaves the slot of any other field as it is.  The other
  slots are those of a step for them alone.
-/
theorem convertInto_field
    {name key : String}
    {format : Format α}
    {absent : Option α}
    {isOmitted : α → Bool}
    {rest : Fields β σ}
    (hName : name ∉ rest.names)
    {held : Json}
    {slot next : Option α}
    {slots more : σ}
    (hStep :
      (Fields.field name format absent isOmitted rest).convertInto
          surplus key held (slot, slots) =
        .ok (next, more)) :
    rest.convertInto surplus key held slots = .ok more ∧
      (key = name →
        ∃ value,
          format.convert surplus held = .ok value ∧
            next = some value) ∧
      (key ≠ name → next = slot) := by
  rw [convertInto] at hStep
  by_cases hEq : name = key
  case pos =>
    rw [if_pos hEq, bind_eq_ok] at hStep
    rcases hStep with ⟨value, hValue, hStep⟩
    rcases Prod.mk.inj (pure_eq_ok.mp hStep) with ⟨hNext, hMore⟩
    rw [← hMore]
    exact ⟨convertInto_of_not_mem held rest slots (hEq ▸ hName),
      fun _ => ⟨value, hValue, hNext.symm⟩,
      fun hNe => absurd hEq.symm hNe⟩
  case neg =>
    rw [if_neg hEq, bind_eq_ok] at hStep
    rcases hStep with ⟨kept, hKept, hStep⟩
    rcases Prod.mk.inj (pure_eq_ok.mp hStep) with ⟨hNext, hMore⟩
    rw [← hMore]
    exact ⟨hKept, fun hSame => absurd hSame.symm hEq,
      fun _ => hNext.symm⟩

/-
  After a run over all members the first slot holds what the
  member of that name was converted to, and the other slots are
  those of a run for them alone.
-/
theorem foldlM_field
    {name : String}
    {format : Format α}
    {absent : Option α}
    {isOmitted : α → Bool}
    {rest : Fields β σ}
    (hName : name ∉ rest.names)
    {members : List (String × Json)}
    (hDistinct : (members.map Prod.fst).Nodup)
    {slot filled : Option α}
    {slots others : σ}
    (hRun :
      members.foldlM
          (fun slots (key, value) =>
            (Fields.field name format absent isOmitted
              rest).convertInto surplus key value slots)
          (slot, slots) =
        .ok (filled, others)) :
    members.foldlM
          (fun slots (key, value) =>
            rest.convertInto surplus key value slots)
          slots =
        .ok others ∧
      (∀ member ∈ members, member.1 = name →
        ∃ value,
          format.convert surplus member.2 = .ok value ∧
            filled = some value) ∧
      ((∀ member ∈ members, member.1 ≠ name) → filled = slot) := by
  induction members generalizing slot slots with
  | nil =>
      rcases Prod.mk.inj (Except.ok.inj hRun) with ⟨hSlot, hSlots⟩
      rw [hSlots]
      exact ⟨rfl, fun _ hMem => absurd hMem List.not_mem_nil,
        fun _ => hSlot.symm⟩
  | cons member members ih =>
      rw [List.map_cons, List.nodup_cons] at hDistinct
      rw [List.foldlM_cons, bind_eq_ok] at hRun
      rcases hRun with ⟨⟨next, more⟩, hStep, hRun⟩
      rcases convertInto_field hName hStep with ⟨hMore, hOwn, hOther⟩
      rcases ih hDistinct.2 hRun with ⟨hRest, hFound, hAbsent⟩
      -- No later member of this name replaces what the slot holds.
      have hLast (hSame : member.1 = name) : filled = next := by
        refine hAbsent (fun other hMem hAgain => hDistinct.1 ?_)
        exact List.mem_map.mpr ⟨other, hMem, hAgain.trans hSame.symm⟩
      refine ⟨?_, List.forall_mem_cons.mpr ⟨?_, hFound⟩, ?_⟩
      · rw [List.foldlM_cons]
        exact bind_eq_ok.mpr ⟨more, hMore, hRest⟩
      · intro hSame
        rw [hLast hSame]
        exact hOwn hSame
      · intro hNone
        rcases List.forall_mem_cons.mp hNone with ⟨hHead, hTail⟩
        rw [hAbsent hTail]
        exact hOther hHead

/- Slots that were filled from members have what these tell. -/
theorem tells_of_run
    {members : List (String × Json)}
    (hDistinct : (members.map Prod.fst).Nodup) :
    {α σ : Type} →
    (fields : Fields α σ) →
    fields.names.Nodup →
    {slots : σ} →
    {values : α} →
    members.foldlM
        (fun slots (key, value) =>
          fields.convertInto surplus key value slots)
        fields.vacant =
      .ok slots →
    fields.fill slots = .ok values →
    fields.Tells surplus members values
  | _, _, .done, _, (), (), _, _ => trivial
  | _, _, .field name format absent isOmitted rest, hNames,
      (filled, others), (value, more), hRun, hFill => by
      rw [names, List.nodup_cons] at hNames
      rcases foldlM_field hNames.1 hDistinct hRun with
        ⟨hRest, hFound, hAbsent⟩
      rw [fill] at hFill
      cases hSlot : filled <|> absent with
      | none =>
          rw [hSlot] at hFill
          cases hFill
      | some held =>
          rw [hSlot] at hFill
          rcases bind_eq_ok.mp hFill with ⟨last, hLast, hPair⟩
          rcases Prod.mk.inj (pure_eq_ok.mp hPair) with
            ⟨hValue, hMore⟩
          rw [hMore] at hLast
          rw [hValue] at hSlot
          refine ⟨hNames.1, ?_, ?_,
            tells_of_run hDistinct rest hNames.2 hRest hLast⟩
          · intro member hMember hEq
            rcases hFound member hMember hEq with
              ⟨found, hConvert, hFilled⟩
            rw [hFilled] at hSlot
            rw [hConvert]
            exact congrArg Except.ok (Option.some.inj hSlot)
          · intro hNone
            rw [hAbsent hNone] at hSlot
            exact hSlot

/-
  Fields have some values exactly if members with distinct names
  tell them.
-/
theorem convertMembers_eq_ok_iff
    {fields : Fields α σ}
    (hNames : fields.names.Nodup)
    {members : List (String × Json)}
    (hDistinct : (members.map Prod.fst).Nodup)
    {values : α} :
    fields.convertMembers surplus members = .ok values ↔
      fields.Tells surplus members values := by
  constructor
  · intro hConvert
    rcases bind_eq_ok.mp hConvert with ⟨slots, hRun, hFill⟩
    exact tells_of_run hDistinct fields hNames hRun hFill
  · exact convertMembers_of_tells

/-
  Of members with distinct names that of a field tells its
  value, and where there is none the field has its value when
  absent.
-/
theorem tells_field_iff
    {name : String}
    {format : Format α}
    {absent : Option α}
    {isOmitted : α → Bool}
    {rest : Fields β σ}
    {members : List (String × Json)}
    (hDistinct : (members.map Prod.fst).Nodup)
    {value : α}
    {more : β} :
    (Fields.field name format absent isOmitted rest).Tells surplus
        members (value, more) ↔
      name ∉ rest.names ∧
        ((∃ held,
            members.lookup name = some held ∧
              format.convert surplus held = .ok value) ∨
          (members.lookup name = none ∧ absent = some value)) ∧
        rest.Tells surplus members more := by
  rw [Tells]
  refine and_congr_right (fun _ => ?_)
  cases hLookup : members.lookup name with
  | some held =>
      have hMember := mem_of_lookup_eq_some hLookup
      have hOnly {member : String × Json}
          (hOther : member ∈ members)
          (hEq : member.1 = name) :
          member.2 = held := by
        have hSome := (lookup_eq_some_iff_mem hDistinct).mpr hOther
        rw [hEq, hLookup] at hSome
        exact (Option.some.inj hSome).symm
      constructor
      · rintro ⟨hFound, _, hRest⟩
        exact ⟨.inl ⟨held, rfl, hFound _ hMember rfl⟩, hRest⟩
      · rintro ⟨⟨_, hSome, hConvert⟩ | ⟨hNone, _⟩, hRest⟩
        · rw [← Option.some.inj hSome] at hConvert
          refine ⟨fun member hOther hEq => ?_, fun hNone => ?_, hRest⟩
          · rw [hOnly hOther hEq]
            exact hConvert
          · exact absurd rfl (hNone _ hMember)
        · exact absurd hNone nofun
  | none =>
      have hOther (member) (hMember : member ∈ members) :
          member.1 ≠ name := by
        intro hEq
        have hSome := (lookup_eq_some_iff_mem hDistinct).mpr hMember
        rw [hEq, hLookup] at hSome
        exact absurd hSome nofun
      constructor
      · rintro ⟨_, hAbsent, hRest⟩
        exact ⟨.inr ⟨rfl, hAbsent hOther⟩, hRest⟩
      · rintro ⟨⟨_, hSome, _⟩ | ⟨_, hAbsent⟩, hRest⟩
        · exact absurd hSome nofun
        · exact ⟨fun member hMember hEq =>
            absurd hEq (hOther member hMember),
            fun _ => hAbsent, hRest⟩

end Fields

end Questionnaire
