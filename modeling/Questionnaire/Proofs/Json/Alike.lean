import Questionnaire.Proofs.Json.Converted
import Questionnaire.Proofs.Json.Ordered
import Questionnaire.Proofs.Results

/-
  Values that are converted alike: both of them to some value,
  or neither, and then with one mismatch.

  Key definitions include:
    * `Format.Alike`
    * `Fields.AlikeAt`
    * `Fields.Level`

  What is met first in a record depends on no more than whether
  each of its members is converted (`Fields.agree_convertMembers`).
-/

------------------------------------------------------------
-- Conversions that Agree
------------------------------------------------------------

namespace Questionnaire

variable {α β σ : Type}

/- Two results of which nothing more is wanted. -/
def Anyhow
    (_ : α)
    (_ : β) : Prop :=
  True

/- Both values are converted, or both have one mismatch. -/
def Format.Alike
    (surplus : Surplus)
    (format : Format α)
    (old new : Json) : Prop :=
  Agree Anyhow
    (format.convert surplus old) (format.convert surplus new)

theorem Format.Alike.refl
    {surplus : Surplus}
    {format : Format α}
    (value : Json) :
    format.Alike surplus value value :=
  Agree.refl (fun _ => trivial)

namespace Fields

variable {surplus : Surplus}

/- Two members of one name are alike for the field of the name. -/
def AlikeAt
    (surplus : Surplus)
    (name : String) :
    {α σ : Type} → Fields α σ → Json → Json → Prop
  | _, _, .done, _, _ => True
  | _, _, .field fieldName format _ _ rest, old, new =>
      if fieldName = name then
        format.Alike surplus old new
      else
        rest.AlikeAt surplus name old new

theorem AlikeAt.refl
    {name : String}
    (value : Json) :
    {α σ : Type} →
    (fields : Fields α σ) →
    fields.AlikeAt surplus name value value
  | _, _, .done => trivial
  | _, _, .field fieldName format _ _ rest => by
      rw [AlikeAt]
      split
      case isTrue => exact .refl value
      case isFalse => exact AlikeAt.refl value rest

/- A member that no field is named like may be any. -/
theorem AlikeAt.of_not_mem
    {name : String}
    (old new : Json) :
    {α σ : Type} →
    (fields : Fields α σ) →
    name ∉ fields.names →
    fields.AlikeAt surplus name old new
  | _, _, .done, _ => trivial
  | _, _, .field fieldName format _ _ rest, hName => by
      rw [names, List.mem_cons, not_or] at hName
      rw [AlikeAt, if_neg (Ne.symm hName.1)]
      exact AlikeAt.of_not_mem old new rest hName.2

/- The same slots are filled. -/
def Level : {α σ : Type} → Fields α σ → σ → σ → Prop
  | _, _, .done, _, _ => True
  | _, _, .field _ _ _ _ rest, (slot, slots), (other, others) =>
      slot.isSome = other.isSome ∧ rest.Level slots others

theorem level_refl :
    {α σ : Type} →
    (fields : Fields α σ) →
    (slots : σ) →
    fields.Level slots slots
  | _, _, .done, _ => trivial
  | _, _, .field _ _ _ _ rest, (_, slots) =>
      ⟨rfl, level_refl rest slots⟩

/- Members that are alike fill the same slots. -/
theorem agree_convertInto
    {name : String}
    {old new : Json} :
    {α σ : Type} →
    (fields : Fields α σ) →
    fields.AlikeAt surplus name old new →
    {slots others : σ} →
    fields.Level slots others →
    Agree fields.Level
      (fields.convertInto surplus name old slots)
      (fields.convertInto surplus name new others)
  | _, _, .done, _, (), (), _ => .ok trivial
  | _, _, .field fieldName format _ _ rest, hAlike,
      (slot, slots), (other, others), hSlots => by
      rw [Level] at hSlots
      rcases hSlots with ⟨hSlot, hLevel⟩
      rw [AlikeAt] at hAlike
      simp only [convertInto]
      by_cases hName : fieldName = name
      case pos =>
        rw [if_pos hName] at hAlike
        rw [if_pos hName, if_pos hName]
        exact hAlike.bind (fun _ _ _ => .ok ⟨rfl, hLevel⟩)
      case neg =>
        rw [if_neg hName] at hAlike
        rw [if_neg hName, if_neg hName]
        exact (agree_convertInto rest hAlike hLevel).bind
          (fun _ _ hRest => .ok ⟨hSlot, hRest⟩)

/- What is missing depends on the slots that are filled. -/
theorem agree_fill :
    {α σ : Type} →
    (fields : Fields α σ) →
    {slots others : σ} →
    fields.Level slots others →
    Agree Anyhow (fields.fill slots) (fields.fill others)
  | _, _, .done, (), (), _ => .ok trivial
  | _, _, .field name _ absent _ rest,
      (slot, slots), (other, others), hSlots => by
      rw [Level] at hSlots
      rcases hSlots with ⟨hSlot, hLevel⟩
      have hRest := agree_fill rest hLevel
      have hHeld :
          (slot <|> absent).isSome = (other <|> absent).isSome := by
        cases slot <;> cases other <;>
          first | rfl | exact absurd hSlot nofun
      simp only [fill]
      cases hFirst : (slot <|> absent) with
      | none =>
          rw [hFirst] at hHeld
          cases hSecond : (other <|> absent) with
          | none => exact .error _
          | some value =>
              rw [hSecond] at hHeld
              exact absurd hHeld nofun
      | some value =>
          rw [hFirst] at hHeld
          cases hSecond : (other <|> absent) with
          | none =>
              rw [hSecond] at hHeld
              exact absurd hHeld nofun
          | some value => exact hRest.bind (fun _ _ _ => .ok trivial)

/-
  Members that are alike, one by one, make records or meet the
  same mismatch.
-/
theorem agree_convertMembers
    {fields : Fields α σ}
    {olds news : List (String × Json)}
    (hMembers :
      RowsMatch (fun name => fields.AlikeAt surplus name)
        olds news) :
    Agree Anyhow
      (fields.convertMembers surplus olds)
      (fields.convertMembers surplus news) := by
  have hRun :
      Agree fields.Level
        (olds.foldlM
          (fun slots member =>
            fields.convertInto surplus member.1 member.2 slots)
          fields.vacant)
        (news.foldlM
          (fun slots member =>
            fields.convertInto surplus member.1 member.2 slots)
          fields.vacant) := by
    refine Agree.foldlM (hMembers.imp ?_)
      (level_refl fields fields.vacant)
    rintro ⟨name, old⟩ ⟨other, new⟩ ⟨hName, hAlike⟩
      slots others hLevel
    have hSame : name = other := hName
    subst hSame
    exact agree_convertInto fields hAlike hLevel
  exact hRun.bind (fun _ _ hLevel => agree_fill fields hLevel)

end Fields

namespace Format

variable {surplus : Surplus}

/- Lists are alike if their items are. -/
theorem alike_list
    {format : Format α}
    {olds news : List Json}
    (hItems : List.Forall₂ (format.Alike surplus) olds news) :
    (Format.list format).Alike surplus
      (.array olds) (.array news) := by
  rw [Alike, convert, convert]
  exact (Agree.mapM hItems).imp (fun _ _ _ => trivial)

/- And records if their members are. -/
theorem alike_record
    {title : String}
    {fields : Fields β σ}
    {build : β → α}
    {parts : α → β}
    {olds news : List (String × Json)}
    (hMembers :
      RowsMatch (fun name => fields.AlikeAt surplus name)
        olds news) :
    (Format.record title fields build parts).Alike surplus
      (.object olds) (.object news) := by
  rw [Alike, convert_record_object, convert_record_object]
  exact (Fields.agree_convertMembers hMembers).bind
    (fun _ _ _ => .ok trivial)

end Format

end Questionnaire
