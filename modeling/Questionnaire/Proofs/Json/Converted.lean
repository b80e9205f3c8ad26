import Questionnaire.Json.Parse
import Questionnaire.Proofs.Json.Lawful

/-
  A lawful value is converted back from what was written of it,
  once the members of its objects are in order.

  Key definitions include:
    * `Fields.Tells`
    * `Fields.slotsOf`
    * `Fields.Carries`

  Fields may be looked for among the members of other groups.
  They find their values if each of their members tells its
  value and only fields with that value when absent have none
  (`convertMembers_of_tells`).
-/

------------------------------------------------------------
-- Members in Order
------------------------------------------------------------

namespace Questionnaire

/- Only nothing becomes nothing. -/
theorem Json.inKeyOrder_ne_null
    {value : Json}
    (hNull : value ≠ .null) :
    value.inKeyOrder ≠ .null := by
  cases value with
  | null => exact absurd rfl hNull
  | array items => exact nofun
  | object members => exact nofun
  | _ => exact hNull

end Questionnaire

------------------------------------------------------------
-- Fields among Members
------------------------------------------------------------

namespace Questionnaire

namespace Fields

variable {α σ : Type}
variable {surplus : Surplus}

/-
  Among some members, those of the fields tell their values,
  and a field without a member has its value when absent.
-/
def Tells
    (surplus : Surplus)
    (members : List (String × Json)) :
    {α σ : Type} → Fields α σ → α → Prop
  | _, _, .done, _ => True
  | _, _, .field name format absent _ rest, (value, more) =>
      name ∉ rest.names ∧
        (∀ member ∈ members, member.1 = name →
          format.convert surplus member.2 = .ok value) ∧
        ((∀ member ∈ members, member.1 ≠ name) →
          absent = some value) ∧
        rest.Tells surplus members more

/- The slots of some values once members with some names came. -/
def slotsOf
    (seen : List String) :
    {α σ : Type} → Fields α σ → α → σ
  | _, _, .done, _ => ()
  | _, _, .field name _ _ _ rest, (value, more) =>
      (if name ∈ seen then some value else none,
        rest.slotsOf seen more)

theorem slotsOf_nil :
    {α σ : Type} →
    (fields : Fields α σ) →
    (values : α) →
    fields.slotsOf [] values = fields.vacant
  | _, _, .done, () => rfl
  | _, _, .field name _ _ _ rest, (value, more) => by
      rw [slotsOf, vacant, if_neg List.not_mem_nil,
        slotsOf_nil rest more]

/- Members with other names change nothing. -/
theorem slotsOf_cons_of_not_mem
    (seen : List String)
    {name : String} :
    {α σ : Type} →
    (fields : Fields α σ) →
    (values : α) →
    name ∉ fields.names →
    fields.slotsOf (name :: seen) values = fields.slotsOf seen values
  | _, _, .done, (), _ => rfl
  | _, _, .field other _ _ _ rest, (value, more), hName => by
      rw [names] at hName
      have hOther : other ≠ name :=
        fun hEq => hName (hEq ▸ List.mem_cons_self)
      have hRest :=
        slotsOf_cons_of_not_mem seen rest more
          (fun hMem => hName (List.mem_cons_of_mem _ hMem))
      simp only [slotsOf, List.mem_cons, hOther, false_or, hRest]

/- A member puts the value that it tells into its slot. -/
theorem convertInto_slotsOf
    {members : List (String × Json)}
    (seen : List String)
    {member : String × Json}
    (hMember : member ∈ members) :
    {α σ : Type} →
    (fields : Fields α σ) →
    (values : α) →
    fields.Tells surplus members values →
    fields.convertInto surplus member.1 member.2
        (fields.slotsOf seen values) =
      .ok (fields.slotsOf (member.1 :: seen) values)
  | _, _, .done, (), _ => rfl
  | _, _, .field name format absent isOmitted rest,
      (value, more), hTells => by
      rw [Tells] at hTells
      rcases hTells with ⟨hName, hFound, _, hMore⟩
      by_cases hEq : name = member.1
      case pos =>
        have hRest :=
          slotsOf_cons_of_not_mem seen rest more hName
        have hSeen : member.1 ∈ member.1 :: seen := List.mem_cons_self
        rw [slotsOf, slotsOf, convertInto, if_pos hEq,
          hFound member hMember hEq.symm, ← hEq, hRest]
        simp only [List.mem_cons_self, if_true]
        rfl
      case neg =>
        rw [slotsOf, slotsOf, convertInto, if_neg hEq,
          convertInto_slotsOf seen hMember rest more hMore]
        simp only [List.mem_cons, hEq, false_or]
        rfl

/- One after the other, members fill the slots of their names. -/
theorem foldlM_convertInto
    {fields : Fields α σ}
    {values : α}
    {members : List (String × Json)}
    (hTells : fields.Tells surplus members values)
    {later : List (String × Json)}
    (hLater : ∀ member ∈ later, member ∈ members)
    (seen : List String) :
    later.foldlM
        (fun slots (name, value) =>
          fields.convertInto surplus name value slots)
        (fields.slotsOf seen values) =
      .ok (fields.slotsOf
        ((later.map Prod.fst).reverse ++ seen) values) := by
  induction later generalizing seen with
  | nil => rfl
  | cons member later ih =>
      have hStep :=
        convertInto_slotsOf seen
          (hLater member List.mem_cons_self) fields values hTells
      have hRun :=
        ih (fun other hOther =>
          hLater other (List.mem_cons_of_mem _ hOther))
          (member.1 :: seen)
      rw [List.foldlM_cons, List.map_cons, List.reverse_cons,
        List.append_assoc]
      simp only [hStep]
      exact hRun

/- The slots are filled with the values once all members came. -/
theorem fill_slotsOf
    {members : List (String × Json)}
    {seen : List String}
    (hSeen : ∀ member ∈ members, member.1 ∈ seen) :
    {α σ : Type} →
    (fields : Fields α σ) →
    (values : α) →
    fields.Tells surplus members values →
    fields.fill (fields.slotsOf seen values) = .ok values
  | _, _, .done, (), _ => rfl
  | _, _, .field name format absent isOmitted rest,
      (value, more), hTells => by
      rw [Tells] at hTells
      rcases hTells with ⟨_, _, hAbsent, hMore⟩
      rw [slotsOf, fill, fill_slotsOf hSeen rest more hMore]
      by_cases hName : name ∈ seen
      case pos =>
        rw [if_pos hName]
        rfl
      case neg =>
        rw [if_neg hName, hAbsent (fun member hMember hEq =>
          hName (hEq ▸ hSeen member hMember))]
        rfl

/- Fields have the values that some members tell. -/
theorem convertMembers_of_tells
    {fields : Fields α σ}
    {values : α}
    {members : List (String × Json)}
    (hTells : fields.Tells surplus members values) :
    fields.convertMembers surplus members = .ok values := by
  have hRun :=
    foldlM_convertInto hTells (fun _ hMember => hMember) []
  have hSeen :
      ∀ member ∈ members,
        member.1 ∈ (members.map Prod.fst).reverse ++ [] := by
    intro member hMember
    rw [List.append_nil, List.mem_reverse]
    exact List.mem_map_of_mem hMember
  have hFill := fill_slotsOf hSeen fields values hTells
  rw [slotsOf_nil] at hRun
  rw [convertMembers, hRun]
  exact hFill

end Fields

end Questionnaire

------------------------------------------------------------
-- Written Members
------------------------------------------------------------

namespace Questionnaire

namespace Fields

variable {α σ : Type}

/-
  Some members carry what is written of the fields: nothing
  else has a name of theirs, and no name is missing.
-/
structure Carries
    (members : List (String × Json))
    (fields : Fields α σ)
    (values : α) : Prop where
  found :
    ∀ member ∈ members, member.1 ∈ fields.names →
      member ∈ membersInKeyOrder (fields.toMembers values)
  kept :
    ∀ member ∈ fields.toMembers values,
      ∃ value, (member.1, value) ∈ members

/- Members in order carry the fields that were written of them. -/
theorem carries_among
    {fields : Fields α σ}
    {values : α}
    {written : List (String × Json)}
    (hFound :
      ∀ member ∈ written, member.1 ∈ fields.names →
        member ∈ fields.toMembers values)
    (hKept : ∀ member ∈ fields.toMembers values, member ∈ written) :
    Carries (Table.ofList (membersInKeyOrder written)).rows
      fields values := by
  constructor
  · intro member hMember hName
    have hOrdered := Table.mem_of_mem_ofList hMember
    rw [membersInKeyOrder_eq_map] at hOrdered ⊢
    rcases List.mem_map.mp hOrdered with ⟨other, hOther, hEq⟩
    rw [← hEq] at hName
    exact List.mem_map.mpr ⟨other, hFound other hOther hName, hEq⟩
  · intro member hMember
    have hOrdered :
        (member.1, member.2.inKeyOrder) ∈
          membersInKeyOrder written := by
      rw [membersInKeyOrder_eq_map]
      exact List.mem_map.mpr ⟨member, hKept member hMember, rfl⟩
    exact Table.exists_mem_ofList hOrdered

/- A written member is that of the first field or a later one. -/
theorem mem_toMembers_field
    {β : Type}
    {name : String}
    {format : Format α}
    {absent : Option α}
    {isOmitted : α → Bool}
    {rest : Fields β σ}
    {value : α}
    {more : β}
    {member : String × Json} :
    member ∈ membersInKeyOrder
        ((Fields.field name format absent isOmitted rest).toMembers
          (value, more)) ↔
      (isOmitted value = false ∧
          member = (name, (format.toJson value).inKeyOrder)) ∨
        member ∈ membersInKeyOrder (rest.toMembers more) := by
  rw [toMembers]
  cases isOmitted value with
  | true => simp
  | false => simp [membersInKeyOrder]

/- Putting members in order changes none of their names. -/
theorem mem_names_of_mem_inKeyOrder
    {fields : Fields α σ}
    {values : α}
    {member : String × Json}
    (hMember :
      member ∈ membersInKeyOrder (fields.toMembers values)) :
    member.1 ∈ fields.names := by
  rw [membersInKeyOrder_eq_map] at hMember
  rcases List.mem_map.mp hMember with ⟨written, hWritten, hEq⟩
  rw [← hEq]
  exact mem_names_of_mem_toMembers fields values written hWritten

/- What carries some fields carries the later ones. -/
theorem Carries.later
    {β : Type}
    {name : String}
    {format : Format α}
    {absent : Option α}
    {isOmitted : α → Bool}
    {rest : Fields β σ}
    {value : α}
    {more : β}
    {members : List (String × Json)}
    (hName : name ∉ rest.names)
    (hCarries :
      Carries members (.field name format absent isOmitted rest)
        (value, more)) :
    Carries members rest more := by
  constructor
  · intro member hMember hLater
    have hAny : member.1 ∈ name :: rest.names :=
      List.mem_cons_of_mem _ hLater
    have hFound := hCarries.found member hMember hAny
    rcases mem_toMembers_field.mp hFound with ⟨_, hEq⟩ | hFound
    · rw [hEq] at hLater
      exact absurd hLater hName
    · exact hFound
  · intro member hMember
    apply hCarries.kept member
    rw [toMembers]
    split
    case isTrue => exact hMember
    case isFalse => exact List.mem_cons_of_mem _ hMember

end Fields

namespace Format

variable {α : Type}
variable {surplus : Surplus}

/- A record is that of the members of its object. -/
theorem convert_record_object
    {β σ : Type}
    (title : String)
    (fields : Fields β σ)
    (build : β → α)
    (parts : α → β)
    (members : List (String × Json)) :
    (Format.record title fields build parts).convert surplus
        (.object members) =
      (do
        return build (← fields.convertMembers surplus members)) := by
  rw [convert, Fields.convertMembers, bind_assoc]

/- Items are converted back if each of them is. -/
theorem mapM_convert
    {format : Format α}
    {values : List α}
    (hValues :
      ∀ value ∈ values,
        format.convert surplus (format.toJson value).inKeyOrder =
          .ok value) :
    (itemsInKeyOrder (values.map format.toJson)).mapM
        (format.convert surplus) =
      .ok values := by
  induction values with
  | nil => rfl
  | cons value values ih =>
      have hItems :=
        ih (fun other hOther =>
          hValues other (List.mem_cons_of_mem _ hOther))
      rw [List.map_cons, itemsInKeyOrder, List.mapM_cons,
        hValues value List.mem_cons_self, hItems]
      rfl

end Format

mutual

/- A lawful value is converted back. -/
theorem Format.convert_of_lawful
    (surplus : Surplus) :
    {α : Type} →
    (format : Format α) →
    (value : α) →
    format.Lawful value →
    format.convert surplus (format.toJson value).inKeyOrder =
      .ok value
  | _, .text, value, _ => rfl
  | _, .flag, value, _ => rfl
  | _, .integer, value, hLawful => by
      rw [Format.Lawful] at hLawful
      exact if_pos hLawful.2
  | _, .natural kind, value, _ => by
      have hNumber :
          naturalOf kind (.integer value) = .ok value := by
        rw [naturalOf,
          if_neg (Int.not_lt.mpr (Int.natCast_nonneg value)),
          Int.toNat_natCast]
      exact hNumber
  | _, .choice _ names known nameOf, value, hLawful => by
      rw [Format.Lawful] at hLawful
      have hChoice :
          choiceOf names known (nameOf value) = .ok value := by
        rw [choiceOf, hLawful]
      exact hChoice
  | _, .optional format, none, _ => rfl
  | _, .optional format, some value, hLawful => by
      rw [Format.Lawful] at hLawful
      have hValue := format.convert_of_lawful surplus value hLawful.1
      have hNull := Json.inKeyOrder_ne_null hLawful.2
      rw [Format.toJson, Format.convert, hValue]
      · rfl
      · exact hNull
  | _, .list format, values, hLawful => by
      rw [Format.Lawful] at hLawful
      rw [Format.toJson, Json.inKeyOrder, Format.convert]
      exact Format.mapM_convert (fun value hValue =>
        format.convert_of_lawful surplus value (hLawful value hValue))
  | _, .record title fields build parts, value, hLawful => by
      rw [Format.Lawful] at hLawful
      have hFields :=
        Fields.convertMembers_of_tells
          (fields.tells_of_lawful surplus (parts value) hLawful.1
            (Fields.carries_among (fun _ hMember _ => hMember)
              (fun _ hMember => hMember)))
      rw [Format.toJson, Json.inKeyOrder,
        Format.convert_record_object, hFields]
      exact congrArg Except.ok hLawful.2

/- Fields whose lawful values are carried are told their values. -/
theorem Fields.tells_of_lawful
    (surplus : Surplus) :
    {α σ : Type} →
    (fields : Fields α σ) →
    (values : α) →
    fields.Lawful values →
    {members : List (String × Json)} →
    fields.Carries members values →
    fields.Tells surplus members values
  | _, _, .done, (), _, _, _ => trivial
  | _, _, .field name format absent isOmitted rest,
      (value, more), hLawful, members, hCarries => by
      rw [Fields.Lawful] at hLawful
      rcases hLawful with ⟨hName, hValue, hMore⟩
      have hLater :=
        rest.tells_of_lawful surplus more hMore (hCarries.later hName)
      rw [Fields.Tells]
      refine ⟨hName, ?_, ?_, hLater⟩
      · intro member hMember hEq
        have hFound :=
          hCarries.found member hMember (hEq ▸ List.mem_cons_self)
        rcases Fields.mem_toMembers_field.mp hFound with
          ⟨hWritten, hMember⟩ | hOther
        · rw [hWritten, if_neg Bool.false_ne_true] at hValue
          rw [hMember]
          exact format.convert_of_lawful surplus value hValue
        · have hMem := Fields.mem_names_of_mem_inKeyOrder hOther
          exact absurd (hEq ▸ hMem) hName
      · intro hNone
        cases hOmitted : isOmitted value with
        | true =>
            rw [hOmitted, if_pos rfl] at hValue
            exact hValue
        | false =>
            have hWritten :
                (name, format.toJson value) ∈
                  (Fields.field name format absent isOmitted
                    rest).toMembers (value, more) := by
              rw [Fields.toMembers, hOmitted]
              exact List.mem_cons_self
            rcases hCarries.kept _ hWritten with ⟨other, hOther⟩
            exact absurd rfl (hNone _ hOther)

end

end Questionnaire
