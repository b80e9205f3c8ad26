import Mathlib.Data.List.Forall2
import Mathlib.Data.List.Nodup
import Questionnaire.Json.Parse

/-
  The members of an object once they are in order.

  Key definitions include:
    * `Json.InOrder`
    * `RowsMatch`

  If no name is repeated, putting members in order loses none
  (`Table.mem_ofList_iff`) and does nothing to members that are
  in order already (`Table.rows_ofList`).
-/

------------------------------------------------------------
-- Rows with Distinct Keys
------------------------------------------------------------

namespace Questionnaire

variable {β : Type}

/- The value that answers to a name stands beside it. -/
theorem mem_of_lookup_eq_some
    {key : String}
    {value : β}
    {rows : List (String × β)}
    (hLookup : rows.lookup key = some value) :
    (key, value) ∈ rows := by
  rcases List.lookup_eq_some_iff.mp hLookup with
    ⟨before, after, hRows, _⟩
  rw [hRows]
  exact List.mem_append_right _ List.mem_cons_self

/- Of rows with distinct keys each is found at its key. -/
theorem lookup_eq_some_iff_mem
    {rows : List (String × β)}
    (hDistinct : (rows.map Prod.fst).Nodup)
    {key : String}
    {value : β} :
    rows.lookup key = some value ↔ (key, value) ∈ rows := by
  induction rows with
  | nil => simp
  | cons head rows ih =>
      rcases head with ⟨k, v⟩
      rw [List.map_cons, List.nodup_cons] at hDistinct
      rw [lookup_cons_row, List.mem_cons, Prod.mk.injEq]
      by_cases hKey : key = k
      case pos =>
        rw [if_pos hKey]
        constructor
        · exact fun hSame => .inl ⟨hKey, (Option.some.inj hSame).symm⟩
        · rintro (⟨_, hValue⟩ | hMem)
          · rw [hValue]
          · exact absurd (List.mem_map_of_mem hMem)
              (hKey ▸ hDistinct.1)
      case neg =>
        rw [if_neg hKey, ih hDistinct.2]
        simp [hKey]

/- Where rows with distinct keys stand does not matter. -/
theorem lookup_eq_of_perm
    {olds news : List (String × β)}
    (hDistinct : (news.map Prod.fst).Nodup)
    (hPerm : news.Perm olds)
    (key : String) :
    news.lookup key = olds.lookup key := by
  have hOlds : (olds.map Prod.fst).Nodup :=
    (hPerm.map Prod.fst).nodup_iff.mp hDistinct
  refine Option.ext (fun value => ?_)
  rw [lookup_eq_some_iff_mem hDistinct,
    lookup_eq_some_iff_mem hOlds, hPerm.mem_iff]

/-
  Rows have the same keys one by one, and at each key values
  that are related.
-/
def RowsMatch
    (related : String → β → β → Prop)
    (olds news : List (String × β)) : Prop :=
  List.Forall₂
    (fun old new => old.1 = new.1 ∧ related old.1 old.2 new.2)
    olds news

theorem RowsMatch.keys_eq
    {related : String → β → β → Prop}
    {olds news : List (String × β)}
    (hRows : RowsMatch related olds news) :
    olds.map Prod.fst = news.map Prod.fst := by
  induction hRows with
  | nil => rfl
  | cons hRow _ ih => rw [List.map_cons, List.map_cons, hRow.1, ih]

/- What is found at a key is related, unless nothing is. -/
theorem RowsMatch.lookup
    {related : String → β → β → Prop}
    {olds news : List (String × β)}
    (hRows : RowsMatch related olds news)
    (key : String) :
    (olds.lookup key = none ∧ news.lookup key = none) ∨
      ∃ old new,
        olds.lookup key = some old ∧
          news.lookup key = some new ∧ related key old new := by
  induction hRows with
  | nil => exact .inl ⟨rfl, rfl⟩
  | @cons old new olds news hRow _ ih =>
      rcases old with ⟨name, old⟩
      rcases new with ⟨other, new⟩
      have hSame : name = other := hRow.1
      subst hSame
      rw [lookup_cons_row, lookup_cons_row]
      by_cases hKey : key = name
      case pos =>
        rw [if_pos hKey, if_pos hKey, hKey]
        exact .inr ⟨old, new, rfl, rfl, hRow.2⟩
      case neg =>
        rw [if_neg hKey, if_neg hKey]
        exact ih

/- Keys that ascend are distinct. -/
theorem Ascending.nodup_keys
    {rows : List (String × β)}
    (hRows : Ascending rows) :
    (rows.map Prod.fst).Nodup := by
  refine List.pairwise_map.mpr (hRows.imp ?_)
  intro before after hLt hEq
  rw [hEq] at hLt
  exact String.lt_irrefl _ hLt

namespace Table

/- The table of rows with distinct keys has all of them. -/
theorem mem_ofList_iff
    {rows : List (String × β)}
    (hDistinct : (rows.map Prod.fst).Nodup)
    {row : String × β} :
    row ∈ (ofList rows).rows ↔ row ∈ rows := by
  constructor
  · exact mem_of_mem_ofList
  · intro hMem
    rcases row with ⟨key, value⟩
    rcases exists_mem_ofList hMem with ⟨other, hOther⟩
    have hSame := mem_of_mem_ofList hOther
    rw [← lookup_eq_some_iff_mem hDistinct] at hMem hSame
    rw [hMem] at hSame
    rw [Option.some.inj hSame]
    exact hOther

/- Rows in order are the rows of their table. -/
theorem rows_ofList
    {rows : List (String × β)}
    (hRows : Ascending rows) :
    (ofList rows).rows = rows := by
  have hTable := (ofList rows).ascending
  refine hTable.eq_of_lookup hRows (fun key => ?_)
  refine Option.ext (fun value => ?_)
  rw [lookup_eq_some_iff_mem hTable.nodup_keys,
    lookup_eq_some_iff_mem hRows.nodup_keys,
    mem_ofList_iff hRows.nodup_keys]

end Table

end Questionnaire

------------------------------------------------------------
-- Values in Order
------------------------------------------------------------

namespace Questionnaire

namespace Json

/- What is found among members with distinct names, once in order. -/
theorem lookup_inKeyOrder
    {members : List (String × Json)}
    (hDistinct : (members.map Prod.fst).Nodup)
    (name : String) :
    (Table.ofList (membersInKeyOrder members)).rows.lookup name =
      (members.lookup name).map inKeyOrder := by
  have hNames :
      ((membersInKeyOrder members).map Prod.fst).Nodup := by
    rw [membersInKeyOrder_eq_map, List.map_map]
    exact hDistinct
  refine Option.ext (fun value => ?_)
  rw [lookup_eq_some_iff_mem (Table.ofList _).ascending.nodup_keys,
    Table.mem_ofList_iff hNames, membersInKeyOrder_eq_map,
    List.mem_map, Option.map_eq_some_iff]
  constructor
  · rintro ⟨⟨key, held⟩, hMember, hEq⟩
    rcases Prod.mk.inj hEq with ⟨hName, hValue⟩
    rw [← hName]
    exact ⟨held, (lookup_eq_some_iff_mem hDistinct).mpr hMember,
      hValue⟩
  · rintro ⟨held, hLookup, hValue⟩
    exact ⟨(name, held), mem_of_lookup_eq_some hLookup,
      Prod.ext rfl hValue⟩

/- A value that has the members of its objects in order. -/
def InOrder
    (value : Json) : Prop :=
  ∃ written : Json, written.inKeyOrder = value

namespace InOrder

/- Only an object becomes one, and it has no name twice. -/
theorem nodup_names
    {members : List (String × Json)}
    (hOrder : (object members).InOrder) :
    (members.map Prod.fst).Nodup := by
  rcases hOrder with ⟨written, hWritten⟩
  cases written with
  | object others =>
      rw [← Json.object.inj hWritten]
      exact (Table.ofList _).ascending.nodup_keys
  | _ => exact absurd hWritten nofun

/- The members of a value in order are in order. -/
theorem of_member
    {members : List (String × Json)}
    (hOrder : (object members).InOrder)
    {member : String × Json}
    (hMember : member ∈ members) :
    member.2.InOrder := by
  rcases hOrder with ⟨written, hWritten⟩
  cases written with
  | object others =>
      rw [← Json.object.inj hWritten] at hMember
      have hFound := Table.mem_of_mem_ofList hMember
      rw [membersInKeyOrder_eq_map] at hFound
      rcases List.mem_map.mp hFound with ⟨other, _, hEq⟩
      exact ⟨other.2, congrArg Prod.snd hEq⟩
  | _ => exact absurd hWritten nofun

/- And so are its items. -/
theorem of_item
    {items : List Json}
    (hOrder : (array items).InOrder)
    {item : Json}
    (hItem : item ∈ items) :
    item.InOrder := by
  rcases hOrder with ⟨written, hWritten⟩
  cases written with
  | array others =>
      rw [← Json.array.inj hWritten, itemsInKeyOrder_eq_map] at hItem
      rcases List.mem_map.mp hItem with ⟨other, _, hEq⟩
      exact ⟨other, hEq⟩
  | _ => exact absurd hWritten nofun

/- So are the items of an array among its members. -/
theorem item_of_get?
    {value : Json}
    (hOrder : value.InOrder)
    {name : String}
    {items : List Json}
    (hItems : value.get? name = some (.array items))
    {item : Json}
    (hItem : item ∈ items) :
    item.InOrder := by
  cases value with
  | object members =>
      have hMember := mem_of_lookup_eq_some hItems
      exact (hOrder.of_member hMember).of_item hItem
  | _ => exact absurd hItems nofun

end InOrder

end Json

end Questionnaire
