/-
  Tables from texts to values, kept in ascending order of
  their keys.

  Key definitions include:
    * `Table`
    * `Table.get?`
    * `Table.insert`
    * `Table.ofList`

  The order of texts is that of their code points, which is
  also the order of their bytes.  A key has one row at most, so
  tables that answer alike are equal (`Table.ext_get?`).
-/

------------------------------------------------------------
-- Rows in Order
------------------------------------------------------------

namespace Questionnaire

variable {β : Type}

/- Put a value at its key, in place of what stood there. -/
def insertRow
    (key : String)
    (value : β) : List (String × β) → List (String × β)
  | [] => [(key, value)]
  | (k, v) :: rows =>
      if key < k then
        (key, value) :: (k, v) :: rows
      else if k < key then
        (k, v) :: insertRow key value rows
      else
        (key, value) :: rows

/- The keys of the rows ascend. -/
def Ascending
    (rows : List (String × β)) : Prop :=
  rows.Pairwise (fun a b => a.1 < b.1)

/- Putting a value adds no key but its own. -/
theorem mem_insertRow
    {key : String}
    {value : β}
    {row : String × β}
    {rows : List (String × β)}
    (h : row ∈ insertRow key value rows) :
    row = (key, value) ∨ row ∈ rows := by
  induction rows with
  | nil => simpa [insertRow] using h
  | cons head rows ih =>
      obtain ⟨k, v⟩ := head
      simp only [insertRow] at h
      split at h
      · simpa using h
      · split at h
        · rcases List.mem_cons.mp h with h | h
          · simp [h]
          · rcases ih h with h | h
            · exact .inl h
            · simp [h]
        · rcases List.mem_cons.mp h with h | h
          · exact .inl h
          · simp [h]

/- Putting a value keeps the keys in order. -/
theorem Ascending.insertRow
    {rows : List (String × β)}
    (h : Ascending rows)
    (key : String)
    (value : β) :
    Ascending (insertRow key value rows) := by
  induction rows with
  | nil => simp [Ascending, Questionnaire.insertRow]
  | cons head rows ih =>
      obtain ⟨k, v⟩ := head
      rcases List.pairwise_cons.mp h with ⟨hHead, hTail⟩
      simp only [Questionnaire.insertRow]
      split
      · rename_i hLt
        refine List.pairwise_cons.mpr ⟨?_, h⟩
        intro row hRow
        rcases List.mem_cons.mp hRow with hRow | hRow
        · simpa [hRow] using hLt
        · exact String.lt_trans hLt (hHead row hRow)
      · rename_i hNotLt
        split
        · rename_i hGt
          refine List.pairwise_cons.mpr ⟨?_, ih hTail⟩
          intro row hRow
          rcases mem_insertRow hRow with hRow | hRow
          · simpa [hRow] using hGt
          · exact hHead row hRow
        · rename_i hNotGt
          have hEq : k = key :=
            String.le_antisymm
              (String.not_lt.mp hNotLt) (String.not_lt.mp hNotGt)
          subst hEq
          exact List.pairwise_cons.mpr ⟨hHead, hTail⟩

end Questionnaire

------------------------------------------------------------
-- Tables
------------------------------------------------------------

namespace Questionnaire

variable {β : Type}

/- A finite table with its rows in ascending order of keys. -/
structure Table (β : Type) where
  rows : List (String × β)
  ascending : Ascending rows
  deriving DecidableEq

namespace Table

/- The table without rows. -/
def empty : Table β :=
  ⟨[], List.Pairwise.nil⟩

instance : Inhabited (Table β) := ⟨empty⟩

/- The value at a key. -/
def get?
    (table : Table β)
    (key : String) : Option β :=
  table.rows.lookup key

/- Put a value at a key, in place of what stood there. -/
def insert
    (table : Table β)
    (key : String)
    (value : β) : Table β :=
  ⟨insertRow key value table.rows,
    table.ascending.insertRow key value⟩

/- The table of some rows; of equal keys the last one counts. -/
def ofList
    (rows : List (String × β)) : Table β :=
  rows.foldl (fun table row => table.insert row.1 row.2) empty

/- The rows whose value is wanted. -/
def filter
    (wanted : β → Bool)
    (table : Table β) : Table β :=
  ⟨table.rows.filter (fun row => wanted row.2),
    List.Pairwise.filter _ table.ascending⟩

end Table

end Questionnaire

------------------------------------------------------------
-- What a Table Answers
------------------------------------------------------------

namespace Questionnaire

variable {β : Type}

/- The first row with the key answers. -/
theorem lookup_cons_row
    (key k : String)
    (v : β)
    (rows : List (String × β)) :
    ((k, v) :: rows).lookup key =
      if key = k then some v else rows.lookup key := by
  rw [List.lookup_cons]
  by_cases h : key = k
  · simp [h]
  · have hBeq : (key == k) = false := by simpa using h
    simp [hBeq, h]

/- No row lies before the first one. -/
theorem lookup_eq_none_of_lt
    {key : String}
    {rows : List (String × β)}
    (h : ∀ row ∈ rows, key < row.1) :
    rows.lookup key = none := by
  induction rows with
  | nil => rfl
  | cons head rows ih =>
      obtain ⟨k, v⟩ := head
      have hLt : key < k := h (k, v) (by simp)
      have hNe : ¬ key = k :=
        fun hEq => String.lt_irrefl k (hEq ▸ hLt)
      rw [lookup_cons_row, if_neg hNe]
      exact ih (fun row hRow => h row (List.mem_cons_of_mem _ hRow))

/- The put value is found at its key, and the others as before. -/
theorem lookup_insertRow
    (key : String)
    (value : β)
    (sought : String)
    (rows : List (String × β)) :
    (insertRow key value rows).lookup sought =
      if sought = key then some value else rows.lookup sought := by
  induction rows with
  | nil =>
      by_cases h : sought = key <;>
        simp [insertRow, lookup_cons_row, h]
  | cons head rows ih =>
      obtain ⟨k, v⟩ := head
      simp only [insertRow]
      split
      · by_cases h : sought = key <;> simp [lookup_cons_row, h]
      · rename_i hNotLt
        split
        · rename_i hGt
          by_cases hk : sought = k
          · subst hk
            have hNe : ¬ sought = key :=
              fun hEq => String.lt_irrefl key (by rwa [hEq] at hGt)
            simp [hNe]
          · simp [lookup_cons_row, hk, ih]
        · rename_i hNotGt
          have hEq : k = key :=
            String.le_antisymm
              (String.not_lt.mp hNotLt) (String.not_lt.mp hNotGt)
          subst hEq
          by_cases h : sought = k <;> simp [lookup_cons_row, h]

/- A filter keeps the answers that are wanted. -/
theorem Ascending.lookup_filter
    {rows : List (String × β)}
    (h : Ascending rows)
    (wanted : β → Bool)
    (key : String) :
    (rows.filter (fun row => wanted row.2)).lookup key =
      (rows.lookup key).filter wanted := by
  induction rows with
  | nil => rfl
  | cons head rows ih =>
      obtain ⟨k, v⟩ := head
      rcases List.pairwise_cons.mp h with ⟨hHead, hTail⟩
      by_cases hKey : key = k
      · subst hKey
        have hNone :
            (rows.filter
              (fun row => wanted row.2)).lookup key = none :=
          lookup_eq_none_of_lt
            (fun row hRow => hHead row (List.mem_filter.mp hRow).1)
        by_cases hWanted : wanted v = true
        · simp [hWanted, Option.filter]
        · simp [hWanted, hNone, Option.filter]
      · by_cases hWanted : wanted v = true
        · simp [lookup_cons_row, hKey, hWanted, ih hTail]
        · simp [lookup_cons_row, hKey, hWanted, ih hTail]

namespace Table

@[simp] theorem get?_empty
    (key : String) :
    (empty : Table β).get? key = none := rfl

/- A table answers with what was put last. -/
@[simp] theorem get?_insert
    (table : Table β)
    (key : String)
    (value : β)
    (sought : String) :
    (table.insert key value).get? sought =
      if sought = key then some value else table.get? sought :=
  lookup_insertRow key value sought table.rows

/- A filtered table gives the answers that are wanted. -/
@[simp] theorem get?_filter
    (table : Table β)
    (wanted : β → Bool)
    (key : String) :
    (table.filter wanted).get? key =
      (table.get? key).filter wanted :=
  table.ascending.lookup_filter wanted key

end Table

/- Ascending rows answer no key that is before all of theirs. -/
theorem Ascending.not_lt_head
    {k key : String}
    {v value : β}
    {rows : List (String × β)}
    (h : Ascending ((k, v) :: rows))
    (hFound : ((k, v) :: rows).lookup key = some value) :
    ¬ key < k := by
  intro hLt
  have hHead := (List.pairwise_cons.mp h).1
  have hNone : ((k, v) :: rows).lookup key = none := by
    refine lookup_eq_none_of_lt (fun row hRow => ?_)
    rcases List.mem_cons.mp hRow with hRow | hRow
    · simpa [hRow] using hLt
    · exact String.lt_trans hLt (hHead row hRow)
  rw [hNone] at hFound
  cases hFound

/-
  Ascending rows are determined by what they answer.  Both first
  keys are answered, so neither is before the other.
-/
theorem Ascending.eq_of_lookup
    {rows₁ rows₂ : List (String × β)}
    (h₁ : Ascending rows₁)
    (h₂ : Ascending rows₂)
    (h : ∀ key, rows₁.lookup key = rows₂.lookup key) :
    rows₁ = rows₂ := by
  induction rows₁ generalizing rows₂ with
  | nil =>
      cases rows₂ with
      | nil => rfl
      | cons head rows₂ =>
          obtain ⟨k, v⟩ := head
          have hNone := h k
          simp at hNone
  | cons head₁ rows₁ ih =>
      cases rows₂ with
      | nil =>
          obtain ⟨k, v⟩ := head₁
          have hNone := h k
          simp at hNone
      | cons head₂ rows₂ =>
          obtain ⟨k₁, v₁⟩ := head₁
          obtain ⟨k₂, v₂⟩ := head₂
          rcases List.pairwise_cons.mp h₁ with ⟨hHead₁, hTail₁⟩
          rcases List.pairwise_cons.mp h₂ with ⟨hHead₂, hTail₂⟩
          have hFirst₁ : ((k₂, v₂) :: rows₂).lookup k₁ = some v₁ := by
            rw [← h k₁]
            simp
          have hFirst₂ : ((k₁, v₁) :: rows₁).lookup k₂ = some v₂ := by
            rw [h k₂]
            simp
          have hKey : k₁ = k₂ :=
            String.le_antisymm
              (String.not_lt.mp (h₁.not_lt_head hFirst₂))
              (String.not_lt.mp (h₂.not_lt_head hFirst₁))
          subst hKey
          have hValue : v₁ = v₂ := by
            simpa [lookup_cons_row] using hFirst₂
          subst hValue
          have hRest : rows₁ = rows₂ := by
            refine ih hTail₁ hTail₂ (fun key => ?_)
            by_cases hk : key = k₁
            · subst hk
              rw [lookup_eq_none_of_lt hHead₁,
                lookup_eq_none_of_lt hHead₂]
            · have hOther := h key
              simpa [lookup_cons_row, hk] using hOther
          rw [hRest]

namespace Table

/- Tables that answer alike are equal. -/
theorem ext_get?
    {a b : Table β}
    (h : ∀ key, a.get? key = b.get? key) :
    a = b := by
  have := a.ascending.eq_of_lookup b.ascending h
  cases a
  cases b
  simp_all

end Table

end Questionnaire

------------------------------------------------------------
-- Rows of a Table
------------------------------------------------------------

namespace Questionnaire

variable {β : Type}

/- A value that is put stands at its key. -/
theorem mem_insertRow_self
    (key : String)
    (value : β)
    (rows : List (String × β)) :
    (key, value) ∈ insertRow key value rows := by
  induction rows with
  | nil => exact List.mem_singleton.mpr rfl
  | cons head rows ih =>
      rcases head with ⟨k, v⟩
      simp only [insertRow]
      split
      · exact List.mem_cons_self
      · split
        · exact List.mem_cons_of_mem _ ih
        · exact List.mem_cons_self

/- The rows with other keys stay. -/
theorem mem_insertRow_of_ne
    {key : String}
    {value : β}
    {row : String × β}
    {rows : List (String × β)}
    (hMem : row ∈ rows)
    (hNe : row.1 ≠ key) :
    row ∈ insertRow key value rows := by
  induction rows with
  | nil => exact absurd hMem List.not_mem_nil
  | cons head rows ih =>
      rcases head with ⟨k, v⟩
      simp only [insertRow]
      split
      case isTrue => exact List.mem_cons_of_mem _ hMem
      case isFalse hNotLt =>
        split
        case isTrue =>
          rcases List.mem_cons.mp hMem with hHead | hRows
          · rw [hHead]
            exact List.mem_cons_self
          · exact List.mem_cons_of_mem _ (ih hRows)
        case isFalse hNotGt =>
          rcases List.mem_cons.mp hMem with hHead | hRows
          · have hEq : k = key :=
              String.le_antisymm
                (String.not_lt.mp hNotLt) (String.not_lt.mp hNotGt)
            rw [hHead] at hNe
            exact absurd hEq hNe
          · exact List.mem_cons_of_mem _ hRows

namespace Table

/- Putting rows one by one adds no others. -/
theorem mem_of_mem_foldl_insert
    {table : Table β}
    {row : String × β}
    {rows : List (String × β)}
    (hMem :
      row ∈ (rows.foldl
        (fun table row => table.insert row.1 row.2) table).rows) :
    row ∈ table.rows ∨ row ∈ rows := by
  induction rows generalizing table with
  | nil => exact .inl hMem
  | cons head rows ih =>
      rcases ih hMem with hTable | hRows
      · rcases mem_insertRow hTable with hHead | hOld
        · exact .inr (hHead ▸ List.mem_cons_self)
        · exact .inl hOld
      · exact .inr (List.mem_cons_of_mem _ hRows)

/- A key that has a row keeps one. -/
theorem exists_mem_foldl_insert
    {table : Table β}
    {key : String}
    {rows : List (String × β)}
    (hKey :
      (∃ value, (key, value) ∈ table.rows) ∨
        ∃ value, (key, value) ∈ rows) :
    ∃ value,
      (key, value) ∈ (rows.foldl
        (fun table row => table.insert row.1 row.2) table).rows := by
  induction rows generalizing table with
  | nil =>
      rcases hKey with hTable | ⟨value, hMem⟩
      · exact hTable
      · exact absurd hMem List.not_mem_nil
  | cons head rows ih =>
      apply ih
      by_cases hHead : key = head.1
      · rw [hHead]
        exact .inl ⟨head.2, mem_insertRow_self _ _ _⟩
      · rcases hKey with ⟨value, hMem⟩ | ⟨value, hMem⟩
        · exact .inl ⟨value, mem_insertRow_of_ne hMem hHead⟩
        · rcases List.mem_cons.mp hMem with hEq | hMem
          · exact absurd (congrArg Prod.fst hEq) hHead
          · exact .inr ⟨value, hMem⟩

/- The table of some rows has no others. -/
theorem mem_of_mem_ofList
    {row : String × β}
    {rows : List (String × β)}
    (hMem : row ∈ (ofList rows).rows) :
    row ∈ rows := by
  rcases mem_of_mem_foldl_insert hMem with hEmpty | hMem
  · exact absurd hEmpty List.not_mem_nil
  · exact hMem

/- Every key of some rows has a row in their table. -/
theorem exists_mem_ofList
    {key : String}
    {value : β}
    {rows : List (String × β)}
    (hMem : (key, value) ∈ rows) :
    ∃ other, (key, other) ∈ (ofList rows).rows :=
  exists_mem_foldl_insert (.inr ⟨value, hMem⟩)

end Table

end Questionnaire
