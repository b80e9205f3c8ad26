import Mathlib.Data.List.Forall2

/-
  Results of steps that may fail, and of steps for each item of
  a list.

  Key definitions include:
    * `Agree`

  Two runs agree if both succeed, with results that are related,
  or both fail with the same error.
-/

------------------------------------------------------------
-- Places in a List
------------------------------------------------------------

namespace Questionnaire

/- A place in a list is the first one, or one after it. -/
theorem exists_split_cons_iff
    {α : Type}
    {first : α}
    {items : List α}
    {holds : List α → α → Prop} :
    (∃ before item later,
        first :: items = before ++ item :: later ∧
          holds before item) ↔
      holds [] first ∨
        ∃ before item later,
          items = before ++ item :: later ∧
            holds (first :: before) item := by
  constructor
  · rintro ⟨before, item, later, hSplit, hHolds⟩
    cases before with
    | nil =>
        rw [← (List.cons.inj hSplit).1] at hHolds
        exact .inl hHolds
    | cons other before =>
        rcases List.cons.inj hSplit with ⟨hFirst, hRest⟩
        rw [← hFirst] at hHolds
        exact .inr ⟨before, item, later, hRest, hHolds⟩
  · rintro (hHolds | ⟨before, item, later, hSplit, hHolds⟩)
    · exact ⟨[], first, items, rfl, hHolds⟩
    · exact ⟨first :: before, item, later,
        congrArg (first :: ·) hSplit, hHolds⟩

end Questionnaire

------------------------------------------------------------
-- Items that Correspond
------------------------------------------------------------

namespace Questionnaire

variable {α β : Type}
variable {related : α → β → Prop}
variable {items : List α}
variable {others : List β}

/- Every item has another that corresponds to it. -/
theorem exists_right_of_mem
    (hItems : List.Forall₂ related items others)
    {item : α}
    (hItem : item ∈ items) :
    ∃ other ∈ others, related item other := by
  induction hItems with
  | nil => exact absurd hItem List.not_mem_nil
  | @cons first other _ _ hFirst _ ih =>
      rcases List.mem_cons.mp hItem with hEq | hItem
      · rw [hEq]
        exact ⟨other, List.mem_cons_self, hFirst⟩
      · rcases ih hItem with ⟨found, hFound, hRelated⟩
        exact ⟨found, List.mem_cons_of_mem _ hFound, hRelated⟩

/- What corresponds to items corresponds to what they become. -/
theorem forall₂_transfer
    {γ : Type}
    {before : α → γ → Prop}
    {after : β → γ → Prop}
    {results : List γ}
    (hItems : List.Forall₂ related items others)
    (hResults : List.Forall₂ before items results)
    (hTransfer :
      ∀ item other result,
        related item other → before item result →
          after other result) :
    List.Forall₂ after others results := by
  induction hItems generalizing results with
  | nil =>
      rw [List.forall₂_nil_left_iff.mp hResults]
      exact .nil
  | cons hItem _ ih =>
      cases hResults with
      | cons hResult hResults =>
          exact .cons (hTransfer _ _ _ hItem hResult) (ih hResults)

end Questionnaire

------------------------------------------------------------
-- Success
------------------------------------------------------------

namespace Questionnaire

variable {α β ε : Type}

/- Steps succeed together when each one does. -/
theorem bind_eq_ok
    {first : Except ε α}
    {next : α → Except ε β}
    {result : β} :
    first >>= next = .ok result ↔
      ∃ middle, first = .ok middle ∧ next middle = .ok result := by
  cases first with
  | error error => simp [bind, Except.bind]
  | ok middle => simp [bind, Except.bind]

theorem pure_eq_ok
    {value result : α} :
    (pure value : Except ε α) = .ok result ↔ value = result :=
  ⟨Except.ok.inj, congrArg Except.ok⟩

theorem map_eq_ok
    {step : Except ε α}
    {change : α → β}
    {result : β} :
    step.map change = .ok result ↔
      ∃ value, step = .ok value ∧ change value = result := by
  cases step with
  | error error => simp [Except.map]
  | ok value => simp [Except.map]

/- All items succeed when each one does. -/
theorem mapM_eq_ok
    {step : α → Except ε β}
    {items : List α}
    {results : List β} :
    items.mapM step = .ok results ↔
      List.Forall₂ (fun item result => step item = .ok result)
        items results := by
  induction items generalizing results with
  | nil =>
      rw [List.mapM_nil, pure_eq_ok, List.forall₂_nil_left_iff,
        eq_comm]
  | cons item items ih =>
      simp only [List.mapM_cons, bind_eq_ok, pure_eq_ok, ih,
        List.forall₂_cons_left_iff]
      constructor
      · rintro ⟨result, hItem, more, hItems, hResults⟩
        exact ⟨result, more, hItem, hItems, hResults.symm⟩
      · rintro ⟨result, more, hItem, hItems, hResults⟩
        exact ⟨result, hItem, more, hItems, hResults.symm⟩

end Questionnaire

------------------------------------------------------------
-- Runs that Agree
------------------------------------------------------------

namespace Questionnaire

/-
  Either run fails with the error of the other, or both have
  results, and these are related.
-/
inductive Agree
    {α β ε : Type}
    (related : α → β → Prop) :
    Except ε α → Except ε β → Prop where
  | ok {result : α} {other : β} :
      related result other → Agree related (.ok result) (.ok other)
  | error (error : ε) : Agree related (.error error) (.error error)

namespace Agree

variable {α β γ δ ε : Type}
variable {related : α → β → Prop}
variable {first : Except ε α}
variable {second : Except ε β}

/- Every run agrees with itself. -/
theorem refl
    {related : α → α → Prop}
    (hRelated : ∀ result, related result result) :
    Agree related first first := by
  cases first with
  | ok result => exact .ok (hRelated result)
  | error error => exact .error error

/- Runs agree if their steps do, one after the other. -/
theorem bind
    {others : γ → δ → Prop}
    {next : α → Except ε γ}
    {later : β → Except ε δ}
    (hFirst : Agree related first second)
    (hNext :
      ∀ result other, related result other →
        Agree others (next result) (later other)) :
    Agree others (first >>= next) (second >>= later) := by
  cases hFirst with
  | ok hRelated => exact hNext _ _ hRelated
  | error error => exact .error error

theorem imp
    {others : α → β → Prop}
    (hAgree : Agree related first second)
    (hOthers :
      ∀ result other, related result other → others result other) :
    Agree others first second := by
  cases hAgree with
  | ok hRelated => exact .ok (hOthers _ _ hRelated)
  | error error => exact .error error

/- Runs over items agree if they do at each of them. -/
theorem mapM
    {step : γ → Except ε α}
    {other : δ → Except ε β}
    {items : List γ}
    {others : List δ}
    (hItems :
      List.Forall₂
        (fun left right => Agree related (step left) (other right))
        items others) :
    Agree (List.Forall₂ related)
      (items.mapM step) (others.mapM other) := by
  induction hItems with
  | nil => exact .ok .nil
  | cons hItem _ ih =>
      rw [List.mapM_cons, List.mapM_cons]
      refine hItem.bind (fun result other hResult => ?_)
      exact ih.bind (fun results others hResults =>
        .ok (.cons hResult hResults))

/- Folds over items agree if each step keeps states related. -/
theorem foldlM
    {step : α → γ → Except ε α}
    {other : β → δ → Except ε β}
    {items : List γ}
    {others : List δ}
    (hItems :
      List.Forall₂
        (fun left right =>
          ∀ state next, related state next →
            Agree related (step state left) (other next right))
        items others)
    {state : α}
    {next : β}
    (hRelated : related state next) :
    Agree related
      (items.foldlM step state) (others.foldlM other next) := by
  induction hItems generalizing state next with
  | nil => exact .ok hRelated
  | cons hItem _ ih =>
      rw [List.foldlM_cons, List.foldlM_cons]
      exact (hItem state next hRelated).bind
        (fun _ _ hRelated => ih hRelated)

end Agree

end Questionnaire
