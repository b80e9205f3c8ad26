import Questionnaire.Proofs.Document.Search

/-
  Counting the places of a mark in a text of which only some is
  known.

  Key definitions include:
    * `Counts`
    * `Realizes`
    * `mayBegin`
    * `places`

  The places of a mark in the parts of a text are counted one by
  one, whatever follows (`Counts.append`).  A text may have gaps
  that are filled with shown text: whether a mark may begin in
  it can be computed from what is known
  (`mayBegin_of_isPrefixOf`), for a mark that begins in a gap
  goes on after it.
-/

------------------------------------------------------------
-- Counting
------------------------------------------------------------

namespace Questionnaire.Document

/- So many places of a mark begin in a text, whatever follows. -/
def Counts
    (mark : List Char)
    (text : List Char)
    (n : Nat) : Prop :=
  ∀ rest,
    occurrences mark (text ++ rest) = n + occurrences mark rest

variable {mark text rest : List Char}
variable {n m : Nat}

theorem Counts.nil :
    Counts mark [] 0 := by
  intro rest
  rw [List.nil_append, Nat.zero_add]

/- The parts of a text are counted one by one. -/
theorem Counts.append
    (hText : Counts mark text n)
    (hRest : Counts mark rest m) :
    Counts mark (text ++ rest) (n + m) := by
  intro more
  rw [List.append_assoc, hText, hRest, Nat.add_assoc]

/- What is counted is found. -/
theorem Counts.occurrences
    (hText : Counts mark text n) :
    occurrences mark text = n := by
  have hAlone := hText []
  rw [List.append_nil] at hAlone
  exact hAlone

/- A mark that begins a text begins all that goes on with it. -/
theorem isPrefixOf_append
    (hBegins : mark.isPrefixOf text = true)
    (rest : List Char) :
    mark.isPrefixOf (text ++ rest) = true :=
  List.isPrefixOf_iff_prefix.mpr
    ((List.isPrefixOf_iff_prefix.mp hBegins).trans
      (List.prefix_append text rest))

/- There is no mark in a text that is clear of it. -/
theorem counts_of_clear
    (hClear : isClear mark text = true) :
    Counts mark text 0 := by
  intro rest
  rw [occurrences_append hClear, Nat.zero_add]

end Questionnaire.Document

------------------------------------------------------------
-- Texts with Gaps
------------------------------------------------------------

namespace Questionnaire.Document

/- Whether a character can stand in shown text as it is written. -/
def isShown
    (c : Char) : Bool :=
  c != '<' && c != '>' && c != '"' && c != '='

/- A text with its gaps filled in: `none` is a gap. -/
inductive Realizes :
    List (Option Char) → List Char → Prop where
  | nil : Realizes [] []
  | char
      {symbols : List (Option Char)}
      {text : List Char}
      (c : Char)
      (hText : Realizes symbols text) :
      Realizes (some c :: symbols) (c :: text)
  | gap
      {symbols : List (Option Char)}
      {words text : List Char}
      (hWords : ∀ c ∈ words, isShown c = true)
      (hText : Realizes symbols text) :
      Realizes (none :: symbols) (words ++ text)

/- What may be left of a mark after some shown text. -/
def afterShown : List Char → List (List Char)
  | [] => [[]]
  | c :: mark =>
      (c :: mark) :: if isShown c then afterShown mark else []

/- Whether a mark may begin where a text with gaps does. -/
def mayBegin : List (Option Char) → List Char → Bool
  | [], _ => true
  | some _ :: _, [] => true
  | some b :: symbols, a :: mark => a == b && mayBegin symbols mark
  | none :: symbols, mark =>
      (afterShown mark).any (mayBegin symbols)

end Questionnaire.Document

------------------------------------------------------------
-- Filling Gaps
------------------------------------------------------------

namespace Questionnaire.Document

variable {symbols others : List (Option Char)}
variable {mark text rest : List Char}

/- A text that is known has no gaps. -/
theorem realizes_chars
    (text : List Char) :
    Realizes (text.map some) text := by
  induction text with
  | nil => exact .nil
  | cons c text ih => exact .char c ih

theorem Realizes.append
    (hText : Realizes symbols text)
    (hRest : Realizes others rest) :
    Realizes (symbols ++ others) (text ++ rest) := by
  induction hText with
  | nil => exact hRest
  | char c _ ih => exact .char c ih
  | gap hWords _ ih =>
      rw [List.append_assoc]
      exact .gap hWords ih

/- What is left of a mark after shown text may be left of it. -/
theorem mem_afterShown
    {words : List Char}
    (hWords : ∀ c ∈ words, isShown c = true)
    (mark : List Char) :
    mark ∈ afterShown (words ++ mark) := by
  induction words with
  | nil => cases mark <;> simp [afterShown]
  | cons c words ih =>
      rcases List.forall_mem_cons.mp hWords with ⟨hChar, hMore⟩
      rw [List.cons_append, afterShown, if_pos hChar]
      exact List.mem_cons_of_mem _ (ih hMore)

/- All of a mark may lie in shown text. -/
theorem nil_mem_afterShown
    (hMark : ∀ c ∈ mark, isShown c = true) :
    [] ∈ afterShown mark := by
  have hMem := mem_afterShown hMark []
  rw [List.append_nil] at hMem
  exact hMem

/- Nothing is left of a mark. -/
theorem mayBegin_nil
    (symbols : List (Option Char)) :
    mayBegin symbols [] = true := by
  induction symbols with
  | nil => rfl
  | cons symbol symbols ih =>
      cases symbol with
      | some c => rfl
      | none => simp [mayBegin, afterShown, ih]

/- A mark that begins a text may begin it. -/
theorem mayBegin_of_isPrefixOf
    (hText : Realizes symbols text)
    (hBegins : mark.isPrefixOf (text ++ rest) = true) :
    mayBegin symbols mark = true := by
  induction hText generalizing mark with
  | nil => rfl
  | char c _ ih =>
      cases mark with
      | nil => rfl
      | cons a mark =>
          rw [List.cons_append, List.isPrefixOf,
            Bool.and_eq_true] at hBegins
          rw [mayBegin, Bool.and_eq_true]
          exact ⟨hBegins.1, ih hBegins.2⟩
  | @gap symbols words text hWords _ ih =>
      rw [List.append_assoc] at hBegins
      rcases List.isPrefixOf_iff_prefix.mp hBegins with
        ⟨after, hEq⟩
      rw [mayBegin, List.any_eq_true]
      rcases List.append_eq_append_iff.mp hEq with
        ⟨more, hInside, _⟩ | ⟨left, hMark, hLeft⟩
      · refine ⟨[], nil_mem_afterShown ?_, mayBegin_nil symbols⟩
        intro c hMem
        apply hWords
        rw [hInside]
        exact List.mem_append_left more hMem
      · refine ⟨left, ?_, ih ?_⟩
        · rw [hMark]
          exact mem_afterShown hWords left
        · rw [hLeft]
          exact List.isPrefixOf_iff_prefix.mpr
            (List.prefix_append left after)

/- A mark that begins a text with gaps begins it in any case. -/
theorem isPrefixOf_of_realizes
    (hText : Realizes symbols text)
    (hBegins : (mark.map some).isPrefixOf symbols = true) :
    mark.isPrefixOf text = true := by
  induction hText generalizing mark with
  | nil =>
      cases mark with
      | nil => rfl
      | cons a mark => cases hBegins
  | char c _ ih =>
      cases mark with
      | nil => rfl
      | cons a mark =>
          rw [List.map_cons, List.isPrefixOf, Bool.and_eq_true]
            at hBegins
          rw [List.isPrefixOf, Bool.and_eq_true]
          exact ⟨hBegins.1, ih hBegins.2⟩
  | gap _ _ _ =>
      cases mark with
      | nil => rfl
      | cons a mark => cases hBegins

/- No mark begins in a gap if it could not start there. -/
theorem occurrences_gap
    {start words : List Char}
    (hStart : start <+: mark)
    (hWords : ∀ c ∈ words, isShown c = true)
    (hText : Realizes symbols text)
    (hNot : mayBegin (none :: symbols) start = false)
    (rest : List Char) :
    occurrences mark (words ++ text ++ rest) =
      occurrences mark (text ++ rest) := by
  induction words with
  | nil => rfl
  | cons c words ih =>
      have hGap := Realizes.gap hWords hText
      have hBegins :
          ¬ mark.isPrefixOf (c :: words ++ text ++ rest) =
            true := by
        intro hIs
        have hStarts :=
          List.isPrefixOf_iff_prefix.mpr
            (hStart.trans (List.isPrefixOf_iff_prefix.mp hIs))
        rw [mayBegin_of_isPrefixOf hGap hStarts] at hNot
        cases hNot
      rw [List.cons_append, List.cons_append] at hBegins ⊢
      rw [occurrences, if_neg hBegins,
        ih (List.forall_mem_cons.mp hWords).2, Nat.zero_add]

end Questionnaire.Document

------------------------------------------------------------
-- Places
------------------------------------------------------------

namespace Questionnaire.Document

/- Everywhere a mark stands: what is before and what is after. -/
def places
    (mark : List Char) :
    List Char → List (List Char × List Char)
  | [] => []
  | c :: rest =>
      (if mark.isPrefixOf (c :: rest) then
          [([], (c :: rest).drop mark.length)]
        else
          [])
        ++ (places mark rest).map
          (fun (before, after) => (c :: before, after))

variable {mark text : List Char}
variable {c : Char}

/- The first place is where a text is cut. -/
theorem head?_places
    (mark text : List Char) :
    (places mark text).head? = cut? mark text := by
  induction text with
  | nil => rfl
  | cons c text ih =>
      rw [places, cut?]
      split
      · rfl
      · rw [List.nil_append, List.head?_map, ih]

/- There is no place where a mark is not found. -/
theorem places_eq_nil
    (hNone : occurrences mark text = 0) :
    places mark text = [] := by
  induction text with
  | nil => rfl
  | cons c text ih =>
      rw [occurrences, Nat.add_eq_zero_iff] at hNone
      have hNot : ¬ mark.isPrefixOf (c :: text) = true := by
        intro hBegins
        rw [if_pos hBegins] at hNone
        exact absurd hNone.1 Nat.one_ne_zero
      rw [places, if_neg hNot, ih hNone.2]
      rfl

/- Marks are not found without their first character. -/
theorem places_append_of_not_mem
    (hNotMem : c ∉ text)
    (rest : List Char) :
    places (c :: mark) (text ++ rest) =
      (places (c :: mark) rest).map
        (fun (before, after) => (text ++ before, after)) := by
  induction text with
  | nil => exact (List.map_id _).symm
  | cons d text ih =>
      rcases List.ne_and_not_mem_of_not_mem_cons hNotMem with
        ⟨hNe, hText⟩
      have hNot :
          (c :: mark).isPrefixOf (d :: (text ++ rest)) =
            false := by
        rw [List.isPrefixOf, beq_false_of_ne hNe, Bool.false_and]
      rw [List.cons_append, places, hNot, ih hText, List.map_map]
      rfl

/- A mark that begins before another ends before it. -/
theorem isPrefixOf_of_append
    (hOnce : c ∉ mark)
    (hText : text ≠ [])
    {rest : List Char}
    (hBegins :
      (c :: mark).isPrefixOf (text ++ c :: rest) = true) :
    (c :: mark).isPrefixOf text = true := by
  rcases List.isPrefixOf_iff_prefix.mp hBegins with ⟨after, hEq⟩
  rw [List.isPrefixOf_iff_prefix]
  rcases List.append_eq_append_iff.mp hEq with
    ⟨more, hInside, _⟩ | ⟨more, hMark, hMore⟩
  · exact ⟨more, hInside.symm⟩
  · cases more with
    | nil =>
        rw [List.append_nil] at hMark
        exact hMark ▸ List.prefix_rfl
    | cons e more =>
        cases text with
        | nil => exact absurd rfl hText
        | cons d text =>
            -- The other mark would begin within this one.
            have hSame : c = e := (List.cons.inj hMore).1
            have hTail : mark = text ++ e :: more :=
              (List.cons.inj hMark).2
            rw [hTail, hSame] at hOnce
            exact absurd (List.mem_append_right text
              List.mem_cons_self) hOnce

/-
  The places of a mark in a text are the first one, and those in
  what comes after it.
-/
theorem places_mark
    (hOnce : c ∉ mark)
    (hNone : occurrences (c :: mark) text = 0)
    (rest : List Char) :
    places (c :: mark) (text ++ (c :: mark ++ rest)) =
      (text, rest)
        :: (places (c :: mark) rest).map
          (fun (before, after) =>
            (text ++ (c :: mark ++ before), after)) := by
  induction text with
  | nil =>
      have hBegins :
          (c :: mark).isPrefixOf (c :: (mark ++ rest)) = true :=
        List.isPrefixOf_iff_prefix.mpr ⟨rest, rfl⟩
      rw [List.nil_append, List.cons_append, places,
        if_pos hBegins, places_append_of_not_mem hOnce,
        List.length_cons, List.drop_succ_cons, List.drop_left,
        List.map_map]
      rfl
  | cons d text ih =>
      rw [occurrences, Nat.add_eq_zero_iff] at hNone
      have hNot :
          ¬ (c :: mark).isPrefixOf
            (d :: (text ++ (c :: mark ++ rest))) = true := by
        intro hBegins
        have hInside :=
          isPrefixOf_of_append hOnce (List.cons_ne_nil d text)
            hBegins
        rw [if_pos hInside] at hNone
        exact absurd hNone.1 Nat.one_ne_zero
      rw [List.cons_append, places, if_neg hNot, ih hNone.2,
        List.nil_append, List.map_cons, List.map_map]
      rfl

/- A text is cut at the first place of a mark. -/
theorem cut?_mark
    (hOnce : c ∉ mark)
    (hNone : occurrences (c :: mark) text = 0)
    (rest : List Char) :
    cut? (c :: mark) (text ++ (c :: mark ++ rest)) =
      some (text, rest) := by
  rw [← head?_places, places_mark hOnce hNone]
  rfl

/- A text is not cut at a mark that is not found. -/
theorem cut?_eq_none
    (hNone : occurrences mark text = 0) :
    cut? mark text = none := by
  rw [← head?_places, places_eq_nil hNone]
  rfl

end Questionnaire.Document
