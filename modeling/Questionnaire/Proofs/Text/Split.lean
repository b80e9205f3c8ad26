import Questionnaire.Text.Split

/-
  Cutting texts that are put together.

  Texts with a mark between them are cut on their own
  (`split_append_mark`), so cutting undoes joining
  (`split_joinWith`).  The runs of a text hold its wanted
  characters (`flatten_runs`), and words that were joined are
  found again as runs (`runs_joinWith`).  A text occurs in
  another if that goes around it (`occursIn_iff`).
-/

------------------------------------------------------------
-- Pieces
------------------------------------------------------------

namespace Questionnaire.Text

variable {isMark : Char → Bool}
variable {mark : Char}

/- A mark keeps what is before it from what is behind it. -/
theorem split_append_mark
    (hMark : isMark mark = true)
    (before rest : List Char) :
    split isMark (before ++ mark :: rest) =
      split isMark before ++ split isMark rest := by
  induction before with
  | nil =>
      simp [split, hMark]
  | cons c before ih =>
      by_cases hChar : isMark c = true
      · rw [List.cons_append, split, if_pos hChar, split,
          if_pos hChar, ih]
        rfl
      · cases hPieces : split isMark before with
        | nil => exact absurd hPieces (split_ne_nil _ _)
        | cons piece pieces =>
            rw [List.cons_append, split, if_neg hChar, split,
              if_neg hChar, ih, hPieces]
            rfl

/- A text without the mark is one piece. -/
theorem split_of_no_mark
    {text : List Char}
    (hText : ∀ c ∈ text, isMark c = false) :
    split isMark text = [text] := by
  induction text with
  | nil => rfl
  | cons c text ih =>
      have hRest :=
        ih (fun d hMem => hText d (List.mem_cons_of_mem c hMem))
      have hChar : ¬ isMark c = true := by
        rw [hText c List.mem_cons_self]
        exact Bool.false_ne_true
      rw [split, if_neg hChar, hRest]

/- Cutting at the mark undoes joining around it. -/
theorem split_joinWith
    {pieces : List (List Char)}
    (hPieces : pieces ≠ [])
    (hMark : ∀ piece ∈ pieces, mark ∉ piece) :
    split (fun c => c == mark) (joinWith mark pieces) = pieces := by
  have hOther {piece : List Char} (hMem : piece ∈ pieces) :
      ∀ c ∈ piece, (c == mark) = false := by
    intro c hChar
    rw [beq_eq_false_iff_ne]
    intro hEq
    exact hMark piece hMem (hEq ▸ hChar)
  induction pieces with
  | nil => exact absurd rfl hPieces
  | cons piece pieces ih =>
      cases pieces with
      | nil =>
          rw [joinWith]
          exact split_of_no_mark (hOther List.mem_cons_self)
      | cons next pieces =>
          have hRest :=
            ih (List.cons_ne_nil _ _)
              (fun other hMem =>
                hMark other (List.mem_cons_of_mem _ hMem))
              (fun hMem => hOther (List.mem_cons_of_mem _ hMem))
          have hSplit :
              split (fun c => c == mark)
                  (piece ++ mark :: joinWith mark (next :: pieces)) =
                split (fun c => c == mark) piece ++
                  split (fun c => c == mark)
                    (joinWith mark (next :: pieces)) :=
            split_append_mark (by exact beq_self_eq_true mark) _ _
          rw [joinWith, hSplit,
            split_of_no_mark (hOther List.mem_cons_self), hRest]
          rfl

/- The pieces hold what is no mark, in order. -/
theorem flatten_split
    (isMark : Char → Bool)
    (text : List Char) :
    (split isMark text).flatten =
      text.filter (fun c => !isMark c) := by
  induction text with
  | nil => rfl
  | cons c text ih =>
      by_cases hChar : isMark c = true
      · rw [split, if_pos hChar, List.flatten_cons, ih,
          List.filter_cons_of_neg (by simp [hChar])]
        rfl
      · cases hPieces : split isMark text with
        | nil => exact absurd hPieces (split_ne_nil _ _)
        | cons piece pieces =>
            rw [hPieces] at ih
            rw [split, if_neg hChar, hPieces,
              List.filter_cons_of_pos (by simp [hChar]), ← ih]
            rfl

/- Joining adds nothing but the mark. -/
theorem mem_joinWith
    {c : Char}
    {pieces : List (List Char)}
    (hMem : c ∈ joinWith mark pieces) :
    c = mark ∨ ∃ piece ∈ pieces, c ∈ piece := by
  induction pieces with
  | nil => exact absurd hMem List.not_mem_nil
  | cons piece pieces ih =>
      cases pieces with
      | nil => exact .inr ⟨piece, List.mem_cons_self, hMem⟩
      | cons next pieces =>
          rw [joinWith] at hMem
          rcases List.mem_append.mp hMem with hPiece | hMem
          · exact .inr ⟨piece, List.mem_cons_self, hPiece⟩
          · rcases List.mem_cons.mp hMem with hMark | hRest
            · exact .inl hMark
            · rcases ih hRest with hMark | ⟨other, hOther, hChar⟩
              · exact .inl hMark
              · exact .inr
                  ⟨other, List.mem_cons_of_mem _ hOther, hChar⟩

/- Words that are joined in two parts have a mark between them. -/
theorem joinWith_append
    {words others : List (List Char)}
    (hWords : words ≠ [])
    (hOthers : others ≠ []) :
    joinWith mark (words ++ others) =
      joinWith mark words ++ mark :: joinWith mark others := by
  induction words with
  | nil => exact absurd rfl hWords
  | cons word words ih =>
      cases words with
      | nil =>
          cases others with
          | nil => exact absurd rfl hOthers
          | cons other others => rfl
      | cons next words =>
          rw [List.cons_append, List.cons_append, joinWith, joinWith,
            ← List.cons_append, ih (List.cons_ne_nil _ _),
            List.append_assoc]
          rfl

/- Joined words are empty only if there are none. -/
theorem joinWith_ne_nil
    {words : List (List Char)}
    (hWords : words ≠ [])
    (hFull : ∀ word ∈ words, word ≠ []) :
    joinWith mark words ≠ [] := by
  cases words with
  | nil => exact absurd rfl hWords
  | cons word words =>
      have hWord := hFull word List.mem_cons_self
      cases words with
      | nil => exact hWord
      | cons next words =>
          exact List.append_ne_nil_of_left_ne_nil hWord _

end Questionnaire.Text

------------------------------------------------------------
-- Runs
------------------------------------------------------------

namespace Questionnaire.Text

variable {wanted : Char → Bool}

/- An unwanted character keeps runs apart. -/
theorem runs_append_mark
    {mark : Char}
    (hMark : wanted mark = false)
    (before rest : List Char) :
    runs wanted (before ++ mark :: rest) =
      runs wanted before ++ runs wanted rest := by
  have hSplit :
      split (fun c => !wanted c) (before ++ mark :: rest) =
        split (fun c => !wanted c) before ++
          split (fun c => !wanted c) rest :=
    split_append_mark (by rw [hMark]; rfl) before rest
  rw [runs, hSplit, List.filter_append]
  rfl

/- A text of wanted characters is one run. -/
theorem runs_of_wanted
    {text : List Char}
    (hText : text ≠ [])
    (hWanted : ∀ c ∈ text, wanted c = true) :
    runs wanted text = [text] := by
  have hSplit : split (fun c => !wanted c) text = [text] := by
    refine split_of_no_mark (fun c hMem => ?_)
    rw [hWanted c hMem]
    rfl
  rw [runs, hSplit]
  cases text with
  | nil => exact absurd rfl hText
  | cons c text => rfl

/- A text that begins with a wanted character has a run. -/
theorem runs_cons_ne_nil
    {c : Char}
    (hWanted : wanted c = true)
    (rest : List Char) :
    runs wanted (c :: rest) ≠ [] := by
  have hChar : ¬ (!wanted c) = true := by
    rw [hWanted]
    exact Bool.false_ne_true
  cases hPieces : split (fun c => !wanted c) rest with
  | nil => exact absurd hPieces (split_ne_nil _ _)
  | cons piece pieces =>
      rw [runs, split, if_neg hChar, hPieces]
      exact List.cons_ne_nil _ _

/- The runs hold the wanted characters, in order. -/
theorem flatten_runs
    (wanted : Char → Bool)
    (text : List Char) :
    (runs wanted text).flatten = text.filter wanted := by
  rw [runs, List.flatten_filter_not_isEmpty, flatten_split]
  simp only [Bool.not_not]

/- A run has characters, all of them wanted. -/
theorem of_mem_runs
    {text run : List Char}
    (hRun : run ∈ runs wanted text) :
    run ≠ [] ∧ ∀ c ∈ run, wanted c = true := by
  have hFull := (List.mem_filter.mp hRun).2
  refine ⟨by simpa using hFull, ?_⟩
  intro c hChar
  have hMem : c ∈ (runs wanted text).flatten :=
    List.mem_flatten.mpr ⟨run, hRun, hChar⟩
  rw [flatten_runs] at hMem
  exact (List.mem_filter.mp hMem).2

/- There is a run exactly where a character is wanted. -/
theorem runs_ne_nil_iff
    {text : List Char} :
    runs wanted text ≠ [] ↔ ∃ c ∈ text, wanted c = true := by
  constructor
  · intro hRuns
    rcases List.exists_mem_of_ne_nil _ hRuns with ⟨run, hRun⟩
    rcases of_mem_runs hRun with ⟨hFull, hWanted⟩
    rcases List.exists_mem_of_ne_nil _ hFull with ⟨c, hChar⟩
    have hMem : c ∈ (runs wanted text).flatten :=
      List.mem_flatten.mpr ⟨run, hRun, hChar⟩
    rw [flatten_runs] at hMem
    exact ⟨c, (List.mem_filter.mp hMem).1, hWanted c hChar⟩
  · rintro ⟨c, hMem, hWanted⟩ hNone
    have hFilter : c ∈ text.filter wanted :=
      List.mem_filter.mpr ⟨hMem, hWanted⟩
    rw [← flatten_runs, hNone] at hFilter
    exact absurd hFilter List.not_mem_nil

/- Words with an unwanted mark between them are the runs. -/
theorem runs_joinWith
    {mark : Char}
    {words : List (List Char)}
    (hMark : wanted mark = false)
    (hWords :
      ∀ word ∈ words,
        word ≠ [] ∧ ∀ c ∈ word, wanted c = true) :
    runs wanted (joinWith mark words) = words := by
  induction words with
  | nil => rfl
  | cons word words ih =>
      rcases hWords word List.mem_cons_self with ⟨hFull, hWanted⟩
      have hRest :=
        ih (fun other hOther =>
          hWords other (List.mem_cons_of_mem _ hOther))
      cases words with
      | nil => exact runs_of_wanted hFull hWanted
      | cons next words =>
          rw [joinWith, runs_append_mark hMark, hRest,
            runs_of_wanted hFull hWanted]
          rfl

end Questionnaire.Text

------------------------------------------------------------
-- Occurrences
------------------------------------------------------------

namespace Questionnaire.Text

/- A text occurs in another if that goes around it. -/
theorem occursIn_iff
    {sought text : List Char} :
    occursIn sought text = true ↔ sought <:+: text := by
  induction text with
  | nil => rw [occursIn, List.isEmpty_iff, List.infix_nil]
  | cons c rest ih =>
      rw [occursIn, Bool.or_eq_true, List.isPrefixOf_iff_prefix,
        ih, List.infix_cons_iff]

end Questionnaire.Text
