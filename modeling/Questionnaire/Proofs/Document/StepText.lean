import Questionnaire.Proofs.Document.Controls

/-
  The blocks of the steps in the text of a form.

  Key definitions include:
    * `StepBlock`
    * `stepBlocksIn`
    * `StepText`
    * `StepBlock.Shows`

  A block goes from the mark of a step's number to the next one,
  or to the end of the form.  In a text that is made of steps
  with sound texts there is one block for each step, in their
  order (`shows_stepBlocksIn`).
-/

------------------------------------------------------------
-- Blocks
------------------------------------------------------------

namespace Questionnaire.Document

/- A text up to the first place of a mark, if there is one. -/
def upTo
    (mark : List Char)
    (text : List Char) : List Char :=
  match cut? mark text with
  | some (before, _) => before
  | none => text

/-
  The block of a step: the tag that it begins in, its number,
  and its text.
-/
structure StepBlock where
  tag : List Char
  number : List Char
  text : List Char
  deriving DecidableEq, Repr

/- The block that is marked between two texts. -/
def StepBlock.between
    (before after : List Char) : StepBlock :=
  { tag :=
      (before.reverse.takeWhile (fun c => c != '<')).reverse
        ++ Landmark.step.chars
        ++ after.takeWhile (fun c => c != '>')
    number := after.takeWhile (fun c => c != '"')
    text :=
      Landmark.step.chars ++ upTo Landmark.step.chars after }

/- The blocks of a text, in their order. -/
def stepBlocksIn
    (text : List Char) : List StepBlock :=
  (places Landmark.step.chars text).map
    (fun (before, after) => .between before after)

/- How often a landmark is found in a block. -/
def StepBlock.count
    (landmark : Landmark)
    (block : StepBlock) : Nat :=
  occurrences landmark.chars block.text

/- The classes that a tag names. -/
def classesOf
    (tag : List Char) : List (List Char) :=
  match cut? "class=\"".toList tag with
  | some (_, rest) =>
      Text.split (fun c => c == ' ')
        (rest.takeWhile (fun c => c != '"'))
  | none => []

/- Whether a block is on screen at the beginning. -/
def StepBlock.active
    (block : StepBlock) : Bool :=
  (classesOf block.tag).contains "active".toList

end Questionnaire.Document

------------------------------------------------------------
-- Texts of Steps
------------------------------------------------------------

namespace Questionnaire.Document

/- The tag of a step, up to the mark of its number. -/
def stepTag
    (active : Bool) : List Char :=
  "<div class=\"step".toList
    ++ (if active then " active".toList else [])
    ++ "\" ".toList

/-
  The text of a step: blanks, its tag, its number and the rest,
  with the landmarks after the mark of its number.
-/
structure StepText where
  lead : List Char
  active : Bool
  step : Nat
  rest : List Char
  found : List Landmark

namespace StepText

/- What stands before the mark of the number. -/
def opening
    (item : StepText) : List Char :=
  item.lead ++ stepTag item.active

/- What stands after the mark of the number. -/
def body
    (item : StepText) : List Char :=
  (toString item.step).toList ++ '"' :: item.rest

/- The whole text of a step. -/
def chars
    (item : StepText) : List Char :=
  item.opening ++ (Landmark.step.chars ++ item.body)

/- A step shows the landmarks that it names, and no other step. -/
structure Sound
    (item : StepText) : Prop where
  lead : BearsText item.lead []
  body : BearsText item.body item.found
  within :
    ∀ landmark ∈ item.found,
      landmark ≠ .step ∧ landmark ≠ .formEnd

end StepText

/- A block shows a step, with what comes before the next one. -/
structure StepBlock.Shows
    (item : StepText)
    (block : StepBlock) : Prop where
  number : block.number = (toString item.step).toList
  active : block.active = item.active
  count :
    ∀ landmark, landmark ≠ .step →
      block.count landmark = item.found.count landmark

/- A landmark begins where it stands. -/
theorem bearsText_known
    {found : List Landmark}
    (text : List Char)
    (hFound : landmarksIn? (text.map some) = some found) :
    BearsText text found :=
  bearsText_of_landmarksIn? (realizes_chars text) hFound

theorem bearsText_stepMark :
    BearsText Landmark.step.chars [.step] :=
  bearsText_known _ (by decide +kernel)

/- No landmark begins in the tag of a step. -/
theorem bearsText_stepTag
    (active : Bool) :
    BearsText (stepTag active) [] := by
  apply bearsText_known
  cases active <;> decide +kernel

variable {item : StepText}

theorem StepText.Sound.opening
    (hItem : item.Sound) :
    BearsText item.opening [] :=
  hItem.lead.append (bearsText_stepTag item.active)

/- A sound step has one mark of a number. -/
theorem StepText.Sound.chars
    (hItem : item.Sound) :
    BearsText item.chars (.step :: item.found) :=
  hItem.opening.append (bearsText_stepMark.append hItem.body)

end Questionnaire.Document

------------------------------------------------------------
-- Numbers and Tags
------------------------------------------------------------

namespace Questionnaire.Document

/- A number is written with digits. -/
theorem isDigit_of_mem_toString
    {n : Nat}
    {c : Char}
    (hMem : c ∈ (toString n).toList) :
    c.isDigit = true := by
  rw [Nat.toString_eq_repr, Nat.toList_repr] at hMem
  exact Nat.isDigit_of_mem_toDigits (by decide) (by decide) hMem

/- The number of a block ends where its attribute does. -/
theorem takeWhile_number
    (n : Nat)
    (rest : List Char) :
    ((toString n).toList ++ '"' :: rest).takeWhile
        (fun c => c != '"') =
      (toString n).toList := by
  have hDigits :
      ∀ c ∈ (toString n).toList, (c != '"') = true := by
    intro c hMem
    rw [bne_iff_ne]
    intro hEq
    have hDigit := isDigit_of_mem_toString hMem
    rw [hEq] at hDigit
    exact absurd hDigit (by decide)
  rw [List.takeWhile_append_of_pos hDigits]
  simp

/- A tag begins at the last mark of one. -/
theorem takeWhile_tag
    {tag : List Char}
    (hTag : '<' ∉ tag)
    (start : List Char) :
    ((start ++ '<' :: tag).reverse.takeWhile
        (fun c => c != '<')).reverse =
      tag := by
  have hInside :
      ∀ c ∈ tag.reverse, (c != '<') = true := by
    intro c hMem
    rw [bne_iff_ne]
    intro hEq
    rw [hEq] at hMem
    exact hTag (List.mem_reverse.mp hMem)
  rw [List.reverse_append, List.reverse_cons, List.append_assoc,
    List.takeWhile_append_of_pos hInside]
  simp

/- The classes of a step say whether it is on screen at first. -/
theorem classesOf_stepTag
    (active : Bool)
    (rest : List Char) :
    classesOf ((stepTag active).tail ++ rest) =
      if active then
        ["step".toList, "active".toList]
      else
        ["step".toList] := by
  have hTag :
      (stepTag active).tail ++ rest =
        ['d', 'i', 'v', ' ']
          ++ ('c' :: ['l', 'a', 's', 's', '=', '"']
            ++ ("step".toList
              ++ (if active then " active".toList else [])
              ++ '"' :: ' ' :: rest)) := by
    cases active <;> rfl
  have hCut :
      cut? "class=\"".toList ((stepTag active).tail ++ rest) =
        some (['d', 'i', 'v', ' '],
          "step".toList
            ++ (if active then " active".toList else [])
            ++ '"' :: ' ' :: rest) := by
    rw [hTag]
    exact cut?_mark (by decide) (by decide) _
  unfold classesOf
  rw [hCut]
  cases active <;> rfl

/- A block is on screen at first if its tag says so. -/
theorem active_between
    (start rest : List Char)
    (active : Bool) :
    (StepBlock.between (start ++ stepTag active) rest).active =
      active := by
  have hStart : stepTag active = '<' :: (stepTag active).tail := by
    cases active <;> rfl
  have hTag : '<' ∉ (stepTag active).tail := by
    cases active <;> decide
  unfold StepBlock.active StepBlock.between
  rw [hStart, takeWhile_tag hTag, List.append_assoc,
    classesOf_stepTag]
  cases active <;> decide

end Questionnaire.Document

------------------------------------------------------------
-- Blocks of Texts of Steps
------------------------------------------------------------

namespace Questionnaire.Document

variable {item : StepText}
variable {items : List StepText}
variable {front next ending : List Char}

/- A block goes up to the next mark of a number. -/
theorem upTo_mark
    (hNone : occurrences Landmark.step.chars front = 0)
    (rest : List Char) :
    upTo Landmark.step.chars
        (front ++ (Landmark.step.chars ++ rest)) =
      front := by
  have hCut :
      cut? Landmark.step.chars
          (front ++ (Landmark.step.chars ++ rest)) =
        some (front, rest) :=
    cut?_mark (by decide) hNone rest
  unfold upTo
  rw [hCut]

theorem upTo_eq_self
    (hNone : occurrences Landmark.step.chars front = 0) :
    upTo Landmark.step.chars front = front := by
  unfold upTo
  rw [cut?_eq_none hNone]

/- What is between two marks of numbers shows the first step. -/
theorem shows_between
    (hItem : item.Sound)
    (hNext : BearsText next [])
    (start : List Char)
    {after : List Char}
    (hAfter :
      upTo Landmark.step.chars (item.body ++ after) =
        item.body ++ next) :
    StepBlock.Shows item
      (.between (start ++ item.opening) (item.body ++ after)) := by
  constructor
  · have hBody :
        item.body ++ after =
          (toString item.step).toList
            ++ '"' :: (item.rest ++ after) :=
      List.append_assoc _ _ _
    rw [hBody]
    exact takeWhile_number _ _
  · unfold StepText.opening
    rw [← List.append_assoc]
    exact active_between _ _ _
  · intro landmark hLandmark
    have hText :
        BearsText (Landmark.step.chars ++ (item.body ++ next))
          ([.step] ++ (item.found ++ [])) :=
      bearsText_stepMark.append (hItem.body.append hNext)
    unfold StepBlock.count StepBlock.between
    rw [hAfter, (hText landmark).occurrences, List.append_nil,
      List.count_append,
      List.count_singleton, beq_false_of_ne hLandmark.symm]
    exact Nat.zero_add _

/- There is no mark of a number after the one of a step. -/
theorem StepText.Sound.counts_body
    (hItem : item.Sound) :
    Counts Landmark.step.chars item.body 0 := by
  have hNone : item.found.count .step = 0 :=
    List.count_eq_zero.mpr
      (fun hMem => (hItem.within _ hMem).1 rfl)
  rw [← hNone]
  exact hItem.body .step

/- The first step has its mark between its tag and its body. -/
theorem StepText.flatMap_cons_append
    (item : StepText)
    (items : List StepText)
    (ending : List Char) :
    (item :: items).flatMap StepText.chars ++ ending =
      item.opening
        ++ (Landmark.step.chars
          ++ (item.body
            ++ (items.flatMap StepText.chars ++ ending))) := by
  simp only [List.flatMap_cons, StepText.chars, List.append_assoc]

/- After a step its block goes on to the next step or to the end. -/
theorem exists_next
    (hItem : item.Sound)
    (hItems : ∀ other ∈ items, other.Sound)
    (hEnding : BearsText ending []) :
    ∃ next,
      BearsText next [] ∧
        upTo Landmark.step.chars
            (item.body
              ++ (items.flatMap StepText.chars ++ ending)) =
          item.body ++ next := by
  have hNone
      {next : List Char}
      (hNext : BearsText next []) :
      occurrences Landmark.step.chars (item.body ++ next) = 0 :=
    (hItem.counts_body.append (hNext .step)).occurrences
  cases items with
  | nil => exact ⟨ending, hEnding, upTo_eq_self (hNone hEnding)⟩
  | cons other items =>
      have hOther := hItems other List.mem_cons_self
      refine ⟨other.opening, hOther.opening, ?_⟩
      rw [StepText.flatMap_cons_append, ← List.append_assoc item.body]
      exact upTo_mark (hNone hOther.opening) _

/-
  A text that is made of the texts of steps has one block for
  each of them, in their order.
-/
theorem shows_places
    (hItems : ∀ item ∈ items, item.Sound)
    (hEnding : BearsText ending [])
    (hFront : Counts Landmark.step.chars front 0)
    (start : List Char) :
    List.Forall₂ StepBlock.Shows items
      ((places Landmark.step.chars
          (front ++ (items.flatMap StepText.chars ++ ending))).map
        (fun (before, after) =>
          .between (start ++ before) after)) := by
  -- What is before the first mark of a number is any text without
  -- one; after the mark it is the body of the step.
  induction items generalizing front start with
  | nil =>
      have hNone :
          occurrences Landmark.step.chars (front ++ ending) = 0 :=
        (hFront.append (hEnding .step)).occurrences
      rw [List.flatMap_nil, List.nil_append, places_eq_nil hNone]
      exact .nil
  | cons item items ih =>
      rcases List.forall_mem_cons.mp hItems with ⟨hItem, hMore⟩
      rcases exists_next hItem hMore hEnding with
        ⟨next, hNext, hAfter⟩
      have hNone :
          occurrences Landmark.step.chars (front ++ item.opening) =
            0 :=
        (hFront.append (hItem.opening .step)).occurrences
      have hPlaces :
          places Landmark.step.chars
              (front ++ item.opening
                ++ (Landmark.step.chars
                  ++ (item.body
                    ++ (items.flatMap StepText.chars
                      ++ ending)))) = _ :=
        places_mark (by decide) hNone _
      rw [StepText.flatMap_cons_append, ← List.append_assoc front,
        hPlaces, List.map_cons, List.map_map]
      constructor
      · have hShows :=
          shows_between hItem hNext (start ++ front) hAfter
        rw [List.append_assoc] at hShows
        exact hShows
      · have hRest :=
          ih hMore hItem.counts_body
            (start ++ (front ++ item.opening ++ Landmark.step.chars))
        have hSame :
            (fun (before, after) =>
                StepBlock.between
                  (start
                    ++ (front ++ item.opening ++ Landmark.step.chars)
                    ++ before)
                  after) =
              (fun (before, after) =>
                  StepBlock.between (start ++ before) after)
                ∘ (fun ((before, after) : List Char × List Char) =>
                  (front ++ item.opening
                    ++ (Landmark.step.chars ++ before), after)) := by
          funext ⟨before, after⟩
          simp only [Function.comp, List.append_assoc]
        rw [hSame] at hRest
        exact hRest

/- The form does not end within its steps. -/
theorem counts_formEnd
    (hItems : ∀ item ∈ items, item.Sound) :
    Counts Landmark.formEnd.chars (items.flatMap StepText.chars)
      0 := by
  induction items with
  | nil => exact .nil
  | cons item items ih =>
      rcases List.forall_mem_cons.mp hItems with ⟨hItem, hMore⟩
      have hNone : (.step :: item.found).count .formEnd = 0 := by
        rw [List.count_eq_zero]
        intro hMem
        rcases List.mem_cons.mp hMem with hEq | hFound
        · cases hEq
        · exact (hItem.within _ hFound).2 rfl
      have hHere := hItem.chars .formEnd
      rw [hNone] at hHere
      exact hHere.append (ih hMore)

/- The blocks of a form. -/
theorem shows_stepBlocksIn
    (hItems : ∀ item ∈ items, item.Sound)
    (hEnding : BearsText ending [])
    (hFront : Counts Landmark.step.chars front 0) :
    List.Forall₂ StepBlock.Shows items
      (stepBlocksIn
        (front ++ (items.flatMap StepText.chars ++ ending))) :=
  shows_places hItems hEnding hFront []

end Questionnaire.Document
