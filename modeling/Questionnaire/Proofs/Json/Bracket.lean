import Questionnaire.Json.Bracket
import Questionnaire.Proofs.Json.Layout

/-
  Reading back lists and objects, whatever their layout.

  Key definitions include:
    * `Reader.Reads`
    * `Reader.PutsMembers`
    * `Layout.Puts`

  A list is read if its items are (`listItems_reads`).  A loop
  over the members of an object has its result if each member
  is put where it belongs (`loop_members`).
-/

------------------------------------------------------------
-- Readers of a Text
------------------------------------------------------------

namespace Questionnaire

namespace Reader

variable {α β : Type}

/-
  A text begins as a value does, and a reader takes it for a
  value wherever one may stand.
-/
structure Reads
    (reader : Reader α)
    (text : List Char)
    (value : α) : Prop where
  begins :
    ∃ c more, text = c :: more ∧ isBlank c = false ∧ c ≠ ']'
  reads :
    ∀ blanks rest, Blank blanks → Ends rest →
      reader (blanks ++ (text ++ rest)) = .ok (value, rest)

/- There may be no blanks. -/
theorem Reads.here
    {reader : Reader α}
    {text rest : List Char}
    {value : α}
    (hReads : reader.Reads text value)
    (hEnds : Ends rest) :
    reader (text ++ rest) = .ok (value, rest) :=
  hReads.reads [] rest blank_nil hEnds

/- How a text begins is known from the value that is written. -/
theorem reads_of_fits
    {reader : Reader α}
    {depth : Nat}
    {value : Json}
    {result : α}
    {layout : Layout}
    (hFits : value.Fits depth)
    (level : Nat)
    (hReads :
      ∀ blanks rest,
        Blank blanks → Ends rest →
          reader (blanks ++ (layout.chars level value ++ rest)) =
            .ok (result, rest)) :
    reader.Reads (layout.chars level value) result := by
  rcases Layout.begins hFits layout level with
    ⟨c, more, hText, hBlank, hOpen, _⟩
  exact ⟨⟨c, more, hText, hBlank, hOpen⟩, hReads⟩

/- What is blank may come after a value. -/
theorem ends_blank_append
    {blanks : List Char}
    {rest : List Char}
    (hBlanks : Blank blanks)
    (hEnds : Ends rest) :
    Ends (blanks ++ rest) := by
  cases blanks with
  | nil => exact hEnds
  | cons c blanks =>
      exact .inr (.inr (.inr (hBlanks c List.mem_cons_self)))

/- A value ends where a comma or the end of its bracket is. -/
theorem ends_separated
    {parts : List β}
    {written : β → List Char}
    {rest : List Char}
    (hEnds : Ends rest) :
    Ends
      (parts.flatMap (fun part => ',' :: written part)
        ++ rest) := by
  cases parts with
  | nil => exact hEnds
  | cons part parts => exact .inl rfl

/- A whole text may have blanks around its value. -/
theorem Reads.finish
    {reader : Reader α}
    {text before after : List Char}
    {value : α}
    (hReads : reader.Reads text value)
    (hBefore : Blank before)
    (hAfter : Blank after) :
    reader.finish (String.ofList (before ++ (text ++ after))) =
      .ok value := by
  have hEnds : Ends after := by
    cases after with
    | nil => trivial
    | cons c after =>
        exact .inr (.inr (.inr (hAfter c List.mem_cons_self)))
  have hRead := hReads.reads before after hBefore hEnds
  have hPeek : peek after = .ok (none, []) := by
    have hAll := peek_blank_append hAfter []
    rw [List.append_nil] at hAll
    rw [hAll]
    rfl
  rw [Reader.finish, String.toList_ofList, wholly,
    bind_of_ok hRead, bind_of_ok hPeek]
  rfl

end Reader

end Questionnaire

------------------------------------------------------------
-- Lists
------------------------------------------------------------

namespace Questionnaire

namespace Reader

variable {α β : Type}

/- A first item is there if the list does not end. -/
theorem nextItem_first
    {gap : List Char}
    {c : Char}
    (hGap : Blank gap)
    (hBlank : isBlank c = false)
    (hOpen : c ≠ ']')
    (rest : List Char) :
    nextItem true (gap ++ c :: rest) = .ok (true, c :: rest) := by
  rw [nextItem, bind_of_ok (peek_past hGap hBlank rest)]
  simp only []
  rfl

/- A comma leads to the next item. -/
theorem nextItem_comma
    {gap : List Char}
    {c : Char}
    (hGap : Blank gap)
    (hBlank : isBlank c = false)
    (hOpen : c ≠ ']')
    (rest : List Char) :
    nextItem false (',' :: (gap ++ c :: rest)) =
      .ok (true, c :: rest) := by
  have hComma : isBlank ',' = false := rfl
  rw [nextItem, bind_of_ok (peek_cons hComma _)]
  refine (bind_of_ok rfl).trans ?_
  refine (bind_of_ok (peek_past hGap hBlank rest)).trans ?_
  simp only []
  rfl

/- Its bracket leads out of a list. -/
theorem nextItem_end
    {last : List Char}
    (hLast : Blank last)
    (isFirst : Bool)
    (rest : List Char) :
    nextItem isFirst (last ++ ']' :: rest) = .ok (false, rest) := by
  have hBracket : isBlank ']' = false := rfl
  rw [nextItem, bind_of_ok (peek_past hLast hBracket rest)]
  rfl

/- One round of reading the items of a list. -/
def itemStep
    (item : Reader α)
    (sofar : List α) : Reader (List α ⊕ List α) := do
  if ← nextItem sofar.isEmpty then
    return .inl ((← item) :: sofar)
  else
    return .inr sofar.reverse

/- A round reads the item that comes next. -/
theorem itemStep_of_next
    {item : Reader α}
    {sofar : List α}
    {text more rest : List Char}
    {value : α}
    (hNext : nextItem sofar.isEmpty text = .ok (true, more))
    (hRead : item more = .ok (value, rest)) :
    itemStep item sofar text = .ok (.inl (value :: sofar), rest) := by
  rw [itemStep, bind_of_ok hNext, if_pos rfl, bind_of_ok hRead]
  rfl

/- A round after the last item ends the list. -/
theorem itemStep_of_end
    {item : Reader α}
    {last : List Char}
    (hLast : Blank last)
    (sofar : List α)
    (rest : List Char) :
    itemStep item sofar (last ++ ']' :: rest) =
      .ok (.inr sofar.reverse, rest) := by
  rw [itemStep, bind_of_ok (nextItem_end hLast _ rest)]
  rfl

variable {item : Reader α}
variable {written : β → List Char}
variable {meant : β → α}
variable {gap last : List Char}

/- The items after the first one are read up to the list's end. -/
theorem rounds_items
    {parts : List β}
    (hGap : Blank gap)
    (hLast : Blank last)
    (hParts :
      ∀ part ∈ parts, item.Reads (written part) (meant part))
    (rest : List Char)
    (before : α)
    (sofar : List α) :
    Rounds (itemStep item) (before :: sofar)
      (parts.flatMap (fun part => ',' :: (gap ++ written part))
        ++ (last ++ ']' :: rest))
      ((before :: sofar).reverse ++ parts.map meant) rest := by
  induction parts generalizing before sofar with
  | nil =>
      rw [List.map_nil, List.append_nil]
      exact .last (itemStep_of_end hLast _ rest)
  | cons part parts ih =>
      have hPart := hParts part List.mem_cons_self
      have hOthers :=
        ih (fun other hOther =>
          hParts other (List.mem_cons_of_mem _ hOther))
          (meant part) (before :: sofar)
      have hEnds :
          Ends (parts.flatMap
              (fun part => ',' :: (gap ++ written part))
            ++ (last ++ ']' :: rest)) :=
        ends_separated
          (ends_blank_append hLast (.inr (.inl rfl)))
      have hRead := hPart.here hEnds
      rcases hPart.begins with ⟨c, more, hText, hBlank, hOpen⟩
      rw [List.flatMap_cons, List.cons_append, List.cons_append,
        List.append_assoc, List.append_assoc]
      rw [hText] at hRead ⊢
      refine .next
        (itemStep_of_next (nextItem_comma hGap hBlank hOpen _) hRead)
        ?_ ?_
      · simp only [List.length_cons, List.length_append]
        omega
      · rw [List.reverse_cons, List.append_assoc] at hOthers
        exact hOthers

/- A list without items ends at once. -/
theorem listItems_nil
    (item : Reader α)
    (rest : List Char) :
    listItems item (']' :: rest) = .ok ([], rest) := by
  have hRounds :
      Rounds (itemStep item) [] (']' :: rest) [] rest :=
    .last rfl
  exact loop_of_rounds hRounds

/- A list is read if its items are. -/
theorem listItems_reads
    {part : β}
    {parts : List β}
    (hGap : Blank gap)
    (hLast : Blank last)
    (hParts :
      ∀ other ∈ part :: parts,
        item.Reads (written other) (meant other))
    (rest : List Char) :
    listItems item
        (gap ++ (written part
          ++ (parts.flatMap (fun part => ',' :: (gap ++ written part))
            ++ (last ++ ']' :: rest)))) =
      .ok ((part :: parts).map meant, rest) := by
  have hPart := hParts part List.mem_cons_self
  have hOthers :=
    rounds_items hGap hLast
      (fun other hOther =>
        hParts other (List.mem_cons_of_mem _ hOther))
      rest (meant part) []
  have hEnds :
      Ends (parts.flatMap (fun part => ',' :: (gap ++ written part))
        ++ (last ++ ']' :: rest)) :=
    ends_separated (ends_blank_append hLast (.inr (.inl rfl)))
  have hRead := hPart.here hEnds
  rcases hPart.begins with ⟨c, more, hText, hBlank, hOpen⟩
  rw [hText] at hRead ⊢
  apply loop_of_rounds
  refine .next
    (itemStep_of_next (nextItem_first hGap hBlank hOpen _) hRead)
    ?_ hOthers
  simp only [List.cons_append, List.length_cons, List.length_append]
  omega

end Reader

end Questionnaire

------------------------------------------------------------
-- Objects
------------------------------------------------------------

namespace Questionnaire

open Reader

namespace Layout

variable {gap last : List Char}

/- A key is read from its quote on. -/
theorem key_quoted
    (layout : Layout)
    (name : String)
    (rest : List Char) :
    nextKey.key '"' (layout.quoted name ++ rest) =
      .ok (some name, rest) := by
  rw [quoted_append, nextKey.key, beq_self_eq_true, if_pos rfl]
  refine (bind_of_ok rfl).trans ?_
  refine (bind_of_ok (string_quoted layout name rest)).trans ?_
  rfl

/- The first key is there if the object does not end. -/
theorem nextKey_first
    (hGap : Blank gap)
    (layout : Layout)
    (name : String)
    (rest : List Char) :
    nextKey true (gap ++ (layout.quoted name ++ rest)) =
      .ok (some name, rest) := by
  have hQuote : isBlank '"' = false := rfl
  have hKey := key_quoted layout name rest
  rw [quoted_append] at hKey ⊢
  rw [nextKey, bind_of_ok (peek_past hGap hQuote _)]
  exact hKey

/- A comma leads to the next key. -/
theorem nextKey_comma
    (hGap : Blank gap)
    (layout : Layout)
    (name : String)
    (rest : List Char) :
    nextKey false (',' :: (gap ++ (layout.quoted name ++ rest))) =
      .ok (some name, rest) := by
  have hComma : isBlank ',' = false := rfl
  have hQuote : isBlank '"' = false := rfl
  have hKey := key_quoted layout name rest
  rw [quoted_append] at hKey ⊢
  rw [nextKey, bind_of_ok (peek_cons hComma _)]
  refine (bind_of_ok rfl).trans ?_
  refine (bind_of_ok (peek_past hGap hQuote _)).trans ?_
  exact hKey

/- Its bracket leads out of an object. -/
theorem nextKey_end
    (hLast : Blank last)
    (isFirst : Bool)
    (rest : List Char) :
    nextKey isFirst (last ++ '\x7d' :: rest) = .ok (none, rest) := by
  have hBracket : isBlank '\x7d' = false := rfl
  rw [nextKey, bind_of_ok (peek_past hLast hBracket rest)]
  rfl

/- The colon is passed, and not the blanks after it. -/
theorem colon_cons
    (rest : List Char) :
    colon (':' :: rest) = .ok ((), rest) := rfl

end Layout

end Questionnaire

namespace Questionnaire

variable {σ β : Type}

/-
  A step of a loop over members asks for the next key, puts the
  member that it finds, and has its result at the end.
-/
structure Reader.PutsMembers
    (step : Bool × σ → Reader ((Bool × σ) ⊕ β))
    (put : String → σ → Reader σ)
    (result? : σ → β → Prop) : Prop where
  onward :
    ∀ {isFirst state next name text more rest},
      nextKey isFirst text = .ok (some name, more) →
      put name state more = .ok (next, rest) →
        step (isFirst, state) text = .ok (.inl (false, next), rest)
  ended :
    ∀ {isFirst state result text rest},
      nextKey isFirst text = .ok (none, rest) →
      result? state result →
        step (isFirst, state) text = .ok (.inr result, rest)

namespace Layout

open Reader

/- The state that some members lead to, put one by one. -/
inductive Puts
    (layout : Layout)
    (level : Nat)
    (put : String → σ → Reader σ) :
    σ → List (String × Json) → σ → Prop where
  | none
      {state : σ} :
      Puts layout level put state [] state
  | one
      {state next last : σ}
      {member : String × Json}
      {members : List (String × Json)}
      (puts :
        ∀ rest, Ends rest →
          put member.1 state
              (':' :: (layout.space
                ++ (layout.chars level member.2 ++ rest))) =
            .ok (next, rest))
      (others : Puts layout level put next members last) :
      Puts layout level put state (member :: members) last

variable {layout : Layout}
variable {level : Nat}
variable {step : Bool × σ → Reader ((Bool × σ) ⊕ β)}
variable {put : String → σ → Reader σ}
variable {result? : σ → β → Prop}
variable {state final : σ}
variable {result : β}
variable {members : List (String × Json)}
variable {gap last : List Char}

/- The members after the first one are put up to the end. -/
theorem rounds_members
    (hStep : PutsMembers step put result?)
    (hGap : Blank gap)
    (hLast : Blank last)
    (hPuts : layout.Puts level put state members final)
    (hResult : result? final result)
    (rest : List Char) :
    Rounds step (false, state)
      (members.flatMap (fun member =>
          ',' :: (gap ++ layout.memberChars level member))
        ++ (last ++ '\x7d' :: rest))
      result rest := by
  induction hPuts with
  | none =>
      exact .last (hStep.ended (nextKey_end hLast false rest) hResult)
  | @one state next final member members puts others ih =>
      have hEnds :
          Ends (members.flatMap (fun member =>
              ',' :: (gap ++ layout.memberChars level member))
            ++ (last ++ '\x7d' :: rest)) :=
        ends_separated
          (ends_blank_append hLast (.inr (.inr (.inl rfl))))
      have hPut := puts _ hEnds
      rw [List.flatMap_cons, List.cons_append, List.cons_append,
        List.append_assoc, List.append_assoc, memberChars,
        List.append_assoc, List.cons_append, List.append_assoc]
      refine .next
        (hStep.onward (nextKey_comma hGap layout member.1 _) hPut)
        ?_ (ih hResult)
      simp only [List.length_cons, List.length_append]
      omega

/- So the loop has its result at the end of the object. -/
theorem loop_members
    (hStep : PutsMembers step put result?)
    (hPuts : layout.Puts (level + 1) put state members final)
    (hResult : result? final result)
    (rest : List Char)
    {text : List Char}
    (hText :
      layout.chars level (.object members) ++ rest =
        '\x7b' :: text) :
    loop step (true, state) text = .ok (result, rest) := by
  apply loop_of_rounds
  cases hPuts with
  | none =>
      have hEmpty : text = '\x7d' :: rest :=
        (List.cons.inj hText).2.symm
      rw [hEmpty]
      exact .last
        (hStep.ended (nextKey_end blank_nil true rest) hResult)
  | @one _ next _ member members puts others =>
      have hGap : Blank (layout.gap (level + 1)) :=
        layout.blank_gap (level + 1)
      have hLast : Blank (layout.gap level) := layout.blank_gap level
      have hEnds :
          Ends (members.flatMap (fun member =>
              ',' :: (layout.gap (level + 1)
                ++ layout.memberChars (level + 1) member))
            ++ (layout.gap level ++ '\x7d' :: rest)) :=
        ends_separated
          (ends_blank_append hLast (.inr (.inr (.inl rfl))))
      have hPut := puts _ hEnds
      rw [chars_object_cons] at hText
      simp only [List.cons_append, List.append_assoc,
        List.nil_append] at hText
      rw [← (List.cons.inj hText).2]
      rw [memberChars, List.append_assoc, List.cons_append,
        List.append_assoc]
      refine .next
        (hStep.onward (nextKey_first hGap layout member.1 _) hPut)
        ?_ (rounds_members hStep hGap hLast others hResult rest)
      simp only [List.length_cons, List.length_append]
      omega

end Layout

end Questionnaire
