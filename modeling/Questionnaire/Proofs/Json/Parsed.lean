import Mathlib.Data.List.DropRight
import Questionnaire.Proofs.Json.Written
import Questionnaire.Proofs.Results

/-
  Parsing a text is reading it as it is written and putting the
  members of its objects in order (`Json.parse_eq_map`).

  The two readers go through a text alike, so that the results
  of one are those of the other, changed (`Reader.loop_map`,
  `Reader.value_eq_map`).  What is written of a value is
  therefore parsed as this value with its members in order,
  whatever its layout (`Json.parse_chars`).
-/

------------------------------------------------------------
-- Readers of the Same Texts
------------------------------------------------------------

namespace Questionnaire

namespace Reader

variable {α β σ τ : Type}

/- Changing a result leaves alone what is then left. -/
theorem map_apply
    (change : α → β)
    (reader : Reader α)
    (text : List Char) :
    (change <$> reader) text =
      (reader text).map
        (fun result => (change result.1, result.2)) := by
  have hRun :
      (change <$> reader) text =
        (reader text >>= fun result =>
          pure (change result.1, result.2)) := rfl
  rw [hRun]
  cases reader text with
  | ok result => rfl
  | error fault => rfl

/-
  Loops whose steps do the same to states that belong together
  have results that belong together.  The induction is on the
  rounds that are left.
-/
theorem loopAlong_map
    {step : σ → Reader (σ ⊕ α)}
    {other : τ → Reader (τ ⊕ β)}
    {convey : σ → τ}
    {change : α → β}
    (hStep :
      ∀ state,
        other (convey state) =
          Sum.map convey change <$> step state)
    (along : List Char)
    (state : σ) :
    loopAlong other along (convey state) =
      change <$> loopAlong step along state := by
  induction along generalizing state with
  | nil => rfl
  | cons c along ih =>
      rw [loopAlong, loopAlong, hStep, bind_map_left, map_bind]
      congr 1
      funext outcome
      cases outcome with
      | inl next => exact ih next
      | inr result => exact (map_pure change result).symm

theorem loop_map
    {step : σ → Reader (σ ⊕ α)}
    {other : τ → Reader (τ ⊕ β)}
    {change : α → β}
    (convey : σ → τ)
    (hStep :
      ∀ state,
        other (convey state) =
          Sum.map convey change <$> step state)
    (state : σ) :
    loop other (convey state) = change <$> loop step state := by
  funext text
  exact congrFun (loopAlong_map hStep (' ' :: text) state) text

/- Items that are changed make up the list of changed items. -/
theorem listItems_map
    (item : Reader α)
    (change : α → β) :
    listItems (change <$> item) =
      List.map change <$> listItems item := by
  refine loop_map (List.map change) ?_ []
  intro sofar
  rw [List.isEmpty_map, map_bind]
  congr 1
  funext isNext
  cases isNext with
  | false => simp
  | true => simp

/- The end of a text is the same for what was read before. -/
theorem finish_map
    (reader : Reader α)
    (change : α → β)
    (source : String) :
    (change <$> reader).finish source =
      (reader.finish source).map change := by
  have hWholly :
      wholly (change <$> reader) = change <$> wholly reader := by
    rw [wholly, wholly, bind_map_left, map_bind]
    congr 1
    funext result
    rw [map_bind]
    congr 1
    funext next
    cases next with
    | none => exact (map_pure change result).symm
    | some c => rfl
  rw [finish, finish, hWholly, map_apply]
  cases wholly reader source.toList with
  | ok result => rfl
  | error fault => rfl

end Reader

end Questionnaire

------------------------------------------------------------
-- Putting Members in Order
------------------------------------------------------------

namespace Questionnaire

namespace Reader

/-
  The members of an object in order are those that were read as
  they stand, put in order.
-/
theorem members_map
    (value : Reader Json) :
    members (Json.inKeyOrder <$> value) =
      Json.inKeyOrder <$> writtenMembers value := by
  refine loop_map
    (fun (sofar : Bool × List (String × Json)) =>
      (sofar.1, Table.ofList (membersInKeyOrder sofar.2.reverse)))
    ?_ (true, [])
  intro sofar
  rw [map_bind]
  congr 1
  funext next
  cases next with
  | none =>
      rw [map_pure, Sum.map_inr, Json.inKeyOrder]
  | some name =>
      simp only [map_bind, bind_map_left, map_pure, Sum.map_inl,
        membersInKeyOrder_eq_map, Table.ofList, List.reverse_cons,
        List.map_append, List.foldl_append]
      rfl

/- What is no object is read as it stands, its items aside. -/
theorem valueWith_map
    {inner : Option (Reader Json)}
    {text : List Char}
    (hOther :
      inner = none ∨
        (text.dropWhile isBlank).head? ≠ some '\x7b') :
    valueWith (inner.map (Json.inKeyOrder <$> ·)) text =
      (Json.inKeyOrder <$> valueWith inner) text := by
  have hPeek :
      peek text =
        .ok ((text.dropWhile isBlank).head?,
          text.dropWhile isBlank) := rfl
  unfold valueWith
  rw [map_bind, bind_of_ok hPeek, bind_of_ok hPeek]
  generalize (text.dropWhile isBlank).head? = next at hOther
  split
  case h_1 => rfl
  case h_6 =>
    cases inner with
    | none => rfl
    | some inner =>
        simp only [Option.map_some, listItems_map, map_bind,
          bind_map_left, map_pure, Json.inKeyOrder,
          itemsInKeyOrder_eq_map]
  case h_7 =>
    cases inner with
    | none => rfl
    | some inner =>
        have hNext := hOther.resolve_left (Option.some_ne_none inner)
        exact absurd rfl hNext
  case h_8 =>
    split
    · simp only [map_bind, map_pure, Json.inKeyOrder]
    · rfl
  all_goals simp only [map_bind, map_pure, Json.inKeyOrder]

/- Looking at what comes next does not change what is read. -/
theorem valueWith_dropWhile
    (inner : Option (Reader Json))
    (text : List Char) :
    valueWith inner (text.dropWhile isBlank) =
      valueWith inner text := by
  have hPeek :
      peek (text.dropWhile isBlank) = peek text := by
    simp only [peek, List.dropWhile_idempotent]
  unfold valueWith
  simp only [bind, StateT.bind, hPeek]

/- Values are read in order as they are read and put in order. -/
theorem valueWith_eq_map
    (inner : Option (Reader Json)) :
    valueWith (inner.map (Json.inKeyOrder <$> ·)) =
      Json.inKeyOrder <$> writtenWith inner := by
  funext text
  have hPeek :
      peek text =
        .ok ((text.dropWhile isBlank).head?,
          text.dropWhile isBlank) := rfl
  unfold writtenWith
  rw [map_bind, bind_of_ok hPeek]
  split
  case h_1 inner hNext =>
    unfold valueWith
    rw [bind_of_ok hPeek, hNext, map_bind]
    simp only [Option.map_some, members_map]
  case h_2 inner _ next hNext =>
    have hOther :
        inner = none ∨
          (text.dropWhile isBlank).head? ≠ some '\x7b' := by
      cases inner with
      | none => exact .inl rfl
      | some inner =>
          exact .inr (fun hObject => hNext inner rfl hObject)
    rw [valueWith_map hOther, map_apply, map_apply,
      valueWith_dropWhile]

/- At every depth values are read in order. -/
theorem value_eq_map
    (depth : Nat) :
    value depth = Json.inKeyOrder <$> written depth := by
  induction depth with
  | zero => exact valueWith_eq_map none
  | succ depth ih =>
      rw [value, ih]
      exact valueWith_eq_map (some (written depth))

end Reader

/-
  A text is parsed as the value that it spells, with the members
  of its objects in order and the last of those with one name.
-/
theorem Json.parse_eq_map
    (source : String) :
    Json.parse source =
      (Json.parseWritten source).map Json.inKeyOrder := by
  rw [parse, parseWritten, Reader.value_eq_map, Reader.finish_map]

/- So what a text is parsed as is something written, in order. -/
theorem Json.parse_eq_ok_iff
    {source : String}
    {value : Json} :
    Json.parse source = .ok value ↔
      ∃ written,
        Json.parseWritten source = .ok written ∧
          written.inKeyOrder = value := by
  rw [parse_eq_map, map_eq_ok]

end Questionnaire

------------------------------------------------------------
-- Parsing What Was Written
------------------------------------------------------------

namespace Questionnaire

open Reader

namespace Json

/-
  A text that spells a value has that value when it is parsed,
  with the members of its objects in order.
-/
theorem parse_chars
    {value : Json}
    (hFits : value.Fits depthLimit)
    (layout : Layout)
    {before after : List Char}
    (hBefore : Blank before)
    (hAfter : Blank after) :
    parse (String.ofList
        (before ++ (layout.chars 0 value ++ after))) =
      .ok value.inKeyOrder := by
  rw [parse_eq_map, parseWritten_chars hFits layout hBefore hAfter]
  rfl

theorem parse_compact
    {value : Json}
    (hFits : value.Fits depthLimit) :
    parse value.compact = .ok value.inKeyOrder := by
  have hParse := parse_chars hFits .compact blank_nil blank_nil
  rw [List.nil_append, List.append_nil, Layout.chars_compact]
    at hParse
  exact hParse

theorem parse_pretty
    {value : Json}
    (hFits : value.Fits depthLimit) :
    parse value.pretty = .ok value.inKeyOrder := by
  have hParse := parse_chars hFits .pretty blank_nil blank_nil
  rw [List.nil_append, List.append_nil, Layout.chars_pretty] at hParse
  exact hParse

end Json

end Questionnaire
