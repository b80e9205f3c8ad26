import Questionnaire.Json.Parse
import Questionnaire.Proofs.Json.Bracket

/-
  JSON texts as they are written: the members of an object in
  the order of the text, and every member with a repeated name.

  Key definitions include:
    * `Reader.writtenMembers`
    * `Reader.written`
    * `Json.parseWritten`

  A written value is read as it stands, whatever its layout.
  The text may have blanks around it, and its brackets may be
  nested as deep as a reader follows them
  (`Json.parseWritten_chars`).
-/

------------------------------------------------------------
-- Reading as It Is Written
------------------------------------------------------------

namespace Questionnaire

namespace Reader

/- Read the members of an object and keep them as they come. -/
def writtenMembers
    (value : Reader Json) : Reader Json :=
  loop
    (fun (sofar : Bool × List (String × Json)) => do
      match ← nextKey sofar.1 with
      | none => return .inr (.object sofar.2.reverse)
      | some name =>
          colon
          return .inl (false, (name, ← value) :: sofar.2))
    (true, [])

/-
  Read a value, and the values in its brackets as told.  Only
  objects are read in another way than where order counts.
-/
def writtenWith
    (inner : Option (Reader Json)) : Reader Json := do
  match inner, ← peek with
  | some inner, some '\x7b' =>
      skip
      writtenMembers inner
  | inner, _ => valueWith inner

/- Read a value whose brackets are nested at most so deep. -/
def written : Nat → Reader Json
  | 0 => writtenWith none
  | depth + 1 => writtenWith (some (written depth))

end Reader

/- The value that a text spells, with its members as they stand. -/
def Json.parseWritten
    (source : String) : Except Json.Refusal Json :=
  (Reader.written Json.depthLimit).finish source

end Questionnaire

------------------------------------------------------------
-- Single Values
------------------------------------------------------------

namespace Questionnaire

namespace Reader

variable {inner : Option (Reader Json)}
variable {layout : Layout}
variable {level : Nat}
variable {blanks rest : List Char}

theorem valueWith_null
    (hBlanks : Blank blanks) :
    valueWith inner
        (blanks ++ (layout.chars level .null ++ rest)) =
      .ok (.null, rest) := by
  have hWord : isBlank 'n' = false := rfl
  unfold valueWith
  rw [Layout.chars, List.cons_append,
    bind_of_ok (peek_past hBlanks hWord _)]
  rfl

theorem valueWith_bool
    (value : Bool)
    (hBlanks : Blank blanks) :
    valueWith inner
        (blanks ++ (layout.chars level (.bool value) ++ rest)) =
      .ok (.bool value, rest) := by
  have hWords : isBlank 't' = false ∧ isBlank 'f' = false :=
    ⟨rfl, rfl⟩
  unfold valueWith
  cases value with
  | true =>
      rw [Layout.chars, List.cons_append,
        bind_of_ok (peek_past hBlanks hWords.1 _)]
      rfl
  | false =>
      rw [Layout.chars, List.cons_append,
        bind_of_ok (peek_past hBlanks hWords.2 _)]
      rfl

theorem valueWith_string
    (value : String)
    (hBlanks : Blank blanks) :
    valueWith inner
        (blanks ++ (layout.chars level (.string value) ++ rest)) =
      .ok (.string value, rest) := by
  have hQuote : isBlank '"' = false := rfl
  have hString := Layout.string_quoted layout value rest
  unfold valueWith
  rw [Layout.chars, Layout.quoted_append,
    bind_of_ok (peek_past hBlanks hQuote _)]
  refine (bind_of_ok rfl).trans ?_
  exact bind_of_ok hString

/- What begins with a sign or a digit is read as a number. -/
theorem valueWith_integer
    {value : Int}
    (hWhole : Whole value)
    (hBlanks : Blank blanks)
    (hEnds : Ends rest) :
    valueWith inner
        (blanks ++
          (layout.chars level (.number (.integer value)) ++ rest)) =
      .ok (.number (.integer value), rest) := by
  have hRead := number_text hWhole hEnds
  rcases Layout.exists_text_integer value with
    ⟨c, more, hText, hNumber⟩
  have hNe {d : Char} := Layout.ne_of_sign_or_digit (d := d) hNumber
  have hBlank := Layout.not_isBlank_of_sign_or_digit hNumber
  rw [hText, List.cons_append] at hRead
  rw [Layout.chars_integer, hText, List.cons_append]
  have hResult :
      (do return Json.number (← number) : Reader Json)
          (c :: (more ++ rest)) =
        .ok (.number (.integer value), rest) :=
    bind_of_ok hRead
  unfold valueWith
  rw [bind_of_ok (peek_past hBlanks hBlank _)]
  refine (congrFun ?_ _).trans hResult
  split
  case h_1 hEq => exact absurd hEq nofun
  case h_8 hEq =>
    rw [← Option.some.inj hEq, if_pos hNumber]
  all_goals
    rename_i hEq
    exact absurd (Option.some.inj hEq) (hNe (by decide) rfl)

end Reader

end Questionnaire

------------------------------------------------------------
-- Reading What Was Written
------------------------------------------------------------

namespace Questionnaire

namespace Reader

variable {inner : Reader Json}
variable {layout : Layout}
variable {level : Nat}
variable {blanks rest : List Char}

/- What does not begin as an object is read like any value. -/
theorem writtenWith_of_ne
    {inner : Option (Reader Json)}
    {c : Char}
    (hBlanks : Blank blanks)
    (hBlank : isBlank c = false)
    (hOther : c ≠ '\x7b') :
    writtenWith inner (blanks ++ c :: rest) =
      valueWith inner (blanks ++ c :: rest) := by
  have hPeek := peek_past hBlanks hBlank rest
  have hValue : valueWith inner (c :: rest) =
      valueWith inner (blanks ++ c :: rest) := by
    unfold valueWith
    rw [bind_of_ok hPeek, bind_of_ok (peek_cons hBlank rest)]
  unfold writtenWith
  rw [bind_of_ok hPeek, ← hValue]
  generalize hNext : some c = next
  split
  case h_1 => exact absurd (Option.some.inj hNext) hOther
  case h_2 => rfl

/- Read a member and put it before those that came. -/
def keepMember
    (value : Reader Json)
    (name : String)
    (sofar : List (String × Json)) :
    Reader (List (String × Json)) := do
  colon
  return (name, ← value) :: sofar

/- The members of an object lead to their reversed list. -/
theorem puts_keepMember
    {members : List (String × Json)}
    (hMembers :
      ∀ member ∈ members,
        inner.Reads (layout.chars level member.2) member.2)
    (sofar : List (String × Json)) :
    layout.Puts level (keepMember inner) sofar members
      (members.reverse ++ sofar) := by
  induction members generalizing sofar with
  | nil => exact .none
  | cons member members ih =>
      rw [List.reverse_cons, List.append_assoc]
      refine .one ?_
        (ih (fun other hOther =>
          hMembers other (List.mem_cons_of_mem _ hOther)) _)
      intro rest hEnds
      have hRead :=
        (hMembers member List.mem_cons_self).reads layout.space rest
          layout.blank_space hEnds
      rw [keepMember, bind_of_ok (Layout.colon_cons _),
        bind_of_ok hRead]
      rfl

/- The loop over members gives them as they came. -/
theorem putsMembers_written
    (value : Reader Json) :
    PutsMembers
      (fun (sofar : Bool × List (String × Json)) => do
        match ← nextKey sofar.1 with
        | none => return .inr (Json.object sofar.2.reverse)
        | some name =>
            colon
            return .inl (false, (name, ← value) :: sofar.2))
      (keepMember value)
      (fun sofar result => result = Json.object sofar.reverse) := by
  constructor
  · intro isFirst sofar next name text more rest hKey hPut
    have hNext :
        (do return .inl (false, ← keepMember value name sofar) :
            Reader ((Bool × List (String × Json)) ⊕ Json)) more =
          .ok (.inl (false, next), rest) :=
      bind_of_ok hPut
    simp only [keepMember, bind_assoc, pure_bind] at hNext
    exact (bind_of_ok hKey).trans hNext
  · intro isFirst sofar result text rest hKey hResult
    refine (bind_of_ok hKey).trans ?_
    rw [hResult]
    rfl

/- An object is read as it stands if its members are. -/
theorem writtenWith_object
    {members : List (String × Json)}
    (hMembers :
      ∀ member ∈ members,
        inner.Reads (layout.chars (level + 1) member.2) member.2)
    (hBlanks : Blank blanks) :
    writtenWith (some inner)
        (blanks ++ (layout.chars level (.object members) ++ rest)) =
      .ok (.object members, rest) := by
  have hBracket : isBlank '\x7b' = false := rfl
  rcases layout.exists_chars_object level members with ⟨more, hText⟩
  have hResult :
      Json.object members =
        Json.object (members.reverse ++ []).reverse := by
    rw [List.append_nil, List.reverse_reverse]
  have hLoop :=
    Layout.loop_members (putsMembers_written inner)
      (puts_keepMember hMembers []) hResult rest
      (by rw [hText]; rfl)
  unfold writtenWith
  rw [hText, List.cons_append,
    bind_of_ok (peek_past hBlanks hBracket _)]
  refine (bind_of_ok rfl).trans ?_
  exact hLoop

/- A list is read as it stands if its items are. -/
theorem writtenWith_array
    {items : List Json}
    (hItems :
      ∀ item ∈ items,
        inner.Reads (layout.chars (level + 1) item) item)
    (hBlanks : Blank blanks) :
    writtenWith (some inner)
        (blanks ++ (layout.chars level (.array items) ++ rest)) =
      .ok (.array items, rest) := by
  have hBracket : isBlank '[' = false := rfl
  cases items with
  | nil =>
      rw [Layout.chars, List.cons_append,
        writtenWith_of_ne hBlanks hBracket (by decide)]
      unfold valueWith
      rw [bind_of_ok (peek_past hBlanks hBracket _)]
      refine (bind_of_ok rfl).trans ?_
      exact bind_of_ok (listItems_nil inner rest)
  | cons item items =>
      have hList :=
        listItems_reads (layout.blank_gap (level + 1))
          (layout.blank_gap level) hItems rest
      rw [List.map_id'] at hList
      rw [Layout.chars_array_cons]
      simp only [List.cons_append, List.append_assoc,
        List.nil_append]
      rw [writtenWith_of_ne hBlanks hBracket (by decide)]
      unfold valueWith
      rw [bind_of_ok (peek_past hBlanks hBracket _)]
      refine (bind_of_ok rfl).trans ?_
      exact bind_of_ok hList

/-
  At every depth, a value that does not begin as an object is
  read like any value.
-/
theorem written_of_begins
    {depth : Nat}
    {value : Json}
    {c : Char}
    {more : List Char}
    (hText : layout.chars level value = c :: more)
    (hBlank : isBlank c = false)
    (hOther : c ≠ '\x7b')
    (hBlanks : Blank blanks)
    (hRead :
      ∀ inner,
        valueWith inner
            (blanks ++ (layout.chars level value ++ rest)) =
          .ok (value, rest)) :
    written depth (blanks ++ (layout.chars level value ++ rest)) =
      .ok (value, rest) := by
  have hWritten : ∃ inner, written depth = writtenWith inner := by
    cases depth with
    | zero => exact ⟨none, rfl⟩
    | succ depth => exact ⟨some (written depth), rfl⟩
  rcases hWritten with ⟨inner, hInner⟩
  have hValue := hRead inner
  rw [hText, List.cons_append] at hValue ⊢
  rw [hInner, writtenWith_of_ne hBlanks hBlank hOther]
  exact hValue

end Reader

namespace Json

open Reader

/-
  What is written of a value is read as it stands.  Of the
  values without brackets it is known already what any reader
  makes of them.
-/
theorem Fits.readsWritten
    {depth : Nat}
    {value : Json}
    (hFits : value.Fits depth)
    (layout : Layout)
    (level : Nat) :
    (Reader.written depth).Reads (layout.chars level value)
      value := by
  refine reads_of_fits hFits level ?_
  intro blanks rest hBlanks hEnds
  induction hFits generalizing level blanks rest with
  | null =>
      exact written_of_begins (by rw [Layout.chars]) (by decide)
        (by decide) hBlanks (fun _ => valueWith_null hBlanks)
  | bool value =>
      cases value with
      | true =>
          exact written_of_begins (by rw [Layout.chars]) (by decide)
            (by decide) hBlanks
            (fun _ => valueWith_bool true hBlanks)
      | false =>
          exact written_of_begins (by rw [Layout.chars]) (by decide)
            (by decide) hBlanks
            (fun _ => valueWith_bool false hBlanks)
  | @integer _ value whole =>
      rcases Layout.exists_text_integer value with
        ⟨c, more, hText, hNumber⟩
      exact written_of_begins
        ((Layout.chars_integer layout level value).trans hText)
        (Layout.not_isBlank_of_sign_or_digit hNumber)
        (Layout.ne_of_sign_or_digit hNumber (by decide) rfl) hBlanks
        (fun _ => valueWith_integer whole hBlanks hEnds)
  | string value =>
      exact written_of_begins (by rw [Layout.chars]; rfl) (by decide)
        (by decide) hBlanks (fun _ => valueWith_string value hBlanks)
  | @array depth items fits ih =>
      refine writtenWith_array (fun item hItem => ?_) hBlanks
      exact reads_of_fits (fits item hItem) (level + 1)
        (ih item hItem (level + 1))
  | @object depth members fits ih =>
      refine writtenWith_object (fun member hMember => ?_) hBlanks
      exact reads_of_fits (fits member hMember) (level + 1)
        (ih member hMember (level + 1))

/- A text is read as the value that is written there. -/
theorem parseWritten_chars
    {value : Json}
    (hFits : value.Fits depthLimit)
    (layout : Layout)
    {before after : List Char}
    (hBefore : Blank before)
    (hAfter : Blank after) :
    parseWritten (String.ofList
        (before ++ (layout.chars 0 value ++ after))) =
      .ok value :=
  (hFits.readsWritten layout 0).finish hBefore hAfter

theorem parseWritten_compact
    {value : Json}
    (hFits : value.Fits depthLimit) :
    parseWritten value.compact = .ok value := by
  have hRead :=
    parseWritten_chars hFits .compact blank_nil blank_nil
  rw [List.nil_append, List.append_nil, Layout.chars_compact] at hRead
  exact hRead

end Json

end Questionnaire
