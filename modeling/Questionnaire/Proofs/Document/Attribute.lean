import Questionnaire.Document.Piece

/-
  The attributes that a reader finds in a page.

  Key definitions include:
    * `Attribute`
    * `Cursor`
    * `attributesFrom`
    * `dataFrom`
    * `Reads`
    * `unescaped`

  A reader goes through a page once, from left to right, and
  knows only whether it stands in a text, in a tag or in the
  value of an attribute.  What it finds in a text that is made
  of parts is what it finds in the parts (`Reads.append`), and
  undoing the escapes of shown text gives the text back
  (`unescaped_escaped`).
-/

------------------------------------------------------------
-- Readers
------------------------------------------------------------

namespace Questionnaire.Document

/- An attribute: its name and its value as it is written. -/
structure Attribute where
  name : String
  written : List Char
  deriving DecidableEq, Repr

/- Where a reader of a page stands. -/
inductive Cursor where
  | text
  | tag (name : List Char)
  | value (name : List Char) (written : List Char)
  deriving DecidableEq, Repr

/- Where a reader stands after one more character. -/
def Cursor.next : Cursor → Char → Cursor
  | .text, c => if c == '<' then .tag [] else .text
  | .tag name, c =>
      if c == '>' then
        .text
      else if c == '"' then
        .value (name.takeWhile (fun c => c != '=')) []
      else if c == ' ' || c == '\n' then
        .tag []
      else
        .tag (name ++ [c])
  | .value name written, c =>
      if c == '"' then .tag [] else .value name (written ++ [c])

/- The attribute that ends with a character, if one does. -/
def Cursor.found : Cursor → Char → List Attribute
  | .value name written, c =>
      if c == '"' then [⟨String.ofList name, written⟩] else []
  | _, _ => []

/- Where a reader stands after a text. -/
def cursorAfter
    (cursor : Cursor)
    (text : List Char) : Cursor :=
  text.foldl Cursor.next cursor

/- The attributes that end in a text, in their order. -/
def attributesFrom : Cursor → List Char → List Attribute
  | _, [] => []
  | cursor, c :: rest =>
      cursor.found c ++ attributesFrom (cursor.next c) rest

/- Whether an attribute has a name for the script of the page. -/
def isDataName
    (name : String) : Bool :=
  "data-".toList.isPrefixOf name.toList

/- The attributes for the script that end in a text. -/
def dataFrom
    (cursor : Cursor)
    (text : List Char) : List Attribute :=
  (attributesFrom cursor text).filter
    (fun item => isDataName item.name)

end Questionnaire.Document

------------------------------------------------------------
-- Reading Part by Part
------------------------------------------------------------

namespace Questionnaire.Document

variable {cursor middle after : Cursor}
variable {text rest : List Char}
variable {data more : List Attribute}

/-
  Reading a text leads from one state to another, and finds
  some attributes for the script on the way.
-/
structure Reads
    (cursor : Cursor)
    (text : List Char)
    (after : Cursor)
    (data : List Attribute) : Prop where
  arrives : cursorAfter cursor text = after
  finds : dataFrom cursor text = data

instance : Decidable (Reads cursor text after data) :=
  decidable_of_iff
    (cursorAfter cursor text = after ∧ dataFrom cursor text = data)
    ⟨fun ⟨hArrives, hFinds⟩ => ⟨hArrives, hFinds⟩,
      fun hReads => ⟨hReads.arrives, hReads.finds⟩⟩

@[simp] theorem cursorAfter_append :
    cursorAfter cursor (text ++ rest) =
      cursorAfter (cursorAfter cursor text) rest :=
  List.foldl_append

theorem attributesFrom_append :
    attributesFrom cursor (text ++ rest) =
      attributesFrom cursor text
        ++ attributesFrom (cursorAfter cursor text) rest := by
  induction text generalizing cursor with
  | nil => rfl
  | cons c text ih =>
      simp only [List.cons_append, attributesFrom, ih,
        List.append_assoc]
      rfl

/- What is found in two parts is found in one after another. -/
theorem dataFrom_append :
    dataFrom cursor (text ++ rest) =
      dataFrom cursor text
        ++ dataFrom (cursorAfter cursor text) rest := by
  unfold dataFrom
  rw [attributesFrom_append, List.filter_append]

theorem Reads.nil :
    Reads cursor [] cursor [] :=
  ⟨rfl, rfl⟩

theorem Reads.append
    (hText : Reads cursor text middle data)
    (hRest : Reads middle rest after more) :
    Reads cursor (text ++ rest) after (data ++ more) := by
  constructor
  · rw [cursorAfter_append, hText.arrives, hRest.arrives]
  · rw [dataFrom_append, hText.arrives, hText.finds,
      hRest.finds]

/- What comes after a text is read from where the text leads. -/
theorem Reads.dataFrom_append
    (hText : Reads cursor text middle data)
    (rest : List Char) :
    dataFrom cursor (text ++ rest) =
      data ++ dataFrom middle rest := by
  rw [Document.dataFrom_append, hText.arrives, hText.finds]

/- A text without tags is read over. -/
theorem reads_text
    (hText : '<' ∉ text) :
    Reads .text text .text [] := by
  induction text with
  | nil => exact Reads.nil
  | cons c text ih =>
      have hChar : c ≠ '<' := by
        intro hEq
        exact hText (by simp [hEq])
      have hHere : Reads .text [c] .text [] := by
        constructor
        · simp [cursorAfter, Cursor.next, hChar]
        · rfl
      exact hHere.append
        (ih (fun hMem => hText (List.mem_cons_of_mem c hMem)))

/- A value without quotation marks is read to its end. -/
theorem reads_value
    {name written : List Char}
    (hText : '"' ∉ text) :
    Reads (.value name written) text
      (.value name (written ++ text)) [] := by
  induction text generalizing written with
  | nil =>
      rw [List.append_nil]
      exact Reads.nil
  | cons c text ih =>
      have hChar : c ≠ '"' := by
        intro hEq
        exact hText (by simp [hEq])
      have hHere :
          Reads (.value name written) [c]
            (.value name (written ++ [c])) [] := by
        constructor
        · simp [cursorAfter, Cursor.next, hChar]
        · simp [dataFrom, attributesFrom, Cursor.found, hChar]
      have hRest :
          Reads (.value name (written ++ [c])) text
            (.value name (written ++ [c] ++ text)) [] :=
        ih (fun hMem => hText (List.mem_cons_of_mem c hMem))
      rw [List.append_assoc] at hRest
      exact hHere.append hRest

/- The attribute that a quotation mark ends, if for a script. -/
def closing
    (name : List Char)
    (written : List Char) : List Attribute :=
  if isDataName (String.ofList name) then
    [⟨String.ofList name, written⟩]
  else
    []

/- A quotation mark ends a value. -/
theorem reads_quote
    (name written : List Char) :
    Reads (.value name written) ['"'] (.tag [])
      (closing name written) := by
  constructor
  · rfl
  · unfold closing
    split
    case isTrue hData =>
      simp [dataFrom, attributesFrom, Cursor.found, hData]
    case isFalse hOther =>
      simp [dataFrom, attributesFrom, Cursor.found, hOther]

/- An attribute for the script is found. -/
theorem closing_of_data
    {name : String}
    (hName : isDataName name = true)
    (written : List Char) :
    closing name.toList written = [⟨name, written⟩] := by
  simp [closing, hName]

/- Another attribute is not. -/
theorem closing_of_other
    {name : String}
    (hName : isDataName name = false)
    (written : List Char) :
    closing name.toList written = [] := by
  simp [closing, hName]

end Questionnaire.Document

------------------------------------------------------------
-- Escapes
------------------------------------------------------------

namespace Questionnaire.Document

/- A value with its escapes undone. -/
def unescaped : List Char → List Char
  | '&' :: 'a' :: 'm' :: 'p' :: ';' :: rest => '&' :: unescaped rest
  | '&' :: 'l' :: 't' :: ';' :: rest => '<' :: unescaped rest
  | '&' :: 'g' :: 't' :: ';' :: rest => '>' :: unescaped rest
  | '&' :: 'q' :: 'u' :: 'o' :: 't' :: ';' :: rest =>
      '"' :: unescaped rest
  | '&' :: '#' :: 'x' :: '2' :: '7' :: ';' :: rest =>
      '\x27' :: unescaped rest
  | '&' :: '#' :: 'x' :: '6' :: '0' :: ';' :: rest =>
      '\x60' :: unescaped rest
  | '&' :: '#' :: 'x' :: '3' :: 'D' :: ';' :: rest =>
      '=' :: unescaped rest
  | c :: rest => c :: unescaped rest
  | [] => []

/- The value of an attribute, with its escapes undone. -/
def Attribute.value
    (item : Attribute) : String :=
  String.ofList (unescaped item.written)

/- A character that begins no escape stands for itself. -/
theorem unescaped_cons
    {c : Char}
    {rest : List Char}
    (hChar : c ≠ '&') :
    unescaped (c :: rest) = c :: unescaped rest := by
  rw [unescaped]
  all_goals
    intro tail hEq
    exact absurd hEq hChar

/- Undoing the escape of a character gives it back. -/
theorem unescaped_escapedChar
    (c : Char)
    (rest : List Char) :
    unescaped (escapedChar c ++ rest) = c :: unescaped rest := by
  unfold escapedChar
  split
  case h_8 hAmpersand _ _ _ _ _ _ =>
    exact unescaped_cons hAmpersand
  all_goals rfl

/- Undoing the escapes of a text gives it back. -/
theorem unescaped_escaped
    (text : List Char) :
    unescaped (text.flatMap escapedChar) = text := by
  induction text with
  | nil => rfl
  | cons c text ih =>
      rw [List.flatMap_cons, unescaped_escapedChar, ih]

end Questionnaire.Document
