import Questionnaire.Proofs.Json.Token
import Mathlib.Data.List.Basic

/-
  The ways in which a value is laid out as a text: on one line,
  indented, or inside a script element.

  Key definitions include:
    * `Json.scripted`
    * `Layout`
    * `Layout.chars`

  What a reader makes of a value does not depend on its layout,
  so it is said once, of all of them.  The three layouts in use
  are those of `Json.compact`, `Json.pretty` and
  `Json.embedded` (`chars_compact`, `chars_pretty`,
  `chars_scripted`).
-/

------------------------------------------------------------
-- All Values
------------------------------------------------------------

namespace Questionnaire

/- What passes from the parts of a bracket to it is true of all. -/
theorem Json.induct
    {holds : Json → Prop}
    (null : holds .null)
    (bool : ∀ value, holds (.bool value))
    (number : ∀ value, holds (.number value))
    (string : ∀ value, holds (.string value))
    (array :
      ∀ items, (∀ item ∈ items, holds item) → holds (.array items))
    (object :
      ∀ members, (∀ member ∈ members, holds member.2) →
        holds (.object members)) :
    ∀ value, holds value
  | .null => null
  | .bool value => bool value
  | .number value => number value
  | .string value => string value
  | .array items =>
      array items (fun item hMem =>
        have : sizeOf item < sizeOf items :=
          List.sizeOf_lt_of_mem hMem
        Json.induct null bool number string array object item)
  | .object members =>
      object members (fun member hMem =>
        have hMember : sizeOf member < sizeOf members :=
          List.sizeOf_lt_of_mem hMem
        have : sizeOf member.2 < sizeOf member := by
          cases member
          simp only [Prod.mk.sizeOf_spec]
          omega
        Json.induct null bool number string array object member.2)

end Questionnaire

------------------------------------------------------------
-- JSON inside a Script Element
------------------------------------------------------------

namespace Questionnaire

namespace Json

/- A character of a JSON text inside a script element. -/
def embeddedChar
    (c : Char) : List Char :=
  if isUnsafe c then spelled c else [c]

/- A value as it stands inside a script element. -/
def scripted
    (value : Json) : List Char :=
  value.compactChars.flatMap embeddedChar

theorem toList_embedded_compact
    (value : Json) :
    (embedded value.compact).toList = scripted value := by
  unfold embedded compact scripted
  rw [String.toList_ofList, String.toList_ofList]
  rfl

/- The spelling of a character is safe in a script element. -/
theorem not_unsafe_spelled
    {c d : Char}
    (hMem : d ∈ spelled c) :
    isUnsafe d = false := by
  have hDigit (n : Nat) :
      isUnsafe (hexDigit (n % 16)) = false := by
    have hAll : ∀ n : Fin 16, isUnsafe (hexDigit n) = false := by
      decide
    exact hAll ⟨n % 16, Nat.mod_lt n (by decide)⟩
  simp only [spelled, List.mem_cons, List.not_mem_nil,
    or_false] at hMem
  rcases hMem with hEq | hEq | hEq | hEq | hEq | hEq
  · rw [hEq]
    rfl
  · rw [hEq]
    rfl
  all_goals rw [hEq]; exact hDigit _

/- Nothing unsafe is left inside a script element. -/
theorem not_unsafe_embeddedChar
    {c d : Char}
    (hMem : d ∈ embeddedChar c) :
    isUnsafe d = false := by
  unfold embeddedChar at hMem
  split at hMem
  case isTrue hUnsafe => exact not_unsafe_spelled hMem
  case isFalse hSafe =>
    rw [List.mem_singleton.mp hMem]
    exact Bool.not_eq_true _ ▸ hSafe

theorem not_unsafe_scripted
    {value : Json}
    {c : Char}
    (hMem : c ∈ scripted value) :
    isUnsafe c = false := by
  rcases List.mem_flatMap.mp hMem with ⟨d, _, hChar⟩
  exact not_unsafe_embeddedChar hChar

/- An unsafe character is not escaped, and can be spelled. -/
theorem escapedChar_of_unsafe
    {c : Char}
    (hUnsafe : isUnsafe c = true) :
    escapedChar c = [c] ∧ c ≠ '"' ∧ c ≠ '\\' ∧
      0x20 ≤ c.toNat ∧ c.toNat < 0xD800 := by
  simp only [isUnsafe, Bool.or_eq_true, beq_iff_eq] at hUnsafe
  rcases hUnsafe with (((hEq | hEq) | hEq) | hEq) | hEq
  all_goals
    rw [hEq]
    exact ⟨rfl, by decide⟩

/- The escape of a safe character is safe. -/
theorem not_unsafe_escapedChar
    {c d : Char}
    (hSafe : isUnsafe c = false)
    (hMem : d ∈ escapedChar c) :
    isUnsafe d = false := by
  unfold escapedChar at hMem
  split at hMem
  case h_8 =>
    split at hMem
    case isTrue => exact not_unsafe_spelled hMem
    case isFalse =>
      rw [List.mem_singleton.mp hMem]
      exact hSafe
  all_goals
    simp only [List.mem_cons, List.not_mem_nil, or_false] at hMem
    rcases hMem with hEq | hEq
    all_goals rw [hEq]; rfl

end Json

end Questionnaire

------------------------------------------------------------
-- Layouts
------------------------------------------------------------

namespace Questionnaire

open Json Reader

/-
  What stands between the parts of a text, and how each of its
  characters stands there.  Only blanks are added, and only
  unsafe characters may be spelled.
-/
structure Layout where
  gap : Nat → List Char
  space : List Char
  embed : Char → List Char
  blank_gap : ∀ level, ∀ c ∈ gap level, isBlank c = true
  blank_space : ∀ c ∈ space, isBlank c = true
  embed_of_safe : ∀ c, isUnsafe c = false → embed c = [c]
  embed_of_unsafe :
    ∀ c, isUnsafe c = true → embed c = [c] ∨ embed c = spelled c

namespace Layout

/- How a character of a string stands in a text. -/
def spell
    (layout : Layout)
    (c : Char) : List Char :=
  (escapedChar c).flatMap layout.embed

/- A string between its quotes. -/
def quoted
    (layout : Layout)
    (text : String) : List Char :=
  '"' :: text.toList.flatMap layout.spell ++ ['"']

mutual

/- A value as it is laid out at some level. -/
def chars
    (layout : Layout)
    (level : Nat) : Json → List Char
  | .null => ['n', 'u', 'l', 'l']
  | .bool true => ['t', 'r', 'u', 'e']
  | .bool false => ['f', 'a', 'l', 's', 'e']
  | .number value => value.text.toList.flatMap layout.embed
  | .string value => layout.quoted value
  | .array [] => ['[', ']']
  | .array (item :: items) =>
      '[' :: (layout.gap (level + 1) ++ chars layout (level + 1) item
        ++ laterItems layout (level + 1) items
        ++ layout.gap level ++ [']'])
  | .object [] => ['\x7b', '\x7d']
  | .object ((name, value) :: members) =>
      '\x7b' :: (layout.gap (level + 1) ++ layout.quoted name
        ++ ':' :: (layout.space ++ chars layout (level + 1) value
          ++ laterMembers layout (level + 1) members
          ++ layout.gap level ++ ['\x7d']))

/- The items after the first one have a comma before them. -/
def laterItems
    (layout : Layout)
    (level : Nat) : List Json → List Char
  | [] => []
  | item :: items =>
      ',' :: (layout.gap level ++ chars layout level item
        ++ laterItems layout level items)

/- And so have the members after the first one. -/
def laterMembers
    (layout : Layout)
    (level : Nat) : List (String × Json) → List Char
  | [] => []
  | (name, value) :: members =>
      ',' :: (layout.gap level ++ layout.quoted name
        ++ ':' :: (layout.space ++ chars layout level value
          ++ laterMembers layout level members))

end

variable {layout : Layout}

/- A text without unsafe characters stands as it is. -/
theorem flatMap_embed
    {text : List Char}
    (hSafe : ∀ c ∈ text, isUnsafe c = false) :
    text.flatMap layout.embed = text := by
  induction text with
  | nil => rfl
  | cons c text ih =>
      have hChar :=
        layout.embed_of_safe c (hSafe c List.mem_cons_self)
      rw [List.flatMap_cons, hChar,
        ih (fun d hMem => hSafe d (List.mem_cons_of_mem c hMem))]
      rfl

/- A character of a string is read back from any layout. -/
theorem readsChar_spell
    (layout : Layout)
    (c : Char) :
    ReadsChar (layout.spell c) c := by
  cases hUnsafe : isUnsafe c with
  | true =>
      rcases escapedChar_of_unsafe hUnsafe with
        ⟨hEscaped, hQuote, hBackslash, hControl, hLt⟩
      have hSpell : layout.spell c = layout.embed c := by
        rw [spell, hEscaped, List.flatMap_singleton]
      rcases layout.embed_of_unsafe c hUnsafe with hEmbed | hEmbed
      · rw [hSpell, hEmbed]
        exact readsChar_self hQuote hBackslash hControl
      · rw [hSpell, hEmbed]
        exact readsChar_spelled hLt
  | false =>
      have hSpell : layout.spell c = Json.escapedChar c :=
        flatMap_embed (fun d => not_unsafe_escapedChar hUnsafe)
      rw [hSpell]
      exact readsChar_escapedChar c

/- A string is read after its quote. -/
theorem string_quoted
    (layout : Layout)
    (text : String)
    (rest : List Char) :
    string (text.toList.flatMap layout.spell ++ '"' :: rest) =
      .ok (text, rest) := by
  have hSpell :
      ∀ c ∈ text.toList, ReadsChar (layout.spell c) c :=
    fun c _ => readsChar_spell layout c
  have hRead := string_of_spelling hSpell rest
  rw [String.ofList_toList] at hRead
  exact hRead

/- The text of a string is its quotes and what they enclose. -/
theorem quoted_append
    (layout : Layout)
    (text : String)
    (rest : List Char) :
    layout.quoted text ++ rest =
      '"' :: (text.toList.flatMap layout.spell ++ '"' :: rest) := by
  simp [quoted]

end Layout

end Questionnaire

------------------------------------------------------------
-- Items and Members
------------------------------------------------------------

namespace Questionnaire

open Json Reader

namespace Layout

/- A member with its name before it. -/
def memberChars
    (layout : Layout)
    (level : Nat)
    (member : String × Json) : List Char :=
  layout.quoted member.1
    ++ ':' :: (layout.space ++ layout.chars level member.2)

theorem laterItems_eq
    (layout : Layout)
    (level : Nat)
    (items : List Json) :
    layout.laterItems level items =
      items.flatMap (fun item =>
        ',' :: (layout.gap level ++ layout.chars level item)) := by
  induction items with
  | nil => rfl
  | cons item items ih =>
      rw [laterItems, ih, List.flatMap_cons]
      simp only [List.cons_append]

theorem laterMembers_eq
    (layout : Layout)
    (level : Nat)
    (members : List (String × Json)) :
    layout.laterMembers level members =
      members.flatMap (fun member =>
        ',' :: (layout.gap level
          ++ layout.memberChars level member)) := by
  induction members with
  | nil => rfl
  | cons member members ih =>
      rw [laterMembers, ih, List.flatMap_cons]
      simp only [memberChars, List.cons_append, List.append_assoc]

theorem chars_array_cons
    (layout : Layout)
    (level : Nat)
    (item : Json)
    (items : List Json) :
    layout.chars level (.array (item :: items)) =
      '[' :: (layout.gap (level + 1)
        ++ layout.chars (level + 1) item
        ++ items.flatMap (fun item =>
          ',' :: (layout.gap (level + 1)
            ++ layout.chars (level + 1) item))
        ++ layout.gap level ++ [']']) := by
  rw [chars, laterItems_eq]

theorem chars_object_cons
    (layout : Layout)
    (level : Nat)
    (member : String × Json)
    (members : List (String × Json)) :
    layout.chars level (.object (member :: members)) =
      '\x7b' :: (layout.gap (level + 1)
        ++ layout.memberChars (level + 1) member
        ++ members.flatMap (fun member =>
          ',' :: (layout.gap (level + 1)
            ++ layout.memberChars (level + 1) member))
        ++ layout.gap level ++ ['\x7d']) := by
  rw [chars, laterMembers_eq]
  simp only [memberChars, List.append_assoc, List.cons_append]

theorem exists_chars_object
    (layout : Layout)
    (level : Nat)
    (members : List (String × Json)) :
    ∃ more,
      layout.chars level (.object members) = '\x7b' :: more := by
  cases members with
  | nil => exact ⟨['\x7d'], by rw [chars]⟩
  | cons member members => exact ⟨_, chars_object_cons _ _ _ _⟩

/-
  The texts of a layout are determined by how it writes single
  values and what it puts between the parts of a bracket.
-/
theorem chars_eq
    {layout : Layout}
    (text : Nat → Json → List Char)
    (single :
      ∀ level value,
        (∀ items, value ≠ .array items) →
        (∀ members, value ≠ .object members) →
          layout.chars level value = text level value)
    (noItems : ∀ level, text level (.array []) = ['[', ']'])
    (noMembers :
      ∀ level, text level (.object []) = ['\x7b', '\x7d'])
    (items :
      ∀ level item items,
        text level (.array (item :: items)) =
          '[' :: (layout.gap (level + 1) ++ text (level + 1) item
            ++ items.flatMap (fun item =>
              ',' :: (layout.gap (level + 1)
                ++ text (level + 1) item))
            ++ layout.gap level ++ [']']))
    (members :
      ∀ level member members,
        text level (.object (member :: members)) =
          '\x7b' :: (layout.gap (level + 1)
            ++ (layout.quoted member.1
              ++ ':' :: (layout.space ++ text (level + 1) member.2))
            ++ members.flatMap (fun member =>
              ',' :: (layout.gap (level + 1)
                ++ (layout.quoted member.1
                  ++ ':' :: (layout.space
                    ++ text (level + 1) member.2))))
            ++ layout.gap level ++ ['\x7d']))
    (level : Nat)
    (value : Json) :
    layout.chars level value = text level value := by
  induction value using Json.induct generalizing level with
  | null => exact single level _ nofun nofun
  | bool value => exact single level _ nofun nofun
  | number value => exact single level _ nofun nofun
  | string value => exact single level _ nofun nofun
  | array list ih =>
      cases list with
      | nil => exact (noItems level).symm
      | cons item list =>
          have hItem := ih item List.mem_cons_self (level + 1)
          have hItems :
              list.flatMap (fun item =>
                  ',' :: (layout.gap (level + 1)
                    ++ layout.chars (level + 1) item)) =
                list.flatMap (fun item =>
                  ',' :: (layout.gap (level + 1)
                    ++ text (level + 1) item)) :=
            List.flatMap_congr (fun other hOther => by
              rw [ih other (List.mem_cons_of_mem _ hOther)])
          rw [chars_array_cons, items, hItem, hItems]
  | object list ih =>
      cases list with
      | nil => exact (noMembers level).symm
      | cons member list =>
          have hMember := ih member List.mem_cons_self (level + 1)
          have hMembers :
              list.flatMap (fun member =>
                  ',' :: (layout.gap (level + 1)
                    ++ layout.memberChars (level + 1) member)) =
                list.flatMap (fun member =>
                  ',' :: (layout.gap (level + 1)
                    ++ (layout.quoted member.1
                      ++ ':' :: (layout.space
                        ++ text (level + 1) member.2)))) :=
            List.flatMap_congr (fun other hOther => by
              rw [memberChars,
                ih other (List.mem_cons_of_mem _ hOther)])
          rw [chars_object_cons, members, memberChars, hMember,
            hMembers]

end Layout

end Questionnaire

------------------------------------------------------------
-- The Layouts in Use
------------------------------------------------------------

namespace Questionnaire

namespace Json

/- The items after the first one have a comma before them. -/
theorem compactItems_cons
    (item : Json)
    (items : List Json) :
    compactItems (item :: items) =
      compactChars item
        ++ items.flatMap (fun item => ',' :: compactChars item) := by
  induction items generalizing item with
  | nil => simp [compactItems]
  | cons next items ih =>
      rw [compactItems, ih next]
      rfl

/- The members after the first one have a comma before them. -/
theorem compactMembers_cons
    (member : String × Json)
    (members : List (String × Json)) :
    compactMembers (member :: members) =
      (writtenString member.1 ++ ':' :: compactChars member.2)
        ++ members.flatMap (fun member =>
          ',' :: (writtenString member.1
            ++ ':' :: compactChars member.2)) := by
  induction members generalizing member with
  | nil => simp [compactMembers]
  | cons next members ih =>
      rw [compactMembers, ih next]
      rfl

/- Items on lines of their own have a comma before the next. -/
theorem prettyItems_cons
    (level : Nat)
    (item : Json)
    (items : List Json) :
    prettyItems level (item :: items) =
      newLine level ++ prettyChars level item
        ++ items.flatMap (fun item =>
          ',' :: (newLine level ++ prettyChars level item)) := by
  induction items generalizing item with
  | nil => simp [prettyItems]
  | cons next items ih =>
      rw [prettyItems, ih next]
      rfl

theorem prettyChars_array_cons
    (level : Nat)
    (item : Json)
    (items : List Json) :
    prettyChars level (.array (item :: items)) =
      '[' :: (newLine (level + 1) ++ prettyChars (level + 1) item
        ++ items.flatMap (fun item =>
          ',' :: (newLine (level + 1)
            ++ prettyChars (level + 1) item))
        ++ newLine level ++ [']']) := by
  rw [prettyChars, prettyItems_cons]
  · rfl
  · exact List.cons_ne_nil item items

/- And so have members. -/
theorem prettyMembers_cons
    (level : Nat)
    (member : String × Json)
    (members : List (String × Json)) :
    prettyMembers level (member :: members) =
      newLine level ++ (writtenString member.1
          ++ ':' :: ' ' :: prettyChars level member.2)
        ++ members.flatMap (fun member =>
          ',' :: (newLine level ++ (writtenString member.1
            ++ ':' :: ' ' :: prettyChars level member.2))) := by
  induction members generalizing member with
  | nil => simp [prettyMembers]
  | cons next members ih =>
      rw [prettyMembers, ih next]
      simp only [List.flatMap_cons, List.cons_append,
        List.append_assoc]

theorem prettyChars_object_cons
    (level : Nat)
    (member : String × Json)
    (members : List (String × Json)) :
    prettyChars level (.object (member :: members)) =
      '\x7b' :: (newLine (level + 1)
        ++ (writtenString member.1
          ++ ':' :: ' ' :: prettyChars (level + 1) member.2)
        ++ members.flatMap (fun member =>
          ',' :: (newLine (level + 1) ++ (writtenString member.1
            ++ ':' :: ' ' :: prettyChars (level + 1) member.2)))
        ++ newLine level ++ ['\x7d']) := by
  rw [prettyChars, prettyMembers_cons]
  · rfl
  · exact List.cons_ne_nil member members

end Json

open Json Reader

namespace Layout

/- On one line, without blanks. -/
def compact : Layout where
  gap _ := []
  space := []
  embed c := [c]
  blank_gap _ _ hMem := absurd hMem List.not_mem_nil
  blank_space _ hMem := absurd hMem List.not_mem_nil
  embed_of_safe _ _ := rfl
  embed_of_unsafe _ _ := .inl rfl

/- Indented by two blanks a level. -/
def pretty : Layout where
  gap := newLine
  space := [' ']
  embed c := [c]
  blank_gap := by
    intro level c hMem
    rcases List.mem_cons.mp hMem with hBreak | hBlank
    · rw [hBreak]
      rfl
    · rw [List.eq_of_mem_replicate hBlank]
      rfl
  blank_space c hMem := by
    rw [List.mem_singleton.mp hMem]
    rfl
  embed_of_safe _ _ := rfl
  embed_of_unsafe _ _ := .inl rfl

/- On one line inside a script element. -/
def scripted : Layout where
  gap _ := []
  space := []
  embed := embeddedChar
  blank_gap _ _ hMem := absurd hMem List.not_mem_nil
  blank_space _ hMem := absurd hMem List.not_mem_nil
  embed_of_safe c hSafe := by
    rw [embeddedChar, hSafe]
    rfl
  embed_of_unsafe c hUnsafe := by
    rw [embeddedChar, hUnsafe]
    exact .inr rfl

/- A layout that spells nothing writes strings as they are. -/
theorem quoted_of_plain
    (layout : Layout)
    (hPlain : ∀ c, layout.embed c = [c])
    (text : String) :
    layout.quoted text = writtenString text := by
  have hSpell : layout.spell = Json.escapedChar := by
    funext c
    rw [spell, List.flatMap_congr (fun d _ => hPlain d),
      List.flatMap_singleton']
  rw [quoted, writtenString, hSpell]

/- A compact text has this layout. -/
theorem chars_compact
    (level : Nat)
    (value : Json) :
    compact.chars level value = compactChars value := by
  have hQuoted := quoted_of_plain compact (fun _ => rfl)
  refine chars_eq (fun _ => compactChars) ?_
    (fun _ => rfl) (fun _ => rfl) ?_ ?_ level value
  · intro level value hItems hMembers
    cases value with
    | null => rfl
    | bool value => cases value <;> rfl
    | number value => exact List.flatMap_singleton' _
    | string value => exact hQuoted value
    | array items => exact absurd rfl (hItems items)
    | object members => exact absurd rfl (hMembers members)
  · intro level item items
    rw [compactChars, compactItems_cons]
    simp [compact]
  · intro level member members
    simp only [hQuoted]
    rw [compactChars, compactMembers_cons]
    simp [compact]

/- A pretty text has this layout, at the level where it stands. -/
theorem chars_pretty
    (level : Nat)
    (value : Json) :
    pretty.chars level value = prettyChars level value := by
  have hQuoted := quoted_of_plain pretty (fun _ => rfl)
  refine chars_eq prettyChars ?_
    (fun _ => by rw [prettyChars]) (fun _ => by rw [prettyChars])
    prettyChars_array_cons ?_ level value
  · intro level value hItems hMembers
    cases value with
    | null => rw [chars, prettyChars]
    | bool value => cases value <;> rw [chars, prettyChars]
    | number value =>
        rw [chars, prettyChars]
        exact List.flatMap_singleton' _
    | string value =>
        rw [chars, prettyChars]
        exact hQuoted value
    | array items => exact absurd rfl (hItems items)
    | object members => exact absurd rfl (hMembers members)
  · intro level member members
    simp only [hQuoted]
    exact prettyChars_object_cons level member members

/- A string in a script element has its characters spelled. -/
theorem quoted_scripted
    (text : String) :
    (writtenString text).flatMap embeddedChar =
      scripted.quoted text := by
  have hQuote : embeddedChar '"' = ['"'] := rfl
  simp only [writtenString, quoted, List.cons_append,
    List.flatMap_cons, List.flatMap_append, List.flatMap_nil,
    List.flatMap_assoc, hQuote, List.append_nil, List.nil_append]
  rfl

/- The text in a script element has this layout. -/
theorem chars_scripted
    (level : Nat)
    (value : Json) :
    scripted.chars level value = Json.scripted value := by
  have hMarks : embeddedChar '[' = ['['] ∧
      embeddedChar ']' = [']'] ∧ embeddedChar ',' = [','] ∧
        embeddedChar ':' = [':'] ∧ embeddedChar '\x7b' = ['\x7b'] ∧
          embeddedChar '\x7d' = ['\x7d'] :=
    ⟨rfl, rfl, rfl, rfl, rfl, rfl⟩
  have hGap :
      scripted.space = [] ∧ ∀ level, scripted.gap level = [] :=
    ⟨rfl, fun _ => rfl⟩
  refine chars_eq (fun _ => Json.scripted) ?_
    (fun _ => rfl) (fun _ => rfl) ?_ ?_ level value
  · intro level value hItems hMembers
    cases value with
    | null => rfl
    | bool value => cases value <;> rfl
    | number value => rfl
    | string value => exact (quoted_scripted value).symm
    | array items => exact absurd rfl (hItems items)
    | object members => exact absurd rfl (hMembers members)
  · intro level item items
    simp only [Json.scripted, compactChars, compactItems_cons,
      List.flatMap_cons, List.flatMap_append, List.flatMap_nil,
      List.flatMap_assoc, hMarks, hGap, List.cons_append,
      List.nil_append, List.append_nil]
  · intro level member members
    simp only [← quoted_scripted, Json.scripted, compactChars,
      compactMembers_cons, List.flatMap_cons, List.flatMap_append,
      List.flatMap_nil, List.flatMap_assoc, hMarks, hGap,
      List.cons_append, List.nil_append, List.append_nil,
      List.append_assoc]

end Layout

end Questionnaire

------------------------------------------------------------
-- How a Text Begins
------------------------------------------------------------

namespace Questionnaire

open Reader

namespace Json

/-
  The values that are read back: their numbers are integers of
  sixty-four bits, and their brackets are nested at most so
  deep.
-/
inductive Fits : Nat → Json → Prop where
  | null
      {depth : Nat} :
      Fits depth .null
  | bool
      {depth : Nat}
      (value : Bool) :
      Fits depth (.bool value)
  | integer
      {depth : Nat}
      {value : Int}
      (whole : Whole value) :
      Fits depth (.number (.integer value))
  | string
      {depth : Nat}
      (value : String) :
      Fits depth (.string value)
  | array
      {depth : Nat}
      {items : List Json}
      (fits : ∀ item ∈ items, Fits depth item) :
      Fits (depth + 1) (.array items)
  | object
      {depth : Nat}
      {members : List (String × Json)}
      (fits : ∀ member ∈ members, Fits depth member.2) :
      Fits (depth + 1) (.object members)

/- More depth does no harm. -/
theorem Fits.mono
    {depth more : Nat}
    {value : Json}
    (hFits : Fits depth value)
    (hMore : depth ≤ more) :
    Fits more value := by
  induction hFits generalizing more with
  | null => exact .null
  | bool value => exact .bool value
  | integer whole => exact .integer whole
  | string value => exact .string value
  | array fits ih =>
      cases more with
      | zero => exact absurd hMore (Nat.not_succ_le_zero _)
      | succ more =>
          exact .array (fun item hItem =>
            ih item hItem (Nat.le_of_succ_le_succ hMore))
  | object fits ih =>
      cases more with
      | zero => exact absurd hMore (Nat.not_succ_le_zero _)
      | succ more =>
          exact .object (fun member hMember =>
            ih member hMember (Nat.le_of_succ_le_succ hMore))

/- Brackets fit if what is in them does, one level deeper. -/
theorem fits_array_iff
    {depth : Nat}
    {items : List Json} :
    Fits (depth + 1) (.array items) ↔
      ∀ item ∈ items, Fits depth item := by
  constructor
  · intro hFits
    cases hFits with
    | array fits => exact fits
  · exact .array

theorem fits_object_iff
    {depth : Nat}
    {members : List (String × Json)} :
    Fits (depth + 1) (.object members) ↔
      ∀ member ∈ members, Fits depth member.2 := by
  constructor
  · intro hFits
    cases hFits with
    | object fits => exact fits
  · exact .object

end Json

namespace Layout

/- A number begins with its sign or with a digit. -/
theorem exists_text_integer
    (value : Int) :
    ∃ c more,
      (Number.text (.integer value)).toList = c :: more ∧
        (c == '-' || c.isDigit) = true := by
  rw [toList_text_integer]
  split
  case isTrue => exact ⟨'-', _, rfl, rfl⟩
  case isFalse =>
    have hDigits :
        ∀ c ∈ Nat.toDigits 10 value.natAbs, c.isDigit = true :=
      fun _ => Nat.isDigit_of_mem_toDigits (by decide) (by decide)
    cases hText : Nat.toDigits 10 value.natAbs with
    | nil => exact absurd hText Nat.toDigits_ne_nil
    | cons c more =>
        rw [hText] at hDigits
        refine ⟨c, more, rfl, ?_⟩
        rw [hDigits c List.mem_cons_self, Bool.or_true]

/- Numbers have no unsafe character. -/
theorem chars_integer
    (layout : Layout)
    (level : Nat)
    (value : Int) :
    layout.chars level (.number (.integer value)) =
      (Number.text (.integer value)).toList := by
  have hDigit {c : Char}
      (hMem : c ∈ Nat.toDigits 10 value.natAbs) :
      Json.isUnsafe c = false := by
    have hDigit : c.isDigit = true :=
      Nat.isDigit_of_mem_toDigits (by decide) (by decide) hMem
    cases hUnsafe : Json.isUnsafe c with
    | false => rfl
    | true =>
        simp only [Json.isUnsafe, Bool.or_eq_true, beq_iff_eq]
          at hUnsafe
        rcases hUnsafe with (((hEq | hEq) | hEq) | hEq) | hEq
        all_goals exact absurd hEq (ne_of_isDigit hDigit rfl)
  rw [chars]
  apply flatMap_embed
  intro c hMem
  rw [toList_text_integer] at hMem
  split at hMem
  case isTrue =>
    rcases List.mem_cons.mp hMem with hSign | hMem
    · rw [hSign]
      rfl
    · exact hDigit hMem
  case isFalse => exact hDigit hMem

/- What a number begins with begins nothing else. -/
theorem ne_of_sign_or_digit
    {c d : Char}
    (hNumber : (c == '-' || c.isDigit) = true)
    (hSign : d ≠ '-')
    (hDigit : d.isDigit = false) :
    c ≠ d := by
  rcases Bool.or_eq_true _ _ ▸ hNumber with hMinus | hOther
  · rw [beq_iff_eq.mp hMinus]
    exact hSign.symm
  · exact ne_of_isDigit hOther hDigit

theorem not_isBlank_of_sign_or_digit
    {c : Char}
    (hNumber : (c == '-' || c.isDigit) = true) :
    isBlank c = false := by
  cases hBlank : isBlank c with
  | false => rfl
  | true =>
      simp only [isBlank, Bool.or_eq_true, beq_iff_eq] at hBlank
      rcases hBlank with ((hEq | hEq) | hEq) | hEq
      all_goals
        exact absurd hEq
          (ne_of_sign_or_digit hNumber (by decide) rfl)

/-
  A text begins with no blank and with no end of a list, and
  only that of nothing begins as its word does.
-/
theorem begins
    {depth : Nat}
    {value : Json}
    (hFits : value.Fits depth)
    (layout : Layout)
    (level : Nat) :
    ∃ c more,
      layout.chars level value = c :: more ∧
        isBlank c = false ∧ c ≠ ']' ∧ (value ≠ .null → c ≠ 'n') := by
  have hOther {c : Char} {more : List Char}
      (hText : layout.chars level value = c :: more)
      (hMem : c ∈ ['t', 'f', '"', '[', '\x7b']) :
      ∃ c more,
        layout.chars level value = c :: more ∧
          isBlank c = false ∧ c ≠ ']' ∧
            (value ≠ .null → c ≠ 'n') := by
    have hAll :
        ∀ c ∈ ['t', 'f', '"', '[', '\x7b'],
          isBlank c = false ∧ c ≠ ']' ∧ c ≠ 'n' := by
      simp [isBlank]
    rcases hAll c hMem with ⟨hBlank, hOpen, hWord⟩
    exact ⟨c, more, hText, hBlank, hOpen, fun _ => hWord⟩
  cases hFits with
  | null =>
      exact ⟨'n', _, by rw [chars], rfl, by decide, absurd rfl⟩
  | bool value =>
      cases value with
      | true => exact hOther (by rw [chars]) (by decide)
      | false => exact hOther (by rw [chars]) (by decide)
  | @integer _ value whole =>
      rcases exists_text_integer value with ⟨c, more, hText, hNumber⟩
      have hNe {d : Char} := ne_of_sign_or_digit (d := d) hNumber
      exact ⟨c, more, (chars_integer layout level value).trans hText,
        not_isBlank_of_sign_or_digit hNumber, hNe (by decide) rfl,
        fun _ => hNe (by decide) rfl⟩
  | string value => exact hOther (by rw [chars]; rfl) (by decide)
  | @array _ items fits =>
      cases items with
      | nil => exact hOther (by rw [chars]) (by decide)
      | cons item items => exact hOther (by rw [chars]) (by decide)
  | @object _ members fits =>
      cases members with
      | nil => exact hOther (by rw [chars]) (by decide)
      | cons member members =>
          exact hOther (by rw [chars]) (by decide)

end Layout

end Questionnaire
