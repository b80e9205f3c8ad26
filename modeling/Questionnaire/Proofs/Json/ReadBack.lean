import Questionnaire.Proofs.Json.Bracket
import Questionnaire.Proofs.Json.Lawful

/-
  What a format writes is read back from the text.

  Key definitions include:
    * `Format.ReadsBack`
    * `Fields.ReadsBack`

  There is one lemma for each way to build a format, so that a
  record is read back if its fields are, and every lawful value
  is (`Format.readsBack_of_lawful`): on one line, indented, or
  inside a script element.
-/

------------------------------------------------------------
-- Single Values
------------------------------------------------------------

namespace Questionnaire

namespace Format

open Reader

variable {α : Type}

section

variable {format : Format α}

theorem read_text :
    read .text = Reader.text "a string" :=
  rfl

theorem read_flag :
    read .flag = Reader.flag :=
  rfl

theorem read_integer :
    read .integer = numberOf integerKind integerOf :=
  rfl

theorem read_natural
    {kind : String} :
    read (.natural kind) = numberOf kind (naturalOf kind) :=
  rfl

theorem read_choice
    {title : String}
    {names : List (String × α)}
    {known : List String}
    {nameOf : α → String} :
    read (.choice title names known nameOf) =
      Reader.choice names known :=
  rfl

theorem read_optional :
    read (.optional format) = Reader.optional format.read :=
  rfl

theorem read_list :
    read (.list format) = Reader.list format.read :=
  rfl

end

/- What is written of a value is read back from any layout. -/
def ReadsBack
    (format : Format α)
    (value : α) : Prop :=
  ∀ (layout : Layout) (level : Nat),
    format.read.Reads (layout.chars level (format.toJson value)) value

/- A text is read back from between its quotes. -/
theorem readsBack_text
    (value : String) :
    ReadsBack .text value := by
  intro layout level
  refine reads_of_fits (.string value : Json.Fits 0 _) level ?_
  intro blanks rest hBlanks _
  have hQuote : isBlank '"' = false := rfl
  rw [Layout.chars, Layout.quoted_append, read_text, Reader.text,
    bind_of_ok (peek_past hBlanks hQuote _)]
  exact
    (bind_of_ok rfl).trans (Layout.string_quoted layout value rest)

/- A truth value is read back from its word. -/
theorem readsBack_flag
    (value : Bool) :
    ReadsBack .flag value := by
  intro layout level
  refine reads_of_fits (.bool value : Json.Fits 0 _) level ?_
  intro blanks rest hBlanks _
  have hWords : isBlank 't' = false ∧ isBlank 'f' = false :=
    ⟨rfl, rfl⟩
  cases value with
  | true =>
      rw [Layout.chars, read_flag, Reader.flag, List.cons_append,
        bind_of_ok (peek_past hBlanks hWords.1 _)]
      rfl
  | false =>
      rw [Layout.chars, read_flag, Reader.flag, List.cons_append,
        bind_of_ok (peek_past hBlanks hWords.2 _)]
      rfl

/- A number is read from its text and then judged. -/
theorem numberOf_text
    {kind : String}
    {valueOf : Number → Except Mismatch α}
    {number : Int}
    {value : α}
    (hWhole : Whole number)
    (hValue : valueOf (.integer number) = .ok value)
    {blanks rest : List Char}
    (hBlanks : Blank blanks)
    (hEnds : Ends rest) :
    numberOf kind valueOf
        (blanks ++ ((Number.text (.integer number)).toList ++ rest)) =
      .ok (value, rest) := by
  have hRead := number_text hWhole hEnds
  rcases Layout.exists_text_integer number with
    ⟨c, more, hText, hNumber⟩
  have hBlank := Layout.not_isBlank_of_sign_or_digit hNumber
  rw [hText, List.cons_append] at hRead ⊢
  rw [numberOf, bind_of_ok (peek_past hBlanks hBlank _)]
  simp only [hNumber, if_true]
  rw [bind_of_ok hRead, hValue]
  rfl

/- A number without a sign is read back if it fits. -/
theorem readsBack_natural
    {kind : String}
    {value : Nat}
    (hFits : value < Nat.pow 2 64) :
    ReadsBack (.natural kind) value := by
  have hWhole := whole_of_natural hFits
  intro layout level
  refine reads_of_fits (.integer hWhole : Json.Fits 0 _) level ?_
  intro blanks rest hBlanks hEnds
  rw [Layout.chars_integer, read_natural]
  refine numberOf_text hWhole ?_ hBlanks hEnds
  rw [naturalOf, if_neg (Int.not_lt.mpr (Int.natCast_nonneg value)),
    Int.toNat_natCast]

/- And so is one with a sign. -/
theorem readsBack_integer
    {value : Int}
    (hLeast : -Int.pow 2 63 ≤ value)
    (hMost : value < Int.pow 2 63) :
    ReadsBack .integer value := by
  have hWhole := whole_of_signed hLeast hMost
  intro layout level
  refine reads_of_fits (.integer hWhole : Json.Fits 0 _) level ?_
  intro blanks rest hBlanks hEnds
  rw [Layout.chars_integer, read_integer]
  refine numberOf_text hWhole ?_ hBlanks hEnds
  rw [integerOf, if_pos hMost]

/- A name is read back if it stands for what it was written for. -/
theorem readsBack_choice
    {title : String}
    {names : List (String × α)}
    {known : List String}
    {nameOf : α → String}
    {value : α}
    (hName : names.lookup (nameOf value) = some value) :
    ReadsBack (.choice title names known nameOf) value := by
  intro layout level
  refine reads_of_fits
    (.string (nameOf value) : Json.Fits 0 _) level ?_
  intro blanks rest hBlanks _
  have hQuote : isBlank '"' = false := rfl
  have hChoice :
      choiceOf names known (nameOf value) = .ok value := by
    rw [choiceOf, hName]
  have hString := Layout.string_quoted layout (nameOf value) rest
  rw [Layout.chars, Layout.quoted_append, read_choice, Reader.choice,
    bind_of_ok (peek_past hBlanks hQuote _)]
  refine (bind_of_ok rfl).trans ?_
  refine (bind_of_ok hString).trans ?_
  rw [hChoice]
  rfl

end Format

end Questionnaire

------------------------------------------------------------
-- Optional Values and Lists
------------------------------------------------------------

namespace Questionnaire

namespace Format

open Reader

variable {α : Type}
variable {format : Format α}

/- The word for nothing is read back as nothing. -/
theorem readsBack_none
    (format : Format α) :
    ReadsBack (.optional format) none := by
  intro layout level
  refine reads_of_fits (.null : Json.Fits 0 _) level ?_
  intro blanks rest hBlanks _
  have hWord : isBlank 'n' = false := rfl
  rw [Layout.chars, read_optional, Reader.optional, List.cons_append,
    bind_of_ok (peek_past hBlanks hWord _)]
  rfl

/- A value is told from nothing by how its text begins. -/
theorem readsBack_some
    {depth : Nat}
    {value : α}
    (hFits : (format.toJson value).Fits depth)
    (hNull : format.toJson value ≠ .null)
    (hValue : format.ReadsBack value) :
    ReadsBack (.optional format) (some value) := by
  have hJson :
      toJson (.optional format) (some value) =
        format.toJson value := by
    rw [toJson]
  intro layout level
  refine reads_of_fits (by rw [hJson]; exact hFits) level ?_
  intro blanks rest hBlanks hEnds
  have hRead := (hValue layout level).here hEnds
  rcases Layout.begins hFits layout level with
    ⟨c, more, hText, hBlank, _, hWord⟩
  rw [hText, List.cons_append] at hRead
  rw [hJson, hText, List.cons_append, read_optional, Reader.optional,
    bind_of_ok (peek_past hBlanks hBlank _)]
  have hSome :
      (do return some (← format.read) : Reader (Option α))
          (c :: (more ++ rest)) = .ok (some value, rest) :=
    bind_of_ok hRead
  refine Eq.trans (congrFun ?_ _) hSome
  split
  · next hEq => exact absurd (Option.some.inj hEq) (hWord hNull)
  · rfl

/- A list is read back if its items are. -/
theorem readsBack_list
    {depth : Nat}
    {values : List α}
    (hFits : (toJson (.list format) values).Fits depth)
    (hValues : ∀ value ∈ values, format.ReadsBack value) :
    ReadsBack (.list format) values := by
  intro layout level
  refine reads_of_fits hFits level ?_
  intro blanks rest hBlanks _
  have hBracket : isBlank '[' = false := rfl
  rw [toJson]
  cases values with
  | nil =>
      rw [List.map_nil, Layout.chars, read_list, Reader.list,
        List.cons_append, bind_of_ok (peek_past hBlanks hBracket _)]
      exact (bind_of_ok rfl).trans (listItems_nil format.read rest)
  | cons value values =>
      have hItems :=
        listItems_reads (layout.blank_gap (level + 1))
          (layout.blank_gap level)
          (fun other hOther =>
            hValues other hOther layout (level + 1)) rest
      rw [List.map_cons, Layout.chars_array_cons, List.flatMap_map,
        read_list, Reader.list]
      simp only [List.cons_append, List.append_assoc,
        List.nil_append]
      rw [bind_of_ok (peek_past hBlanks hBracket _)]
      refine (bind_of_ok rfl).trans (hItems.trans ?_)
      rw [List.map_id']

end Format

end Questionnaire

------------------------------------------------------------
-- Records
------------------------------------------------------------

namespace Questionnaire

namespace Fields

open Reader

variable {α β σ : Type}

/-
  What is written of a record leads to slots from which it is
  filled again.
-/
def ReadsBack
    (fields : Fields α σ)
    (values : α) : Prop :=
  ∀ (layout : Layout) (level : Nat),
    ∃ slots,
      layout.Puts level fields.readInto fields.vacant
          (fields.toMembers values) slots ∧
        fields.fill slots = .ok values

theorem readsBack_done :
    ReadsBack .done () :=
  fun _ _ => ⟨(), .none, rfl⟩

/- A member passes by a field with another name. -/
theorem readInto_other
    {name other : String}
    {format : Format α}
    {absent : Option α}
    {isOmitted : α → Bool}
    {rest : Fields β σ}
    (hName : name ≠ other)
    (slot : Option α)
    (slots : σ) :
    readInto other (.field name format absent isOmitted rest)
        (slot, slots) =
      (do return (slot, ← rest.readInto other slots)) := by
  cases slot with
  | none => rw [readInto, if_neg hName]
  | some value => rw [readInto, if_neg hName]

/- The members of the later fields pass by an earlier field. -/
theorem puts_later
    {layout : Layout}
    {level : Nat}
    {name : String}
    {format : Format α}
    {absent : Option α}
    {isOmitted : α → Bool}
    {rest : Fields β σ}
    {slot : Option α}
    {slots last : σ}
    {members : List (String × Json)}
    (hNames : ∀ member ∈ members, name ≠ member.1)
    (hPuts : layout.Puts level rest.readInto slots members last) :
    layout.Puts level
      (fun other => readInto other
        (.field name format absent isOmitted rest))
      (slot, slots) members (slot, last) := by
  induction hPuts with
  | none => exact .none
  | one puts others ih =>
      refine .one ?_
        (ih (fun other hOther =>
          hNames other (List.mem_cons_of_mem _ hOther)))
      intro text hEnds
      have hName := hNames _ List.mem_cons_self
      rw [readInto_other hName, bind_of_ok (puts text hEnds)]
      rfl

/- A field that is written is read into its slot. -/
theorem readsBack_written
    {name : String}
    {format : Format α}
    {absent : Option α}
    {isOmitted : α → Bool}
    {rest : Fields β σ}
    {value : α}
    {more : β}
    (hName : name ∉ rest.names)
    (hWritten : isOmitted value = false)
    (hValue : format.ReadsBack value)
    (hMore : rest.ReadsBack more) :
    ReadsBack (.field name format absent isOmitted rest)
      (value, more) := by
  intro layout level
  rcases hMore layout level with ⟨slots, hPuts, hFill⟩
  refine ⟨(some value, slots), ?_, ?_⟩
  · rw [toMembers, hWritten]
    refine .one ?_ (puts_later ?_ hPuts)
    · intro text hEnds
      have hRead :=
        (hValue layout level).reads layout.space text
          layout.blank_space hEnds
      rw [vacant, readInto, if_pos rfl,
        bind_of_ok (Layout.colon_cons _), bind_of_ok hRead]
      rfl
    · intro member hMem hEq
      apply hName
      rw [hEq]
      exact mem_names_of_mem_toMembers rest more member hMem
  · rw [fill, hFill]
    rfl

/- A field that is left out has its value when it is absent. -/
theorem readsBack_omitted
    {name : String}
    {format : Format α}
    {absent : Option α}
    {isOmitted : α → Bool}
    {rest : Fields β σ}
    {value : α}
    {more : β}
    (hName : name ∉ rest.names)
    (hOmitted : isOmitted value = true)
    (hAbsent : absent = some value)
    (hMore : rest.ReadsBack more) :
    ReadsBack (.field name format absent isOmitted rest)
      (value, more) := by
  intro layout level
  rcases hMore layout level with ⟨slots, hPuts, hFill⟩
  refine ⟨(none, slots), ?_, ?_⟩
  · rw [toMembers, hOmitted]
    refine puts_later ?_ hPuts
    intro member hMem hEq
    apply hName
    rw [hEq]
    exact mem_names_of_mem_toMembers rest more member hMem
  · rw [fill, hFill, hAbsent]
    rfl

end Fields

namespace Format

open Reader

variable {α β σ : Type}
variable {fields : Fields β σ}

/- A record's loop puts each member into the slot of its field. -/
theorem putsMembers_record
    (fields : Fields β σ) :
    PutsMembers
      (fun (isFirst, slots) => do
        match ← nextKey isFirst with
        | none => return .inr (← orMismatch (fields.fill slots))
        | some name =>
            return .inl (false, ← fields.readInto name slots))
      (fun name => fields.readInto name)
      (fun slots values => fields.fill slots = .ok values) := by
  constructor
  · intro isFirst slots next name text more rest hKey hPut
    refine (bind_of_ok hKey).trans ?_
    refine (bind_of_ok hPut).trans ?_
    rfl
  · intro isFirst slots values text rest hKey hFill
    refine (bind_of_ok hKey).trans ?_
    simp only [hFill]
    rfl

/- A record is read back if its fields are. -/
theorem readsBack_record
    {title : String}
    {build : β → α}
    {parts : α → β}
    {value : α}
    {depth : Nat}
    (hFits :
      (toJson (.record title fields build parts) value).Fits depth)
    (hFields : fields.ReadsBack (parts value))
    (hBuild : build (parts value) = value) :
    ReadsBack (.record title fields build parts) value := by
  intro layout level
  refine reads_of_fits hFits level ?_
  intro blanks rest hBlanks _
  have hBracket : isBlank '\x7b' = false := rfl
  rcases hFields layout (level + 1) with ⟨slots, hPuts, hFill⟩
  rw [toJson]
  rcases layout.exists_chars_object level
      (fields.toMembers (parts value)) with ⟨more, hText⟩
  have hLoop :=
    Layout.loop_members (putsMembers_record fields) hPuts hFill rest
      (by rw [hText]; rfl)
  rw [hText, List.cons_append, read,
    bind_of_ok (peek_past hBlanks hBracket _)]
  refine (bind_of_ok rfl).trans ?_
  refine (bind_of_ok hLoop).trans ?_
  rw [hBuild]
  rfl

end Format

end Questionnaire

------------------------------------------------------------
-- Lawful Values
------------------------------------------------------------

namespace Questionnaire

mutual

/- A lawful value is read back from any layout of its text. -/
theorem Format.readsBack_of_lawful :
    {α : Type} →
    (format : Format α) →
    (value : α) →
    format.Lawful value →
    format.ReadsBack value
  | _, .text, value, _ => Format.readsBack_text value
  | _, .flag, value, _ => Format.readsBack_flag value
  | _, .integer, value, hLawful => by
      rw [Format.Lawful] at hLawful
      exact Format.readsBack_integer hLawful.1 hLawful.2
  | _, .natural _, value, hLawful => by
      rw [Format.Lawful] at hLawful
      exact Format.readsBack_natural hLawful
  | _, .choice _ _ _ _, value, hLawful => by
      rw [Format.Lawful] at hLawful
      exact Format.readsBack_choice hLawful
  | _, .optional format, none, _ => Format.readsBack_none format
  | _, .optional format, some value, hLawful => by
      rw [Format.Lawful] at hLawful
      exact Format.readsBack_some (format.fits_toJson value hLawful.1)
        hLawful.2 (format.readsBack_of_lawful value hLawful.1)
  | _, .list format, values, hLawful => by
      refine Format.readsBack_list
        (Format.fits_toJson (.list format) values hLawful) ?_
      rw [Format.Lawful] at hLawful
      exact fun value hValue =>
        format.readsBack_of_lawful value (hLawful value hValue)
  | _, .record title fields build parts, value, hLawful => by
      have hFits := Format.fits_toJson _ value hLawful
      rw [Format.Lawful] at hLawful
      exact Format.readsBack_record hFits
        (fields.readsBack_of_lawful (parts value) hLawful.1) hLawful.2

/- And so are lawful fields. -/
theorem Fields.readsBack_of_lawful :
    {α σ : Type} →
    (fields : Fields α σ) →
    (values : α) →
    fields.Lawful values →
    fields.ReadsBack values
  | _, _, .done, (), _ => Fields.readsBack_done
  | _, _, .field name format absent isOmitted rest,
      (value, more), hLawful => by
      rw [Fields.Lawful] at hLawful
      rcases hLawful with ⟨hName, hValue, hMore⟩
      have hRest := rest.readsBack_of_lawful more hMore
      cases hOmitted : isOmitted value with
      | true =>
          rw [hOmitted, if_pos rfl] at hValue
          exact Fields.readsBack_omitted hName hOmitted hValue hRest
      | false =>
          rw [hOmitted, if_neg Bool.false_ne_true] at hValue
          exact Fields.readsBack_written hName hOmitted
            (format.readsBack_of_lawful value hValue) hRest

end

namespace Format

open Json Reader

variable {α : Type}
variable {format : Format α}
variable {value : α}

/- A value is read back from its text in any layout. -/
theorem ReadsBack.parse_chars
    (hValue : format.ReadsBack value)
    (layout : Layout) :
    format.parse
        (String.ofList (layout.chars 0 (format.toJson value))) =
      .ok value := by
  have hFinish := (hValue layout 0).finish blank_nil blank_nil
  rw [List.nil_append, List.append_nil] at hFinish
  exact hFinish

/- It is read back from its text on one line. -/
theorem ReadsBack.parse_compact
    (hValue : format.ReadsBack value) :
    format.parse (format.toJson value).compact = .ok value := by
  have hParse := hValue.parse_chars .compact
  rw [Layout.chars_compact] at hParse
  exact hParse

/- And it is read back from the text that is indented. -/
theorem ReadsBack.parse_pretty
    (hValue : format.ReadsBack value) :
    format.parse (format.toJson value).pretty = .ok value := by
  have hParse := hValue.parse_chars .pretty
  rw [Layout.chars_pretty] at hParse
  exact hParse

/- Also from the text in a script element. -/
theorem ReadsBack.parse
    (hValue : format.ReadsBack value) :
    format.parse (embedded (format.toJson value).compact) =
      .ok value := by
  have hParse := hValue.parse_chars .scripted
  rw [Layout.chars_scripted, ← toList_embedded_compact,
    String.ofList_toList] at hParse
  exact hParse

end Format

end Questionnaire
