import Questionnaire.Document.Page
import Questionnaire.Proofs.Document.Indent
import Questionnaire.Proofs.Entry.Stored

/-
  Typing a telephone number, which is laid out again with every
  key.

  Key definitions include:
    * `Phone.shownAfter`

  A number that is laid out ends with its last digit
  (`Phone.exists_layOut_concat`), so a key that is typed or taken
  back does what it would do to the digits alone
  (`Phone.format_append`, `Phone.digits_dropLast`).  The field of
  a page is as long as the longest number
  (`Document.exists_maxLength`).
-/

------------------------------------------------------------
-- Keys
------------------------------------------------------------

namespace Questionnaire.Phone

/- The digits of an entry are its first ones. -/
theorem digits_eq_take
    (entry : List Char) :
    digits entry =
      (entry.filter (fun c => '0' ≤ c && c ≤ '9')).take 11 :=
  rfl

/- What is typed after an entry adds its digits. -/
theorem digits_append
    (entry more : List Char) :
    digits (entry ++ more) =
      (digits entry ++ more.filter Char.isDigit).take maxDigits := by
  rw [digits, digits, List.filter_append, List.take_append,
    List.take_append, List.take_take, Nat.min_self]
  congr 2
  rw [List.length_take]
  omega

/- Typing goes on as if nothing had been laid out. -/
theorem format_append
    (entry more : String) :
    format (format entry ++ more) = format (entry ++ more) := by
  have hDigits :
      digits (format entry ++ more).toList =
        digits (entry ++ more).toList := by
    rw [String.toList_append, String.toList_append,
      digits_append, digits_append, digits_format]
  rw [format, hDigits]
  exact (format.eq_def _).symm

/- What a field shows after more keys, laid out with each one. -/
def shownAfter
    (shown : String)
    (keys : List String) : String :=
  keys.foldl (fun shown key => format (shown ++ key)) shown

/- All keys are shown as if they had been typed at once. -/
theorem shownAfter_format
    (entry : String)
    (keys : List String) :
    shownAfter (format entry) keys =
      format (keys.foldl (fun typed key => typed ++ key) entry) := by
  induction keys generalizing entry with
  | nil => rfl
  | cons key keys ih =>
      rw [shownAfter, List.foldl_cons, format_append]
      exact ih (entry ++ key)

/-
  A number that is laid out ends with its last digit: a mark
  stands only where a digit follows.
-/
theorem exists_layOut_concat
    (number : List Char)
    (last : Char) :
    ∃ front, layOut (number ++ [last]) = front ++ [last] := by
  have hSome : (number ++ [last]).isEmpty = false := by simp
  have hLength : (number ++ [last]).length = number.length + 1 :=
    List.length_append
  unfold layOut
  rw [hSome, if_neg Bool.false_ne_true, hLength]
  rcases Nat.lt_or_ge number.length 2 with hArea | hArea
  · -- Only the area code is there, and all of it is taken.
    have hTake : (number ++ [last]).take 2 = number ++ [last] :=
      List.take_of_length_le (by omega)
    rw [hTake, if_neg (by omega), if_neg (by omega)]
    exact ⟨'(' :: number, by simp⟩
  · have hDrop :
        (number ++ [last]).drop 2 = number.drop 2 ++ [last] :=
      List.drop_append_of_le_length hArea
    rcases Nat.lt_or_ge number.length 7 with hLine | hLine
    · have hTake :
          (number.drop 2 ++ [last]).take 5 =
            number.drop 2 ++ [last] := by
        apply List.take_of_length_le
        rw [List.length_append, List.length_drop,
          List.length_singleton]
        omega
      rw [hDrop, hTake, if_pos (by omega), if_neg (by omega)]
      exact
        ⟨'(' :: (number ++ [last]).take 2
          ++ ([')', ' '] ++ number.drop 2), by simp⟩
    · have hEnd :
          (number ++ [last]).drop 7 = number.drop 7 ++ [last] :=
        List.drop_append_of_le_length hLine
      rw [hEnd, if_pos (by omega), if_pos (by omega)]
      exact
        ⟨'(' :: (number ++ [last]).take 2
          ++ ([')', ' '] ++ ((number ++ [last]).drop 2).take 5)
          ++ '-' :: number.drop 7, by simp⟩

/- Taking back the last character takes back the last digit. -/
theorem filter_dropLast_layOut
    {number : List Char}
    (hDigits : ∀ c ∈ number, c.isDigit = true) :
    (layOut number).dropLast.filter Char.isDigit =
      number.dropLast := by
  rcases List.eq_nil_or_concat number with
    hNone | ⟨number, last, hNumber⟩
  · rw [hNone]
    rfl
  · rw [List.concat_eq_append] at hNumber
    subst hNumber
    rcases exists_layOut_concat number last with ⟨front, hFront⟩
    have hLast : last.isDigit = true :=
      hDigits last (by simp)
    have hKept := filter_layOut hDigits
    rw [hFront, List.filter_append,
      List.filter_cons_of_pos hLast, List.filter_nil] at hKept
    rw [hFront, List.dropLast_concat, List.dropLast_concat]
    exact List.append_cancel_right hKept

/- Taking back a key takes back one digit. -/
theorem digits_dropLast
    (entry : String) :
    digits (format entry).toList.dropLast =
      (digits entry.toList).dropLast := by
  rcases digits_spec entry.toList with ⟨hDigits, hLength⟩
  rw [format, String.toList_ofList, digits.eq_def (layOut _).dropLast,
    filter_dropLast_layOut hDigits]
  apply List.take_of_length_le
  rw [List.length_dropLast]
  omega

/- Digits are the digits of themselves. -/
theorem digits_of_digits
    {number : List Char}
    (hDigits : ∀ c ∈ number, c.isDigit = true)
    (hLength : number.length ≤ maxDigits) :
    digits number = number := by
  rw [digits, List.filter_eq_self.mpr hDigits]
  exact List.take_of_length_le hLength

/- What is left is laid out like the digits that are left. -/
theorem format_dropLast
    (entry : String) :
    format (String.ofList (format entry).toList.dropLast) =
      format (String.ofList (digits entry.toList).dropLast) := by
  rcases digits_spec entry.toList with ⟨hDigits, hLength⟩
  have hLeft :
      digits (digits entry.toList).dropLast =
        (digits entry.toList).dropLast := by
    apply digits_of_digits
    · intro c hMem
      exact hDigits c (List.dropLast_subset _ hMem)
    · rw [List.length_dropLast]
      omega
  rw [format.eq_def (String.ofList _),
    format.eq_def (String.ofList _), String.toList_ofList,
    String.toList_ofList, digits_dropLast, hLeft]

/- Nothing is shown of an entry without digits only. -/
theorem format_eq_empty_iff
    (entry : String) :
    format entry = "" ↔ digits entry.toList = [] := by
  rw [format, String.ofList_eq_empty_iff]
  unfold layOut
  cases hDigits : digits entry.toList with
  | nil => simp
  | cons c rest => simp

end Questionnaire.Phone

------------------------------------------------------------
-- Verdicts
------------------------------------------------------------

namespace Questionnaire

/- A telephone number will do with ten digits, or with none. -/
theorem Validator.valid_phone_iff
    (entry : String)
    (required : Bool) :
    (phone.judge entry required).valid = true ↔
      10 ≤ (Phone.digits entry.toList).length ∨
        Phone.digits entry.toList = [] ∧ required = false := by
  unfold judge
  cases hDigits : Phone.digits entry.toList with
  | nil => simp
  | cons c rest => simp [Phone.minDigits]

end Questionnaire

------------------------------------------------------------
-- The Field of a Number
------------------------------------------------------------

namespace Questionnaire.Document

/- The attribute that bounds what is typed into a field. -/
def lengthPieces
    (n : Nat) : List Piece :=
  [.markup " maxlength=\"", shownNumber n, .markup "\""]

/- The bound stands in the field, behind its placeholder. -/
theorem lengthPieces_infix_line
    (question : Question)
    (inputType : String)
    (n : Nat) :
    .markup "\"" :: lengthPieces n <:+:
      linePieces question inputType (some n) :=
  ⟨[ .markup "          <input type=\"",
      .shown inputType,
      .markup "\" id=\"inp-",
      .shown question.id,
      .markup "\" data-field=\"",
      .shown question.id,
      .markup "\" placeholder=\"",
      shownOption question.hint? ],
    [.markup " />\n"], rfl⟩

/- A field stands between its label and its message. -/
theorem field_infix_fieldPieces
    (question : Question)
    (field : List Piece)
    (message goOn : String) :
    field <:+: fieldPieces question field message goOn :=
  ((List.infix_append _ field _).trans
    (List.prefix_append _ _).isInfix).trans
      (List.prefix_append _ _).isInfix

/- The bound stands in the step of a telephone number. -/
theorem lengthPieces_infix_step
    {question : Question}
    (hPhone : question.kind = .phone)
    (step last : Nat) :
    .markup "\"" :: lengthPieces Phone.maxLength <:+:
      stepPieces step last question := by
  have hControl :
      Control.ofQuestion question =
        .line "tel" .phone (some Phone.maxLength) := by
    simp [Control.ofQuestion, hPhone]
  have hField (goOn : String) :
      .markup "\"" :: lengthPieces Phone.maxLength <:+:
        controlPieces question goOn := by
    unfold controlPieces
    rw [hControl]
    exact
      (lengthPieces_infix_line question "tel" _).trans
        (field_infix_fieldPieces question _ _ _)
  have hControls :=
    hField (if step == last then "Revisar" else "Continuar")
  refine hControls.trans ?_
  unfold stepPieces
  exact
    ((List.suffix_cons _ _).trans
      (List.suffix_append _ _)).isInfix.trans
        (List.prefix_append _ _).isInfix

/-
  What is written of the bound: the quotation mark before it ends
  no line, so nothing is indented.
-/
theorem indentedFrom_lengthPieces
    (atStart : Bool) :
    ∃ before,
      indentedFrom atStart
          ((.markup "\"" :: lengthPieces Phone.maxLength).map
            Piece.written) =
        before ++ " maxlength=\"15\"".toList := by
  have hQuote :
      startsLine atStart (Piece.markup "\"").written = false := rfl
  have hBound :
      indentedFrom false
          ((lengthPieces Phone.maxLength).map Piece.written) =
        " maxlength=\"15\"".toList := by
    decide +kernel
  rw [List.map_cons, indentedFrom_cons, hQuote, hBound]
  exact ⟨_, rfl⟩

/- The field of a telephone number is as long as its numbers. -/
theorem exists_maxLength
    {form : Form}
    {index : Nat}
    {question : Question}
    (hQuestion : form.inOrder[index]? = some question)
    (hPhone : question.kind = .phone) :
    ∃ block,
      (stepBlocks form.inOrder)[index]? = some block ∧
        " maxlength=\"15\"".toList <:+: block := by
  refine
    ⟨indented
      (stepPieces (index + 1) form.inOrder.length question), ?_, ?_⟩
  · simp [stepBlocks, hQuestion]
  · rcases lengthPieces_infix_step hPhone (index + 1)
      form.inOrder.length with ⟨front, rest, hPieces⟩
    rw [← hPieces, indented, List.map_append, List.map_append,
      indentedFrom_append, indentedFrom_append]
    rcases indentedFrom_lengthPieces
      (startsLineAfter true (front.map Piece.written)) with
        ⟨before, hBound⟩
    rw [hBound, ← List.append_assoc]
    exact List.infix_append _ _ _

end Questionnaire.Document

------------------------------------------------------------
-- Telephone Numbers as They Are Typed
------------------------------------------------------------

namespace Questionnaire

/-
  A telephone number keeps the first eleven digits of its entry,
  whatever is typed around them.  It is laid out already; typing
  on and taking back a key do what they would do to the digits
  alone; and it fits into its field on the page.  It will do if
  it has ten digits, or none where none is required, and is
  judged so when it is stored.
-/
theorem phone_keeps_digits
    (entry more : String)
    (required : Bool) :
    let digits := Phone.digits entry.toList
    let stored := Phone.format entry
    let judged := Validator.phone.judge entry required
    digits =
        (entry.toList.filter (fun c => '0' ≤ c && c ≤ '9')).take
          11 ∧
      Phone.digits stored.toList = digits ∧
      Phone.format stored = stored ∧
      Phone.format (stored ++ more) =
        Phone.format (entry ++ more) ∧
      (∀ keys,
        Phone.shownAfter stored keys =
          Phone.format
            (keys.foldl (fun typed key => typed ++ key) entry)) ∧
      (stored ≠ "" →
        digits ≠ [] ∧
          Phone.digits stored.toList.dropLast = digits.dropLast ∧
          Phone.format (String.ofList stored.toList.dropLast) =
            Phone.format (String.ofList digits.dropLast)) ∧
      stored.length ≤ 15 ∧
      (∀ (form : Form) (index : Nat) (question : Question),
        form.inOrder[index]? = some question →
          question.kind = .phone →
            ∃ block,
              (Document.stepBlocks form.inOrder)[index]? =
                  some block ∧
                " maxlength=\"15\"".toList <:+: block) ∧
      judged.value = stored ∧
      (judged.valid = true ↔
        10 ≤ digits.length ∨ digits = [] ∧ required = false) ∧
      (Validator.phone.judge judged.value required).valid =
        judged.valid := by
  intro digits stored judged
  refine
    ⟨Phone.digits_eq_take _, Phone.digits_format entry,
      Phone.format_format entry, Phone.format_append entry more,
      Phone.shownAfter_format entry, ?_,
      Phone.length_format_le entry, ?_, rfl, ?_, ?_⟩
  · intro hStored
    exact
      ⟨mt (Phone.format_eq_empty_iff entry).mpr hStored,
        Phone.digits_dropLast entry, Phone.format_dropLast entry⟩
  · intro form index question hQuestion hPhone
    exact Document.exists_maxLength hQuestion hPhone
  · exact Validator.valid_phone_iff entry required
  · exact
      congrArg Entry.valid
        (Validator.phone.judge_value entry required)

/- A form that asks for a telephone number. -/
def Form.dialed : Form :=
  { company := { name := "Acme", slug := "acme" }
    questions := [
      { id := "phone", kind := .phone, label := "Phone" }] }

/-
  The first digit of the line is taken back together with the
  bracket before it, and the page bounds the field.
-/
theorem phone_taken_back :
    Phone.format "119" ≠ "" ∧
      Phone.format
          (String.ofList (Phone.format "119").toList.dropLast) =
        Phone.format
          (String.ofList (Phone.digits "119".toList).dropLast) ∧
      Form.dialed.inOrder[0]? =
        some { id := "phone", kind := .phone, label := "Phone" } ∧
      ∃ block,
        (Document.stepBlocks Form.dialed.inOrder)[0]? = some block ∧
          " maxlength=\"15\"".toList <:+: block := by
  have hStored : Phone.format "119" ≠ "" := by
    decide +kernel
  have hQuestion :
      Form.dialed.inOrder[0]? =
        some { id := "phone", kind := .phone, label := "Phone" } := by
    simp [Form.inOrder, Form.dialed]
  rcases phone_keeps_digits "119" "" true with
    ⟨_, _, _, _, _, hBack, _, hField, _⟩
  exact
    ⟨hStored, (hBack hStored).2.2, hQuestion,
      hField Form.dialed 0 _ hQuestion rfl⟩

end Questionnaire
