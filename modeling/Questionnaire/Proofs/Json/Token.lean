import Questionnaire.Json.Parse
import Questionnaire.Json.Print
import Mathlib.Data.List.TakeWhile

/-
  Reading back the smallest parts of a JSON text: strings and
  numbers.

  Key definitions include:
    * `Blank`
    * `Rounds`
    * `ReadsChar`
    * `Ends`

  A loop gets to its result if each of its rounds reads
  something (`loop_of_rounds`).  So a string is read back from
  any spelling from which its characters are
  (`string_of_spelling`), and a number of sixty-four bits from
  its digits (`number_toDigits`).
-/

------------------------------------------------------------
-- Steps and Loops
------------------------------------------------------------

namespace Questionnaire

namespace Reader

variable {α β σ : Type}

/- A step that has a result hands it to the next one. -/
theorem bind_of_ok
    {first : Reader α}
    {next : α → Reader β}
    {text rest : List Char}
    {value : α}
    (hFirst : first text = .ok (value, rest)) :
    (first >>= next) text = next value rest := by
  simp [bind, StateT.bind, hFirst, Except.bind]

/- Looking at what is left of a text reads nothing. -/
theorem bind_get
    {next : List Char → Reader β}
    {text : List Char} :
    (get >>= next) text = next text text :=
  rfl

/- A text of blanks only; the empty text is one. -/
def Blank
    (text : List Char) : Prop :=
  ∀ c ∈ text, isBlank c = true

theorem blank_nil :
    Blank [] :=
  fun _ hMem => absurd hMem List.not_mem_nil

/- Blanks do not hide what comes next. -/
theorem peek_blank_append
    {blanks : List Char}
    (hBlanks : Blank blanks)
    (rest : List Char) :
    peek (blanks ++ rest) = peek rest := by
  simp only [peek, List.dropWhile_append_of_pos hBlanks]

theorem peek_cons
    {c : Char}
    (hBlank : isBlank c = false)
    (rest : List Char) :
    peek (c :: rest) = .ok (some c, c :: rest) := by
  simp [peek, hBlank]

theorem peek_past
    {blanks : List Char}
    {c : Char}
    (hBlanks : Blank blanks)
    (hBlank : isBlank c = false)
    (rest : List Char) :
    peek (blanks ++ c :: rest) = .ok (some c, c :: rest) := by
  rw [peek_blank_append hBlanks, peek_cons hBlank]

/-
  A loop gets from one state to a result, and each round that
  goes on reads something.
-/
inductive Rounds
    (step : σ → Reader (σ ⊕ α)) :
    σ → List Char → α → List Char → Prop where
  | last
      {state : σ}
      {text rest : List Char}
      {result : α}
      (ends : step state text = .ok (.inr result, rest)) :
      Rounds step state text result rest
  | next
      {state later : σ}
      {text more rest : List Char}
      {result : α}
      (goesOn : step state text = .ok (.inl later, more))
      (reads : more.length < text.length)
      (others : Rounds step later more result rest) :
      Rounds step state text result rest

/- A round for each character of the text is enough. -/
theorem loopAlong_of_rounds
    {step : σ → Reader (σ ⊕ α)}
    {state : σ}
    {text rest : List Char}
    {result : α}
    (hRounds : Rounds step state text result rest)
    {along : List Char}
    (hEnough : text.length < along.length) :
    loopAlong step along state text = .ok (result, rest) := by
  induction hRounds generalizing along with
  | last ends =>
      cases along with
      | nil => simp at hEnough
      | cons c along =>
          rw [loopAlong, bind_of_ok ends]
          rfl
  | next goesOn reads others ih =>
      cases along with
      | nil => simp at hEnough
      | cons c along =>
          rw [List.length_cons] at hEnough
          rw [loopAlong, bind_of_ok goesOn]
          exact ih (by omega)

/- So a loop has the result that its rounds get to. -/
theorem loop_of_rounds
    {step : σ → Reader (σ ⊕ α)}
    {state : σ}
    {text rest : List Char}
    {result : α}
    (hRounds : Rounds step state text result rest) :
    loop step state text = .ok (result, rest) := by
  apply loopAlong_of_rounds hRounds
  exact Nat.lt_succ_self _

end Reader

end Questionnaire

------------------------------------------------------------
-- Strings
------------------------------------------------------------

namespace Questionnaire

namespace Reader

/- A spelling is read as one character of a string. -/
structure ReadsChar
    (spelling : List Char)
    (c : Char) : Prop where
  longer : 0 < spelling.length
  reads :
    ∀ sofar rest,
      stringStep sofar (spelling ++ rest) =
        .ok (.inl (c :: sofar), rest)

/- A string is read from any spelling of its characters. -/
theorem string_of_spelling
    {spell : Char → List Char}
    {text : List Char}
    (hSpell : ∀ c ∈ text, ReadsChar (spell c) c)
    (rest : List Char) :
    string (text.flatMap spell ++ '"' :: rest) =
      .ok (String.ofList text, rest) := by
  apply loop_of_rounds
  have hRounds (sofar : List Char) :
      Rounds stringStep sofar (text.flatMap spell ++ '"' :: rest)
        (String.ofList (sofar.reverse ++ text)) rest := by
    induction text generalizing sofar with
    | nil =>
        rw [List.append_nil]
        exact .last rfl
    | cons c text ih =>
        have hChar := hSpell c List.mem_cons_self
        have hRest :=
          ih (fun other hOther =>
            hSpell other (List.mem_cons_of_mem _ hOther))
            (c :: sofar)
        rw [List.flatMap_cons, List.append_assoc]
        refine .next (hChar.reads sofar _) ?_ ?_
        · have hLonger := hChar.longer
          simp only [List.length_append]
          omega
        · rw [List.reverse_cons, List.append_assoc] at hRest
          exact hRest
  exact hRounds []

/- A small hexadecimal digit has its value. -/
theorem hexValue?_hexDigit
    {n : Nat}
    (hLt : n < 16) :
    hexValue? (Json.hexDigit n) = some n := by
  have hAll :
      ∀ n : Fin 16, hexValue? (Json.hexDigit n) = some n.val := by
    decide
  exact hAll ⟨n, hLt⟩

/- A character below the surrogates is read from its number. -/
theorem readsChar_spelled
    {c : Char}
    (hLt : c.toNat < 0xD800) :
    ReadsChar (Json.spelled c) c := by
  refine ⟨?_, ?_⟩
  · simp [Json.spelled]
  · intro sofar rest
    have hNumber :
        hexNumber?
            (Json.hexDigit (c.toNat / 0x1000 % 16))
            (Json.hexDigit (c.toNat / 0x100 % 16))
            (Json.hexDigit (c.toNat / 0x10 % 16))
            (Json.hexDigit (c.toNat % 16)) =
          some c.toNat := by
      have hDigit (n : Nat) :
          hexValue? (Json.hexDigit (n % 16)) = some (n % 16) :=
        hexValue?_hexDigit (Nat.mod_lt n (by decide))
      simp only [hexNumber?, hDigit, Option.bind_eq_bind,
        Option.bind_some, Option.pure_def, Option.some.injEq]
      omega
    have hUnit :
        hexUnit
            (Json.hexDigit (c.toNat / 0x1000 % 16)
              :: Json.hexDigit (c.toNat / 0x100 % 16)
              :: Json.hexDigit (c.toNat / 0x10 % 16)
              :: Json.hexDigit (c.toNat % 16) :: rest) =
          .ok (c.toNat, rest) := by
      simp [hexUnit, hNumber]
    have hSpelled :
        spelledChar
            (Json.hexDigit (c.toNat / 0x1000 % 16)
              :: Json.hexDigit (c.toNat / 0x100 % 16)
              :: Json.hexDigit (c.toNat / 0x10 % 16)
              :: Json.hexDigit (c.toNat % 16) :: rest) =
          .ok (c, rest) := by
      rw [spelledChar, bind_of_ok hUnit,
        if_neg (by simp; omega), if_pos (by simp [hLt]),
        Char.ofNat_toNat]
      rfl
    have hEscaped :
        escapedChar
            ('u' :: Json.hexDigit (c.toNat / 0x1000 % 16)
              :: Json.hexDigit (c.toNat / 0x100 % 16)
              :: Json.hexDigit (c.toNat / 0x10 % 16)
              :: Json.hexDigit (c.toNat % 16) :: rest) =
          .ok (c, rest) := hSpelled
    have hStep :
        stringStep sofar (Json.spelled c ++ rest) =
          (escapedChar >>= fun c => pure (.inl (c :: sofar)))
            ('u' :: Json.hexDigit (c.toNat / 0x1000 % 16)
              :: Json.hexDigit (c.toNat / 0x100 % 16)
              :: Json.hexDigit (c.toNat / 0x10 % 16)
              :: Json.hexDigit (c.toNat % 16) :: rest) := rfl
    rw [hStep, bind_of_ok hEscaped]
    rfl

/- A character that needs no escape is read as it is. -/
theorem readsChar_self
    {c : Char}
    (hQuote : c ≠ '"')
    (hBackslash : c ≠ '\\')
    (hControl : 0x20 ≤ c.toNat) :
    ReadsChar [c] c := by
  refine ⟨Nat.one_pos, ?_⟩
  intro sofar rest
  have hNot : ¬ c.toNat < 0x20 := Nat.not_lt.mpr hControl
  rw [List.singleton_append, stringStep,
    bind_get]
  simp only []
  rw [if_neg hNot]
  rfl

/- An escaped character is read as it was. -/
theorem readsChar_escapedChar
    (c : Char) :
    ReadsChar (Json.escapedChar c) c := by
  unfold Json.escapedChar
  split
  case h_8 hQuote hBackslash _ _ _ _ _ =>
    split
    case isTrue hControl =>
      exact readsChar_spelled (Nat.lt_trans hControl (by decide))
    case isFalse hControl =>
      exact readsChar_self hQuote hBackslash
        (Nat.le_of_not_lt hControl)
  all_goals exact ⟨Nat.two_pos, fun _ _ => rfl⟩

end Reader

end Questionnaire

------------------------------------------------------------
-- Numbers
------------------------------------------------------------

namespace Questionnaire

namespace Reader

/- What may come after a value: an end, a separator, a blank. -/
def Ends : List Char → Prop
  | [] => True
  | c :: _ => c = ',' ∨ c = ']' ∨ c = '\x7d' ∨ isBlank c = true

/- A digit is no other character. -/
theorem ne_of_isDigit
    {c d : Char}
    (hDigit : c.isDigit = true)
    (hOther : d.isDigit = false) :
    c ≠ d := by
  intro hEq
  rw [hEq, hOther] at hDigit
  exact Bool.false_ne_true hDigit

/- A number is over where a value is. -/
theorem Ends.head
    {c : Char}
    {rest : List Char}
    (hEnds : Ends (c :: rest)) :
    c.isDigit = false ∧ c ≠ '.' ∧ (c == 'e' || c == 'E') = false := by
  rcases hEnds with hComma | hBracket | hBrace | hBlank
  · rw [hComma]
    decide
  · rw [hBracket]
    decide
  · rw [hBrace]
    decide
  · simp only [isBlank, Bool.or_eq_true, beq_iff_eq] at hBlank
    rcases hBlank with ((hEq | hEq) | hEq) | hEq
    all_goals
      rw [hEq]
      decide

/- All digits that fit into sixty-four bits are absorbed. -/
theorem absorb_eq
    (text : List Char)
    (sofar : Nat)
    (hFits : Nat.ofDigitChars 10 text sofar < Nat.pow 2 64) :
    absorb sofar text =
      (Nat.ofDigitChars 10 text sofar, text.length) := by
  induction text generalizing sofar with
  | nil => rfl
  | cons c text ih =>
      have hNext :
          Nat.ofDigitChars 10 (c :: text) sofar =
            Nat.ofDigitChars 10 text
              (sofar * 10 + digitValue c) := by
        rw [Nat.ofDigitChars_cons, Nat.mul_comm]
        rfl
      have hGrows :
          sofar * 10 + digitValue c ≤
            Nat.ofDigitChars 10 text
              (sofar * 10 + digitValue c) := by
        rw [Nat.ofDigitChars_eq_ofDigitChars_zero]
        refine Nat.le_trans ?_ (Nat.le_add_right _ _)
        exact Nat.le_mul_of_pos_left _ (Nat.pow_pos (by decide))
      rw [hNext] at hFits ⊢
      rw [absorb, if_pos (Nat.lt_of_le_of_lt hGrows hFits),
        ih _ hFits]
      rfl

/- A positive number is not written with a zero first. -/
theorem head_toDigits_ne_zero
    {n : Nat}
    (hPos : 0 < n) :
    (Nat.toDigits 10 n).head? ≠ some '0' := by
  induction n using Nat.strongRecOn with
  | ind n ih =>
      by_cases hOne : n < 10
      · rw [Nat.toDigits_of_lt_base hOne]
        simp
        omega
      · have hMore : 10 ≤ n := Nat.le_of_not_lt hOne
        rw [Nat.toDigits_of_base_le (by decide) hMore,
          List.head?_append, Option.or_of_isSome]
        · exact ih (n / 10) (by omega) (by omega)
        · exact List.isSome_head?.mpr Nat.toDigits_ne_nil

/- After the digits of a number nothing changes it. -/
theorem afterInteger_of_ends
    {rest : List Char}
    (hEnds : Ends rest)
    (isNegative : Bool)
    (n : Nat) :
    afterInteger isNegative n 0 rest =
      afterInteger.whole isNegative n 0 rest := by
  cases rest with
  | nil => rfl
  | cons c rest =>
      rcases hEnds.head with ⟨_, hPoint, hExponent⟩
      rw [afterInteger, bind_get]
      simp only [hExponent]
      rfl

/- A zero is read as a number of its own. -/
theorem number_zero
    {rest : List Char}
    (hEnds : Ends rest) :
    number ('0' :: rest) = .ok (.integer 0, rest) := by
  cases rest with
  | nil => rfl
  | cons c rest =>
      have hAfter := afterInteger_of_ends hEnds false 0
      rw [number, bind_get]
      have hNoSign : (some '0' == some '-') = false := rfl
      simp only [List.head?_cons, hNoSign, Bool.false_eq_true,
        if_false]
      rw [bind_get]
      simp only [hEnds.head.1, Bool.false_eq_true, if_false]
      exact hAfter

/- A number that begins with another digit is read to its end. -/
theorem number_of_digits
    {c : Char}
    {more rest : List Char}
    {n : Nat}
    (hDigit : c.isDigit = true)
    (hNotZero : c ≠ '0')
    (hRead : digits (c :: more ++ rest) = .ok (c :: more, rest))
    (hAbsorb : absorb 0 (c :: more) = (n, (c :: more).length))
    (hEnds : Ends rest) :
    number (c :: more ++ rest) =
        afterInteger.whole false n 0 rest ∧
      number ('-' :: c :: more ++ rest) =
        afterInteger.whole true n 0 rest := by
  have hNoSign : (some c == some '-') = false := by
    rw [Option.some_beq_some, beq_eq_false_iff_ne]
    exact ne_of_isDigit hDigit rfl
  have hSign : (some '-' == some '-') = true := rfl
  rw [List.cons_append] at hRead
  constructor
  · rw [number, bind_get, List.cons_append]
    simp only [List.head?_cons, hNoSign, Bool.false_eq_true,
      if_false]
    rw [bind_get]
    simp only [hDigit, if_true]
    rw [bind_of_ok hRead]
    simp only [hAbsorb, Nat.sub_self]
    exact afterInteger_of_ends hEnds false n
  · rw [number, bind_get, List.cons_append, List.cons_append]
    simp only [List.head?_cons, hSign, if_true]
    have hSkip :
        skip ('-' :: c :: (more ++ rest)) =
          .ok ((), c :: (more ++ rest)) := rfl
    rw [bind_of_ok hSkip, bind_get]
    simp only [hDigit, if_true]
    rw [bind_of_ok hRead]
    simp only [hAbsorb, Nat.sub_self]
    exact afterInteger_of_ends hEnds true n

/- The digits of a number are read up to its end. -/
theorem digits_toDigits
    {rest : List Char}
    (hEnds : Ends rest)
    (n : Nat) :
    digits (Nat.toDigits 10 n ++ rest) =
      .ok (Nat.toDigits 10 n, rest) := by
  have hDigits :
      ∀ c ∈ Nat.toDigits 10 n, c.isDigit = true :=
    fun _ => Nat.isDigit_of_mem_toDigits (by decide) (by decide)
  have hRest :
      rest.takeWhile Char.isDigit = [] ∧
        rest.dropWhile Char.isDigit = rest := by
    cases rest with
    | nil => exact ⟨rfl, rfl⟩
    | cons c rest => simp [hEnds.head.1]
  unfold digits
  rw [List.takeWhile_append_of_pos hDigits,
    List.dropWhile_append_of_pos hDigits, hRest.1, hRest.2,
    List.append_nil]

/- A number of sixty-four bits is read up to its end. -/
theorem number_toDigits
    {n : Nat}
    (hPos : 0 < n)
    (hFits : n < Nat.pow 2 64)
    {rest : List Char}
    (hEnds : Ends rest) :
    number (Nat.toDigits 10 n ++ rest) =
        afterInteger.whole false n 0 rest ∧
      number ('-' :: Nat.toDigits 10 n ++ rest) =
        afterInteger.whole true n 0 rest := by
  have hHead := head_toDigits_ne_zero hPos
  have hRead := digits_toDigits hEnds n
  have hAbsorb :
      absorb 0 (Nat.toDigits 10 n) =
        (n, (Nat.toDigits 10 n).length) := by
    have hValue : Nat.ofDigitChars 10 (Nat.toDigits 10 n) 0 = n :=
      Nat.ofDigitChars_ten_toDigits
    have hAll :=
      absorb_eq (Nat.toDigits 10 n) 0
        (by rw [hValue]; exact hFits)
    rw [hValue] at hAll
    exact hAll
  have hDigits :
      ∀ c ∈ Nat.toDigits 10 n, c.isDigit = true :=
    fun _ => Nat.isDigit_of_mem_toDigits (by decide) (by decide)
  cases hText : Nat.toDigits 10 n with
  | nil => exact absurd hText Nat.toDigits_ne_nil
  | cons c more =>
      rw [hText] at hHead hRead hAbsorb hDigits
      refine number_of_digits (hDigits c List.mem_cons_self) ?_
        hRead hAbsorb hEnds
      intro hEq
      exact hHead (congrArg some hEq)

/- The integers that a number can be without being a double. -/
structure Whole
    (value : Int) : Prop where
  least : -Int.pow 2 63 ≤ value
  most : value < Int.pow 2 64

/- The digits of an integer, after its sign. -/
theorem toList_text_integer
    (value : Int) :
    (Number.text (.integer value)).toList =
      if value < 0 then
        '-' :: Nat.toDigits 10 value.natAbs
      else
        Nat.toDigits 10 value.natAbs := by
  cases value with
  | ofNat n =>
      have hNatural : ¬ Int.ofNat n < 0 :=
        Int.not_lt.mpr (Int.natCast_nonneg n)
      rw [if_neg hNatural]
      exact Nat.toList_repr
  | negSucc n =>
      rw [if_pos (Int.negSucc_lt_zero n)]
      have hText :
          Number.text (.integer (.negSucc n)) =
            "-" ++ (n + 1).repr := rfl
      rw [hText, String.toList_append, Nat.toList_repr]
      rfl

/- An integer is read back from its text. -/
theorem number_text
    {value : Int}
    (hWhole : Whole value)
    {rest : List Char}
    (hEnds : Ends rest) :
    number ((Number.text (.integer value)).toList ++ rest) =
      .ok (.integer value, rest) := by
  rcases hWhole with ⟨hLeast, hMost⟩
  have hPowers :
      Int.pow 2 63 = 9223372036854775808 ∧
        Int.pow 2 64 = 18446744073709551616 ∧
          Nat.pow 2 63 = 9223372036854775808 ∧
            Nat.pow 2 64 = 18446744073709551616 := by
    decide
  have hFits : value.natAbs < Nat.pow 2 64 := by
    omega
  rw [toList_text_integer]
  split
  case isTrue hNegative =>
    have hRead :=
      (number_toDigits (by omega) hFits hEnds).2
    have hNotZero : (value.natAbs == 0) = false :=
      beq_eq_false_iff_ne.mpr (by omega)
    have hSmall : ¬ Nat.pow 2 63 < value.natAbs := by
      omega
    have hValue : -(value.natAbs : Int) = value := by
      omega
    rw [hRead, afterInteger.whole, hNotZero]
    simp only [hSmall, hValue, decide_false, Bool.or_false]
    rfl
  case isFalse hNatural =>
    by_cases hZero : value = 0
    · rw [hZero]
      exact number_zero hEnds
    · have hRead :=
        (number_toDigits (by omega) hFits hEnds).1
      have hValue : (value.natAbs : Int) = value := by
        omega
      rw [hRead, afterInteger.whole, hValue]
      rfl

end Reader

end Questionnaire
