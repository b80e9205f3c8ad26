import Mathlib
import Questionnaire.Proofs.Json.CarryOver

/-
  A JSON text keeps its value inside a script element.

  An unsafe character can only be part of a string, where its
  spelling is read as the character; anywhere else it ends the
  token before it, or is refused (`Survives`).  What comes
  before it in a string does not matter, as a backslash takes
  the next character or digits, which are safe.
-/

------------------------------------------------------------
-- Words and Digits
------------------------------------------------------------

namespace Questionnaire

namespace Reader

open Json

/- A word is of safe letters, so it stands where it stood. -/
theorem survives_word
    {letters : List Char}
    (hSafe : letters.all (fun letter => !isUnsafe letter) = true) :
    Survives (word letters) := by
  induction letters with
  | nil =>
      intro text
      exact .pure ()
  | cons letter letters ih =>
      rw [List.all_cons, Bool.and_eq_true, Bool.not_eq_true'] at hSafe
      rcases hSafe with ⟨hLetter, hLetters⟩
      intro text
      cases text with
      | nil => exact .of_error rfl
      | cons c rest =>
          by_cases hEq : c = letter
          · subst c
            intro result more hRead
            have hWord (rest : List Char) :
                word (letter :: letters) (letter :: rest) =
                  word letters rest := by
              simp [word]
            rw [hWord] at hRead
            rw [embed_cons_of_safe hLetter, hWord]
            exact ih hLetters rest result more hRead
          · have hBroken :
                word (letter :: letters) (c :: rest) =
                  .error (.next .wordBroken (c :: rest)) := by
              simp [word, hEq]
            exact .of_error hBroken

theorem survives_digits :
    Survives digits := by
  intro text result rest hRead
  cases hRead
  rcases sorts_isDigit.span_embed text with ⟨hDigits, hLeft⟩
  rw [digits, hDigits, hLeft]

/- Digits of an exponent end, or get too many, where they did. -/
theorem survives_exponentDigits
    (power : Nat) :
    Survives (exponentDigits power) := by
  intro text
  induction text generalizing power with
  | nil =>
      intro result rest hRead
      cases hRead
      rfl
  | cons c text ih =>
      intro result rest hRead
      unfold exponentDigits at hRead ⊢
      cases hUnsafe : isUnsafe c with
      | true =>
          have hNoDigit := sorts_isDigit.safe c hUnsafe
          simp only [hNoDigit] at hRead
          cases hRead
          rw [embed_cons_of_isUnsafe hUnsafe]
          rfl
      | false =>
          rw [embed_cons_of_safe hUnsafe]
          simp only at hRead ⊢
          split at hRead
          case isFalse hNoDigit =>
            cases hRead
            rw [if_neg hNoDigit, embed_cons_of_safe hUnsafe]
          case isTrue hDigit =>
            rw [if_pos hDigit]
            split at hRead
            case isTrue hFits =>
              rw [if_pos hFits]
              exact ih _ result rest hRead
            case isFalse hLarge =>
              cases hRead
              rw [if_neg hLarge]

end Reader

end Questionnaire

------------------------------------------------------------
-- Numbers
------------------------------------------------------------

namespace Questionnaire

namespace Reader

open Json

/- A double is worked out from digits that were read. -/
theorem survives_double
    (isNegative : Bool)
    (significand : Nat)
    (power : Int) :
    Survives (double isNegative significand power) := by
  intro text
  unfold double
  split
  · exact .pure _
  · exact .of_error rfl

/- No unsafe character begins an exponent. -/
theorem not_exponent_of_isUnsafe
    {c : Char}
    (hUnsafe : isUnsafe c = true) :
    (c == 'e' || c == 'E') = false := by
  rw [Bool.or_eq_false_iff, beq_eq_false_iff_ne, beq_eq_false_iff_ne]
  exact ⟨ne_of_isUnsafe hUnsafe rfl, ne_of_isUnsafe hUnsafe rfl⟩

/- A sign is there as before. -/
theorem head?_embed_eq
    {sign : Char}
    (hSafe : isUnsafe sign = false)
    (hBackslash : sign ≠ '\\')
    (text : List Char) :
    ((embed text).head? == some sign) =
      (text.head? == some sign) := by
  have hSorts : Sorts (fun c => c == sign) :=
    ⟨fun _ hUnsafe =>
        beq_eq_false_iff_ne.mpr (ne_of_isUnsafe hUnsafe hSafe),
      beq_eq_false_iff_ne.mpr hBackslash.symm⟩
  have hAny (seen : Option Char) :
      (seen == some sign) = seen.any (fun c => c == sign) := by
    cases seen with
    | none => rfl
    | some c => rfl
  rw [hAny, hAny, hSorts.any_head?_embed]

/- A sign is passed over if there is one. -/
theorem CarriesOver.sign
    {α : Type}
    {next : Unit → Reader α}
    {text : List Char}
    {isSigned : Bool}
    (hSigned :
      isSigned = true →
        ∃ c rest, text = c :: rest ∧ isUnsafe c = false)
    (hNext : Survives (next ())) :
    CarriesOver text
      (if isSigned then Reader.skip >>= next else next ())
      (if isSigned then Reader.skip >>= next else next ()) := by
  split
  case isFalse => exact hNext text
  case isTrue hSign =>
    rcases hSigned hSign with ⟨c, rest, hText, hSafe⟩
    rw [hText]
    apply CarriesOver.past hSafe
    exact hNext rest

/- No unsafe character is the sign or a digit of an exponent. -/
theorem survives_exponent
    (isNegative : Bool)
    (significand : Nat)
    (power : Int) :
    Survives (exponent isNegative significand power) := by
  intro text
  unfold exponent
  apply CarriesOver.get
  rw [head?_embed_eq rfl (by decide), head?_embed_eq rfl (by decide)]
  apply CarriesOver.sign
  · intro hSign
    simp only [Bool.or_eq_true, beq_iff_eq,
      List.head?_eq_some_iff] at hSign
    rcases hSign with ⟨rest, hText⟩ | ⟨rest, hText⟩
    · exact ⟨'+', rest, hText, rfl⟩
    · exact ⟨'-', rest, hText, rfl⟩
  · intro text
    apply CarriesOver.look
    · exact .of_error rfl
    · intro c rest _
      simp only
      split
      · exact .of_error rfl
      · apply CarriesOver.set
        apply CarriesOver.bind (survives_exponentDigits _ rest)
        intro digits more
        cases digits with
        | some n => exact survives_double _ _ _ more
        | none =>
            simp only
            split
            · exact .of_error rfl
            · exact .map (survives_digits more)
    · intro c rest hUnsafe
      simp only [sorts_isDigit.safe c hUnsafe]
      exact .of_error rfl

/- Places are followed by an exponent, or end the number. -/
theorem survives_fraction
    (isNegative : Bool)
    (significand : Nat)
    (power : Int) :
    Survives (fraction isNegative significand power) := by
  intro text
  unfold fraction
  apply CarriesOver.bind (survives_digits text)
  intro places rest
  cases places with
  | nil =>
      apply CarriesOver.look
      · exact .of_error rfl
      · intro _ _ _
        exact .of_error rfl
      · intro _ _ _
        exact .of_error rfl
  | cons place places =>
      apply CarriesOver.look
      · exact survives_double _ _ _ []
      · intro c rest _
        simp only
        split
        · apply CarriesOver.set
          exact survives_exponent _ _ _ rest
        · exact survives_double _ _ _ (c :: rest)
      · intro c rest hUnsafe
        simp only [not_exponent_of_isUnsafe hUnsafe]
        exact survives_double _ _ _ (c :: rest)

/- An integer is worked out from digits that were read, too. -/
theorem survives_whole
    (isNegative : Bool)
    (significand dropped : Nat) :
    Survives (afterInteger.whole isNegative significand dropped) := by
  intro text
  unfold afterInteger.whole
  split
  · exact survives_double _ _ _ text
  · split
    · exact .pure _
    · split
      · exact survives_double _ _ _ text
      · exact .pure _

/- A point and an exponent are safe; the rest ends a number. -/
theorem survives_afterInteger
    (isNegative : Bool)
    (significand dropped : Nat) :
    Survives (afterInteger isNegative significand dropped) := by
  intro text
  unfold afterInteger
  apply CarriesOver.look
  · exact survives_whole _ _ _ []
  · intro c rest _
    by_cases hPoint : c = '.'
    · subst c
      apply CarriesOver.set
      exact survives_fraction _ _ _ rest
    · simp only
      split
      · apply CarriesOver.set
        exact survives_exponent _ _ _ rest
      · exact survives_whole _ _ _ (c :: rest)
  · intro c rest hUnsafe
    have hPoint : c ≠ '.' := ne_of_isUnsafe hUnsafe rfl
    simp only [not_exponent_of_isUnsafe hUnsafe]
    exact survives_whole _ _ _ (c :: rest)

/- Read what follows a zero that comes first. -/
def afterZero
    (isNegative : Bool)
    (rest : List Char) : Reader Number := do
  set rest
  if rest.head?.any Char.isDigit then
    failNext .badNumber
  else
    afterInteger isNegative 0 0

/- The branches of a number that begins with zero are these. -/
theorem afterZero_eq
    (isNegative : Bool)
    (rest : List Char) :
    (match rest with
      | c :: _ => do
          set rest
          if c.isDigit then
            failNext .badNumber
          else
            afterInteger isNegative 0 0
      | [] => do
          set rest
          afterInteger isNegative 0 0) =
      afterZero isNegative rest := by
  cases rest with
  | nil => rfl
  | cons c rest => rfl

/- The text behind a zero begins with a digit if it did before. -/
theorem carriesOver_afterZero
    (isNegative : Bool)
    (text rest : List Char) :
    CarriesOver text (afterZero isNegative rest)
      (afterZero isNegative (embed rest)) := by
  unfold afterZero
  rw [sorts_isDigit.any_head?_embed]
  apply CarriesOver.set
  split
  · exact .of_error rfl
  · exact survives_afterInteger _ _ _ rest

/-
  A number ends before an unsafe character, and before the
  backslash of its spelling just as well.
-/
theorem survives_number :
    Survives number := by
  intro text
  unfold number
  apply CarriesOver.get
  rw [head?_embed_eq rfl (by decide)]
  apply CarriesOver.sign
  · intro hSign
    rw [beq_iff_eq] at hSign
    rcases List.head?_eq_some_iff.mp hSign with ⟨rest, hText⟩
    exact ⟨'-', rest, hText, rfl⟩
  · intro more
    apply CarriesOver.look
    · exact .of_error rfl
    · intro c rest _
      by_cases hZero : c = '0'
      · subst c
        have hAfter :=
          carriesOver_afterZero (text.head? == some '-')
            ('0' :: rest) rest
        rw [← afterZero_eq, ← afterZero_eq] at hAfter
        exact hAfter
      · simp only
        split
        · apply CarriesOver.bind (survives_digits _)
          intro whole left
          exact survives_afterInteger _ _ _ left
        · exact .of_error rfl
    · intro c rest hUnsafe
      have hZero : c ≠ '0' := ne_of_isUnsafe hUnsafe rfl
      simp only [sorts_isDigit.safe c hUnsafe]
      exact .of_error rfl

end Reader

end Questionnaire

------------------------------------------------------------
-- Strings
------------------------------------------------------------

namespace Questionnaire

namespace Reader

open Json

/- No unsafe character is a hexadecimal digit. -/
theorem safe_of_hexValue?
    {c : Char}
    {n : Nat}
    (hValue : hexValue? c = some n) :
    isUnsafe c = false := by
  cases hUnsafe : isUnsafe c with
  | false => rfl
  | true =>
      have hNone : hexValue? c = none := by
        apply of_isUnsafe hUnsafe
        exact ⟨rfl, rfl, rfl, rfl, rfl⟩
      rw [hNone] at hValue
      nomatch hValue

/- Four digits are taken at a time, and all of them are safe. -/
theorem survives_hexUnit :
    Survives hexUnit := by
  intro text result more hRead
  unfold hexUnit at hRead
  split at hRead
  case h_2 => nomatch hRead
  case h_1 a b c d rest =>
    cases hNumber : hexNumber? a b c d with
    | none =>
        simp only [hNumber] at hRead
        nomatch hRead
    | some n =>
        simp only [hNumber] at hRead
        cases hRead
        simp only [hexNumber?, Option.bind_eq_bind,
          Option.bind_eq_some_iff] at hNumber
        rcases hNumber with ⟨_, hA, _, hB, _, hC, _, hD, hSum⟩
        rw [embed_cons_of_safe (safe_of_hexValue? hA),
          embed_cons_of_safe (safe_of_hexValue? hB),
          embed_cons_of_safe (safe_of_hexValue? hC),
          embed_cons_of_safe (safe_of_hexValue? hD)]
        simp only [hexUnit, hexNumber?, hA, hB, hC, hD,
          Option.bind_eq_bind, Option.bind_some, hSum]

theorem survives_pairMark
    {mark : Char}
    (hSafe : isUnsafe mark = false) :
    Survives (pairMark mark) := by
  intro text
  cases text with
  | nil => exact .of_error rfl
  | cons c rest =>
      by_cases hEq : c = mark
      · subst c
        have hMark (rest : List Char) :
            pairMark mark (mark :: rest) = .ok ((), rest) := by
          simp [pairMark]
        intro result more hRead
        rw [hMark] at hRead
        cases hRead
        rw [embed_cons_of_safe hSafe]
        exact hMark (embed rest)
      · have hOpen :
            pairMark mark (c :: rest) =
              .error (.next .halfPairOpen (c :: rest)) := by
          simp [pairMark, hEq]
        exact .of_error hOpen

/- So a character that was spelled before is left alone. -/
theorem survives_spelledChar :
    Survives spelledChar := by
  intro text
  unfold spelledChar
  apply CarriesOver.bind (survives_hexUnit text)
  intro high rest
  split
  · exact .of_error rfl
  · split
    · exact .pure _
    · apply CarriesOver.bind (survives_pairMark rfl rest)
      intro _ rest
      apply CarriesOver.bind (survives_pairMark rfl rest)
      intro _ rest
      apply CarriesOver.bind (survives_hexUnit rest)
      intro low rest
      split
      · exact .of_error rfl
      · exact .pure _

/- What a backslash takes is safe, whatever comes after it. -/
theorem survives_escapedChar :
    Survives Reader.escapedChar := by
  intro text
  unfold Reader.escapedChar
  apply CarriesOver.look
  · exact .of_error rfl
  · intro c rest _
    simp only
    split
    · apply CarriesOver.set
      exact .pure _
    · split
      · apply CarriesOver.set
        exact survives_spelledChar rest
      · exact .of_error rfl
  · intro c rest hUnsafe
    have hUnknown : escapes.lookup c = none := by
      apply of_isUnsafe hUnsafe
      exact ⟨rfl, rfl, rfl, rfl, rfl⟩
    have hLetter : (c == 'u') = false := by
      apply of_isUnsafe hUnsafe
      exact ⟨rfl, rfl, rfl, rfl, rfl⟩
    simp only [hUnknown, hLetter]
    exact .of_error rfl

/- In a string an unsafe character is read from its spelling. -/
theorem survives_stringStep
    (sofar : List Char) :
    Survives (stringStep sofar) := by
  intro text
  apply CarriesOver.look
  · exact .of_error rfl
  · intro c rest _
    by_cases hQuote : c = '"'
    · subst c
      apply CarriesOver.set
      exact .pure _
    · by_cases hBackslash : c = '\\'
      · subst c
        apply CarriesOver.set
        exact .map (survives_escapedChar rest)
      · simp only
        split
        · exact .of_error rfl
        · apply CarriesOver.set
          exact .pure _
  · -- The character and its spelling are read as the same one.
    intro c rest hUnsafe result more hRead
    rcases escapedChar_of_unsafe hUnsafe with
      ⟨_, hQuote, hBackslash, hControl, hPlane⟩
    have hSelf :=
      (readsChar_self hQuote hBackslash hControl).reads sofar rest
    have hSpelled :=
      (readsChar_spelled hPlane).reads sofar (embed rest)
    have hResult := hSelf.symm.trans hRead
    cases hResult
    rw [embed_cons_of_isUnsafe hUnsafe]
    exact hSpelled

/- A string is read as the characters that it had. -/
theorem survives_string :
    Survives string :=
  Survives.loop survives_stringStep []

end Reader

end Questionnaire

------------------------------------------------------------
-- Lists and Objects
------------------------------------------------------------

namespace Questionnaire

namespace Reader

open Json

variable {α : Type}

/- Brackets and commas are safe, so items are told as before. -/
theorem survives_nextItem
    (isFirst : Bool) :
    Survives (nextItem isFirst) := by
  intro text
  unfold nextItem
  apply CarriesOver.peek
  · exact .of_error rfl
  · intro c rest hSafe
    split
    · exact .of_error rfl
    · apply CarriesOver.past hSafe
      exact .pure _
    · split
      · exact .pure _
      · split
        · apply CarriesOver.past hSafe
          apply CarriesOver.peek
          · exact .of_error rfl
          · intro c rest _
            split
            · exact .of_error rfl
            · exact .of_error rfl
            · exact .pure _
          · intro c rest hUnsafe
            have hBracket : c ≠ ']' := ne_of_isUnsafe hUnsafe rfl
            simp only
            exact .pure _
        · exact .of_error rfl
  · -- The first item is left to its own reader.
    intro c rest hUnsafe
    have hBracket : c ≠ ']' := ne_of_isUnsafe hUnsafe rfl
    have hComma : (c == ',') = false := by
      apply of_isUnsafe hUnsafe
      exact ⟨rfl, rfl, rfl, rfl, rfl⟩
    simp only [hComma]
    split
    · exact .pure _
    · exact .of_error rfl

/- A list keeps its items if its readers of items carry over. -/
theorem Survives.listItems
    {item : Reader α}
    (hItem : Survives item) :
    Survives (Reader.listItems item) := by
  apply Survives.loop
  intro sofar text
  apply CarriesOver.bind (survives_nextItem _ text)
  intro hasNext rest
  split
  · exact .map (hItem rest)
  · exact .pure _

theorem carriesOver_key
    {c : Char}
    (hSafe : isUnsafe c = false)
    (rest : List Char) :
    CarriesOver (c :: rest) (nextKey.key c) (nextKey.key c) := by
  unfold nextKey.key
  split
  · apply CarriesOver.past hSafe
    exact .map (survives_string rest)
  · exact .of_error rfl

/- Only a quote begins a key, and a quote is safe. -/
theorem survives_nextKey
    (isFirst : Bool) :
    Survives (nextKey isFirst) := by
  intro text
  unfold nextKey
  apply CarriesOver.peek_refusing
    (if isFirst then .keyWanted else .objectSeparatorWanted)
  · exact .of_error rfl
  · intro c rest hSafe
    split
    · exact .of_error rfl
    · apply CarriesOver.past hSafe
      exact .pure _
    case h_3 d _ hEq =>
      cases hEq
      split
      · exact carriesOver_key hSafe _
      · split
        · apply CarriesOver.past hSafe
          apply CarriesOver.peek_refusing .keyWanted
          · exact .of_error rfl
          · intro c rest hSafe
            split
            · exact .of_error rfl
            · exact .of_error rfl
            case h_3 d _ hEq =>
              cases hEq
              exact carriesOver_key hSafe _
          · intro c hUnsafe
            apply of_isUnsafe hUnsafe
            exact ⟨rfl, rfl, rfl, rfl, rfl⟩
        · exact .of_error rfl
  · intro c hUnsafe
    cases isFirst
    all_goals
      apply of_isUnsafe hUnsafe
      exact ⟨rfl, rfl, rfl, rfl, rfl⟩

theorem survives_colon :
    Survives colon := by
  intro text
  unfold colon
  apply CarriesOver.peek_refusing .colonWanted
  · exact .of_error rfl
  · intro c rest hSafe
    split
    · exact .of_error rfl
    · exact .skip hSafe
    · exact .of_error rfl
  · intro c hUnsafe
    apply of_isUnsafe hUnsafe
    exact ⟨rfl, rfl, rfl, rfl, rfl⟩

/- An object keeps its members if its values do. -/
theorem Survives.members
    {value : Reader Json}
    (hValue : Survives value) :
    Survives (Reader.members value) := by
  apply Survives.loop
  intro sofar text
  apply CarriesOver.bind (survives_nextKey _ text)
  intro key rest
  cases key with
  | none => exact .pure _
  | some name =>
      apply CarriesOver.bind (survives_colon rest)
      intro _ rest
      exact .map (hValue rest)

end Reader

end Questionnaire

------------------------------------------------------------
-- Values
------------------------------------------------------------

namespace Questionnaire

namespace Reader

open Json

/- One level of brackets, around what is read inside of it. -/
theorem survives_valueWith
    {inner : Option (Reader Json)}
    (hInner : ∀ value ∈ inner, Survives value) :
    Survives (valueWith inner) := by
  intro text
  unfold valueWith
  apply CarriesOver.peek_refusing .valueWanted
  · exact .of_error rfl
  · intro c rest hSafe
    split
    · exact .of_error rfl
    · exact .map (survives_word rfl _)
    · exact .map (survives_word rfl _)
    · exact .map (survives_word rfl _)
    · apply CarriesOver.past hSafe
      exact .map (survives_string rest)
    · split
      · exact .of_error rfl
      · apply CarriesOver.past hSafe
        exact .map ((hInner _ rfl).listItems rest)
    · split
      · exact .of_error rfl
      · apply CarriesOver.past hSafe
        exact (hInner _ rfl).members rest
    · split
      · exact .map (survives_number _)
      · exact .of_error rfl
  · intro c hUnsafe
    apply of_isUnsafe hUnsafe
    exact ⟨rfl, rfl, rfl, rfl, rfl⟩

/-
  No value changes when its text is embedded, however deep its
  brackets are nested.
-/
theorem survives_value
    (depth : Nat) :
    Survives (value depth) := by
  induction depth with
  | zero => exact survives_valueWith nofun
  | succ depth ih =>
      apply survives_valueWith
      intro inner hInner
      rw [← Option.some.inj hInner]
      exact ih

/- An unsafe character behind a value is refused like any other. -/
theorem Survives.wholly
    {α : Type}
    {reader : Reader α}
    (hReader : Survives reader) :
    Survives (Reader.wholly reader) := by
  intro text
  apply CarriesOver.bind (hReader text)
  intro result rest
  apply CarriesOver.peek_refusing .trailingText
  · exact .pure result
  · intro c rest _
    exact .of_error rfl
  · intro c _
    rfl

/- So a whole text has the value that it had. -/
theorem Survives.finish
    {α : Type}
    {reader : Reader α}
    (hReader : Survives reader)
    {text : String}
    {result : α}
    (hFinish : reader.finish text = .ok result) :
    reader.finish (embedded text) = .ok result := by
  unfold Reader.finish at hFinish ⊢
  rw [toList_embedded]
  split at hFinish
  case h_1 found rest hRead =>
    rw [hReader.wholly _ _ _ hRead]
    exact hFinish
  case h_2 => nomatch hFinish

end Reader

end Questionnaire

------------------------------------------------------------
-- Whole Texts
------------------------------------------------------------

namespace Questionnaire

namespace Json

/- No character is left that could end a script element. -/
theorem not_unsafe_of_mem_embedded
    {text : String}
    {c : Char}
    (hMem : c ∈ (embedded text).toList) :
    isUnsafe c = false := by
  rw [toList_embedded] at hMem
  exact not_unsafe_of_mem_embed hMem

/-
  Whatever the text, inside a script element it can neither end
  the element, nor begin another one, nor break a line, and to
  embed it again changes nothing.  If it spells a value, it
  still spells that value.
-/
theorem embedded_keeps_value
    (text : String) :
    (∀ c ∈ (embedded text).toList,
      c ∉ ['<', '>', '&', '\u2028', '\u2029']) ∧
    embedded (embedded text) = embedded text ∧
    ∀ value, parse text = .ok value →
      parse (embedded text) = .ok value := by
  refine ⟨?_, ?_, ?_⟩
  · intro c hMem
    have hSafe := not_unsafe_of_mem_embedded hMem
    simp only [isUnsafe, Bool.or_eq_false_iff,
      beq_eq_false_iff_ne] at hSafe
    rcases hSafe with ⟨⟨⟨⟨hLess, hGreater⟩, hAnd⟩, hLine⟩, hParagraph⟩
    simp [hLess, hGreater, hAnd, hLine, hParagraph]
  · apply String.toList_inj.mp
    rw [toList_embedded]
    apply embed_of_safe
    intro c hMem
    exact not_unsafe_of_mem_embedded hMem
  · intro value hParse
    exact (Reader.survives_value depthLimit).finish hParse

/- Unsafe characters in a key, after backslashes, and spelled. -/
def nested : String :=
  "\x7b\"<b>\": [\"\\\\<\", " ++
    "\x7b\"&\": \"\\u003C\u2028\"\x7d]\x7d"

/- The value that it spells. -/
def nestedValue : Json :=
  .object
    [("<b>",
      .array [.string "\\<", .object [("&", .string "<\u2028")]])]

theorem parse_nested :
    parse nested = .ok nestedValue := by
  cbv

theorem embedded_nested_keeps_value :
    embedded nested =
        "\x7b\"\\u003cb\\u003e\": [\"\\\\\\u003c\", " ++
          "\x7b\"\\u0026\": \"\\u003C\\u2028\"\x7d]\x7d" ∧
      parse nested = .ok nestedValue ∧
      parse (embedded nested) = .ok nestedValue := by
  refine ⟨by cbv, parse_nested, ?_⟩
  exact (embedded_keeps_value nested).2.2 nestedValue parse_nested

end Json

end Questionnaire
