import Questionnaire.Double.Nearest
import Questionnaire.Json.Fault

/-
  Reading the smallest parts of a JSON text: blanks, words,
  numbers and strings.

  Key definitions include:
    * `Reader`
    * `Reader.loop`
    * `Reader.word`
    * `Reader.number`
    * `Reader.string`

  A reader takes what is left of a text and gives a result with
  what is then left, or the fault that it met.
-/

------------------------------------------------------------
-- Readers
------------------------------------------------------------

namespace Questionnaire

/- A step through a text that may meet a fault. -/
abbrev Reader (α : Type) : Type :=
  StateT (List Char) (Except Fault) α

namespace Reader

variable {α σ : Type}

/- Stop before the rest of the text. -/
def failHere
    (cause : Cause) : Reader α :=
  fun text => .error (.here cause text)

/- Stop after the next byte of the text. -/
def failNext
    (cause : Cause) : Reader α :=
  fun text => .error (.next cause text)

/-
  Repeat a step until it has a result, at most once for each
  character of a text.
-/
def loopAlong
    (step : σ → Reader (σ ⊕ α)) : List Char → σ → Reader α
  | [], _ => failHere .trailingText
  | _ :: rounds, state => do
      match ← step state with
      | .inl next => loopAlong step rounds next
      | .inr result => pure result

/-
  Repeat a step until it has a result.  A step that goes on has
  read at least one character, so one round for each character
  that is left, and one more, suffice.
-/
def loop
    (step : σ → Reader (σ ⊕ α))
    (state : σ) : Reader α :=
  fun text => loopAlong step (' ' :: text) state text

end Reader

end Questionnaire

------------------------------------------------------------
-- Blanks and Words
------------------------------------------------------------

namespace Questionnaire

namespace Reader

/- The four characters that may stand between tokens. -/
def isBlank
    (c : Char) : Bool :=
  c == ' ' || c == '\t' || c == '\n' || c == '\r'

/- Pass over blanks and look at the next character. -/
def peek : Reader (Option Char) :=
  fun text =>
    let rest := text.dropWhile isBlank
    .ok (rest.head?, rest)

/- Pass over the next character. -/
def skip : Reader Unit :=
  fun text => .ok ((), text.drop 1)

/- Read the letters of a word. -/
def word : List Char → Reader Unit
  | [] => pure ()
  | letter :: letters => fun text =>
      match text with
      | [] => .error (.here .endInValue text)
      | c :: rest =>
          if c == letter then
            word letters rest
          else
            .error (.next .wordBroken text)

end Reader

end Questionnaire

------------------------------------------------------------
-- Digits
------------------------------------------------------------

namespace Questionnaire

namespace Reader

/- Read the digits up to the next character that is none. -/
def digits : Reader (List Char) :=
  fun text =>
    .ok (text.takeWhile Char.isDigit, text.dropWhile Char.isDigit)

/- The digit that a character is. -/
def digitValue
    (c : Char) : Nat :=
  c.toNat - '0'.toNat

/-
  Add digits to a significand while it fits into sixty-four
  bits, and count those that were added.
-/
def absorb
    (significand : Nat) : List Char → Nat × Nat
  | [] => (significand, 0)
  | c :: rest =>
      let next := significand * 10 + digitValue c
      if next < Nat.pow 2 64 then
        let (total, count) := absorb next rest
        (total, count + 1)
      else
        (significand, 0)

end Reader

end Questionnaire

------------------------------------------------------------
-- Numbers
------------------------------------------------------------

namespace Questionnaire

namespace Reader

/- The double nearest to ten to a power. -/
def powerOfTen
    (n : Nat) : Float :=
  (Magnitude.nearest (Nat.pow 10 n)).toFloat

/-
  Scale a double by a power of ten, downwards in steps of at
  most 308 and upwards in one; there is none when the result is
  too large.
-/
def scale
    (x : Float)
    (power : Int) : Option Float :=
  if 0 ≤ power then
    if power ≤ 308 then
      let y := x * powerOfTen power.toNat
      if y.isInf then none else some y
    else if x == 0 then
      some x
    else
      none
  else if -308 ≤ power then
    some (x / powerOfTen (-power).toNat)
  else if x == 0 then
    some x
  else
    scale (x / powerOfTen 308) (power + 308)
termination_by power.natAbs

/- A double from a significand and a power of ten. -/
def double
    (isNegative : Bool)
    (significand : Nat)
    (power : Int) : Reader Number :=
  match scale (Magnitude.nearest significand).toFloat power with
  | some x => pure (.double (if isNegative then -x else x).toBits)
  | none => failHere .numberTooLarge

/- A double that is zero. -/
def zero
    (isNegative : Bool) : Number :=
  .double (if isNegative then 0x8000000000000000 else 0)

/-
  Read the digits of an exponent, after the first one, up to
  the largest exponent of thirty-two bits.  Beyond that it is
  known whether the number is zero or too large.
-/
def exponentDigits
    (power : Nat) : Reader (Option Nat) :=
  fun text =>
    match text with
    | [] => .ok (some power, [])
    | c :: rest =>
        if c.isDigit then
          let next := power * 10 + digitValue c
          if next < Nat.pow 2 31 then
            exponentDigits next rest
          else
            .ok (none, rest)
        else
          .ok (some power, text)

/- Read what follows the letter of an exponent. -/
def exponent
    (isNegative : Bool)
    (significand : Nat)
    (power : Int) : Reader Number := do
  let text ← get
  let isDown := text.head? == some '-'
  if text.head? == some '+' || text.head? == some '-' then
    skip
  match ← get with
  | [] => failHere .endInValue
  | c :: rest =>
      if !c.isDigit then
        failNext .badNumber
      else
        set rest
        match ← exponentDigits (digitValue c) with
        | some n =>
            double isNegative significand
              (if isDown then power - n else power + n)
        | none =>
            if significand != 0 && !isDown then
              failHere .numberTooLarge
            else
              let _ ← digits
              pure (zero isNegative)

/- Read what follows the decimal point of a number. -/
def fraction
    (isNegative : Bool)
    (significand : Nat)
    (power : Int) : Reader Number := do
  let places ← digits
  let (total, count) := absorb significand places
  match places, ← get with
  | [], [] => failNext .endInValue
  | [], _ => failNext .badNumber
  | _, c :: rest =>
      if c == 'e' || c == 'E' then
        set rest
        exponent isNegative total (power - count)
      else
        double isNegative total (power - count)
  | _, [] => double isNegative total (power - count)

/-
  The number whose integer digits were read.  Digits that did
  not fit make it a double; so does the sign of zero, and a
  negative number below sixty-four bits.
-/
def afterInteger
    (isNegative : Bool)
    (significand : Nat)
    (dropped : Nat) : Reader Number := do
  match ← get with
  | '.' :: rest =>
      set rest
      fraction isNegative significand dropped
  | c :: rest =>
      if c == 'e' || c == 'E' then
        set rest
        exponent isNegative significand dropped
      else
        whole
  | [] => whole
where
  whole : Reader Number :=
    if dropped != 0 then
      double isNegative significand dropped
    else if !isNegative then
      pure (.integer significand)
    else if significand == 0 || Nat.pow 2 63 < significand then
      double true significand 0
    else
      pure (.integer (-significand))

/- Read a number that begins here. -/
def number : Reader Number := do
  let isNegative := (← get).head? == some '-'
  if isNegative then
    skip
  match ← get with
  | [] => failHere .endInValue
  | '0' :: rest =>
      match rest with
      | c :: _ =>
          set rest
          if c.isDigit then
            failNext .badNumber
          else
            afterInteger isNegative 0 0
      | [] =>
          set rest
          afterInteger isNegative 0 0
  | c :: _ =>
      if c.isDigit then
        let whole ← digits
        let (significand, count) := absorb 0 whole
        afterInteger isNegative significand (whole.length - count)
      else
        failNext .badNumber

end Reader

end Questionnaire

------------------------------------------------------------
-- Strings
------------------------------------------------------------

namespace Questionnaire

namespace Reader

/- The value of a hexadecimal digit. -/
def hexValue?
    (c : Char) : Option Nat :=
  if c.isDigit then
    some (c.toNat - '0'.toNat)
  else if 'a' ≤ c && c ≤ 'f' then
    some (c.toNat - 'a'.toNat + 10)
  else if 'A' ≤ c && c ≤ 'F' then
    some (c.toNat - 'A'.toNat + 10)
  else
    none

/- The number that four hexadecimal digits spell. -/
def hexNumber?
    (a b c d : Char) : Option Nat := do
  let a ← hexValue? a
  let b ← hexValue? b
  let c ← hexValue? c
  let d ← hexValue? d
  return ((a * 16 + b) * 16 + c) * 16 + d

/-
  The fault of a text that begins with no four digits.  It
  comes after the four bytes, or at the end of a shorter text.
-/
def hexFault
    (text : List Char) : Fault :=
  if byteLength text < 4 then
    ⟨.endInString, 0⟩
  else
    ⟨.badEscape, byteLength text - 4⟩

/- Read four hexadecimal digits. -/
def hexUnit : Reader Nat :=
  fun text =>
    match text with
    | a :: b :: c :: d :: rest =>
        match hexNumber? a b c d with
        | some n => .ok (n, rest)
        | none => .error (hexFault text)
    | _ => .error (hexFault text)

/- Read one character that has to be the given one. -/
def pairMark
    (mark : Char) : Reader Unit :=
  fun text =>
    match text with
    | [] => .error (.here .endInString text)
    | c :: rest =>
        if c == mark then
          .ok ((), rest)
        else
          .error (.next .halfPairOpen text)

/-
  Read the digits of an escaped character.  A character above
  the first plane is spelled by a pair of escapes.
-/
def spelledChar : Reader Char := do
  let high ← hexUnit
  if 0xDC00 ≤ high && high ≤ 0xDFFF then
    failHere .halfPairAlone
  else if high < 0xD800 || 0xDBFF < high then
    pure (Char.ofNat high)
  else
    pairMark '\\'
    pairMark 'u'
    let low ← hexUnit
    if low < 0xDC00 || 0xDFFF < low then
      failHere .halfPairAlone
    else
      pure (Char.ofNat
        ((high - 0xD800) * 0x400 + (low - 0xDC00) + 0x10000))

/- The characters that a backslash and a letter stand for. -/
def escapes : List (Char × Char) :=
  [('"', '"'), ('\\', '\\'), ('/', '/'), ('b', '\x08'),
    ('f', '\x0c'), ('n', '\n'), ('r', '\r'), ('t', '\t')]

/- Read what follows a backslash. -/
def escapedChar : Reader Char := do
  match ← get with
  | [] => failHere .endInString
  | c :: rest =>
      match escapes.lookup c with
      | some meant =>
          set rest
          pure meant
      | none =>
          if c == 'u' then
            set rest
            spelledChar
          else
            failNext .badEscape

/- Read one character of a string, or the quote that ends it. -/
def stringStep
    (sofar : List Char) : Reader (List Char ⊕ String) := do
  match ← get with
  | [] => failHere .endInString
  | '"' :: rest =>
      set rest
      pure (.inr (String.ofList sofar.reverse))
  | '\\' :: rest =>
      set rest
      let c ← escapedChar
      pure (.inl (c :: sofar))
  | c :: rest =>
      if c.toNat < 0x20 then
        failNext .controlCharacter
      else
        set rest
        pure (.inl (c :: sofar))

/- Read a string, after the quote that opens it. -/
def string : Reader String :=
  loop stringStep []

end Reader

end Questionnaire
