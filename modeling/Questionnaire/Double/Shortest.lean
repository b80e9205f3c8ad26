/-
  The shortest decimal that reads back as a given double.

  Key definitions include:
    * `Double.Parts`
    * `Double.Decimal`
    * `Double.shortest`
    * `Double.text`

  A finite double is a significand times a power of two, and
  the reals nearer to it than to its neighbours form an
  interval.  The digits are those of the first decimal grid,
  from coarse to fine, with a point in that interval.
-/

------------------------------------------------------------
-- Parts of a Double
------------------------------------------------------------

namespace Questionnaire.Double

/- A finite double: `significand * 2 ^ exponent`, with a sign. -/
structure Parts where
  isNegative : Bool
  significand : Nat
  exponent : Int

/- The parts that the interchange form of a double encodes. -/
def Parts.ofBits
    (bits : UInt64) : Parts :=
  let n := bits.toNat
  let fraction := n % Nat.pow 2 52
  let biased := n / Nat.pow 2 52 % 2048
  { isNegative := n / Nat.pow 2 63 == 1
    significand :=
      if biased == 0 then fraction else Nat.pow 2 52 + fraction
    exponent := (max biased 1 : Nat) - 1075 }

end Questionnaire.Double

------------------------------------------------------------
-- Decimal Grids
------------------------------------------------------------

namespace Questionnaire.Double

/- The decimal `0.d₁d₂… * 10 ^ point` with the given digits. -/
structure Decimal where
  digits : List Char
  point : Int

/- A positive fraction of natural numbers. -/
structure Ratio where
  num : Nat
  den : Nat

/- The order of fractions, by crosswise products. -/
def Ratio.le
    (a b : Ratio) : Bool :=
  a.num * b.den ≤ b.num * a.den

/- A natural number times a power of ten. -/
def tenfold
    (n : Nat)
    (power : Int) : Ratio :=
  if 0 ≤ power then
    ⟨n * Nat.pow 10 power.toNat, 1⟩
  else
    ⟨n, Nat.pow 10 (-power).toNat⟩

/- A natural number times a power of two. -/
def twofold
    (n : Nat)
    (power : Int) : Ratio :=
  if 0 ≤ power then
    ⟨n * Nat.pow 2 power.toNat, 1⟩
  else
    ⟨n, Nat.pow 2 (-power).toNat⟩

/- The distance of two fractions. -/
def Ratio.distance
    (a b : Ratio) : Ratio :=
  let left := a.num * b.den
  let right := b.num * a.den
  ⟨(left - right) + (right - left), a.den * b.den⟩

/-
  The least power of ten above a fraction.  Doubles lie between
  the powers -324 and 309.
-/
def pointOf
    (value : Ratio) : Int :=
  let powers := (List.range 640).map (fun n : Nat => (n : Int) - 325)
  match powers.find? (fun p => !(tenfold 1 p).le value) with
  | some p => p
  | none => 310

/-
  The grid point with `count` digits nearest to the value, if
  one of its two neighbours on the grid lies within the bounds.
  From the middle the even one is taken.
-/
def onGrid
    (inside : Ratio → Bool)
    (value : Ratio)
    (point : Int)
    (count : Nat) : Option Nat :=
  let power := point - count
  let unit := tenfold 1 power
  let below := value.num * unit.den / (value.den * unit.num)
  let near (n : Nat) := inside (tenfold n power)
  let gap (n : Nat) := value.distance (tenfold n power)
  match near below, near (below + 1) with
  | true, true =>
      if !(gap (below + 1)).le (gap below) then
        some below
      else if !(gap below).le (gap (below + 1)) then
        some (below + 1)
      else
        some (below + below % 2)
  | true, false => some below
  | false, true => some (below + 1)
  | false, false => none

/- The digits of a grid point, without zeros at the end. -/
def decimalOf
    (point : Int)
    (count : Nat)
    (n : Nat) : Decimal :=
  let digits := Nat.toDigits 10 n
  { digits := (digits.reverse.dropWhile (fun c => c == '0')).reverse
    point := point + (digits.length - count : Int) }

/-
  The shortest decimal that reads back as a positive double,
  and of those the nearest.  The ends of the interval belong to
  it when the significand is even.
-/
def shortest
    (parts : Parts) : Decimal :=
  let m := parts.significand
  let quarter := parts.exponent - 2
  let value := twofold (4 * m) quarter
  let isLowest := m == Nat.pow 2 52 && -1074 < parts.exponent
  let lower := twofold (4 * m - (if isLowest then 1 else 2)) quarter
  let upper := twofold (4 * m + 2) quarter
  let inside (r : Ratio) :=
    if m % 2 == 0 then
      lower.le r && r.le upper
    else
      !r.le lower && !upper.le r
  let point := pointOf value
  let grids := (List.range 17).map (· + 1)
  match grids.findSome?
      (fun count => (onGrid inside value point count).map
        (decimalOf point count)) with
  | some decimal => decimal
  | none => decimalOf point 17 0

end Questionnaire.Double

------------------------------------------------------------
-- Text of a Double
------------------------------------------------------------

namespace Questionnaire.Double

/- Where the text of a double turns to an exponent. -/
structure Layout where
  least : Int
  bound : Int

/-
  From one hundred-thousandth up to 10^16 the point stands in
  its place; elsewhere it follows the first digit.
-/
def layout : Layout := ⟨-4, 17⟩

/- The digits of a decimal with the point where it belongs. -/
def Decimal.text
    (decimal : Decimal) : List Char :=
  let digits := decimal.digits
  let point := decimal.point
  if layout.least ≤ point && point < layout.bound then
    if point ≤ 0 then
      ['0', '.'] ++ List.replicate (-point).toNat '0' ++ digits
    else
      let whole := digits.take point.toNat
      let parts := digits.drop point.toNat
      whole ++ List.replicate (point.toNat - digits.length) '0'
        ++ ['.'] ++ (if parts.isEmpty then ['0'] else parts)
  else
    let exponent := point - 1
    digits.take 1
      ++ (if digits.length ≤ 1 then [] else '.' :: digits.drop 1)
      ++ ['e', if exponent < 0 then '-' else '+']
      ++ Nat.toDigits 10 exponent.natAbs

/- The text of a finite double, always marked as no integer. -/
def text
    (bits : UInt64) : String :=
  let parts := Parts.ofBits bits
  let sign := if parts.isNegative then ['-'] else []
  if parts.significand == 0 then
    String.ofList (sign ++ ['0', '.', '0'])
  else
    String.ofList (sign ++ (shortest parts).text)

end Questionnaire.Double
