/-
  The double-precision number nearest to a natural number.

  Key definitions include:
    * `Magnitude`
    * `Magnitude.lt`
    * `Magnitude.nearest`
    * `Magnitude.bits`

  A double has fifty-three significant bits.  A natural number
  with more of them goes to the nearer of its two neighbours,
  and from the middle to the one whose last bit is zero; from
  2^1024 on the result is infinite.
-/

------------------------------------------------------------
-- Magnitudes
------------------------------------------------------------

namespace Questionnaire

/- A double that is a natural number, or infinity. -/
inductive Magnitude where
  | finite (value : Nat)
  | infinite
  deriving DecidableEq, Repr

namespace Magnitude

/- The order of magnitudes: infinity is above the others. -/
def lt : Magnitude → Magnitude → Bool
  | .finite a, .finite b => a < b
  | .finite _, .infinite => true
  | .infinite, _ => false

end Magnitude

end Questionnaire

------------------------------------------------------------
-- Rounding
------------------------------------------------------------

namespace Questionnaire

namespace Magnitude

/-
  The multiple of `unit` nearest to a number; from the middle,
  the even multiple.
-/
def roundTo
    (unit : Nat)
    (n : Nat) : Nat :=
  let below := n / unit
  let rest := n % unit
  if 2 * rest < unit then
    below * unit
  else if unit < 2 * rest then
    (below + 1) * unit
  else
    (below + below % 2) * unit

/- The double nearest to a natural number. -/
def nearest
    (n : Nat) : Magnitude :=
  let value := roundTo (Nat.pow 2 (n.log2 - 52)) n
  if value < Nat.pow 2 1024 then .finite value else .infinite

end Magnitude

end Questionnaire

------------------------------------------------------------
-- Bits
------------------------------------------------------------

namespace Questionnaire

namespace Magnitude

/-
  The interchange form of a magnitude: a biased exponent of
  eleven bits above a fraction of fifty-two.
-/
def bits : Magnitude → Nat
  | .finite 0 => 0
  | .finite value =>
      let exponent := value.log2
      (exponent + 1022) * Nat.pow 2 52
        + value * Nat.pow 2 52 / Nat.pow 2 exponent
  | .infinite => 2047 * Nat.pow 2 52

/- The machine number of a magnitude. -/
def toFloat
    (m : Magnitude) : Float :=
  Float.ofBits (UInt64.ofNat m.bits)

end Magnitude

end Questionnaire
