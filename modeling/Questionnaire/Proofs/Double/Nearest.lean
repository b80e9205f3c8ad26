import Questionnaire.Double.Nearest
import Mathlib.Algebra.Ring.Nat
import Mathlib.Tactic.SplitIfs

/-
  Rounding keeps the order of numbers, and exact ones as they
  are.

  Key definitions include:
    * `Magnitude.carry`
    * `Magnitude.units`
    * `Magnitude.rounded`

  With one unit, larger numbers are rounded to more units
  (`Magnitude.units_mono`).  Where the unit changes there is a
  power of two between both numbers, and it is a multiple of
  either unit (`Magnitude.rounded_mono`).
-/

------------------------------------------------------------
-- Units
------------------------------------------------------------

namespace Questionnaire

namespace Magnitude

/- The unit that is added to some units for what is left. -/
def carry
    (unit below rest : Nat) : Nat :=
  if 2 * rest < unit then
    0
  else if unit < 2 * rest then
    1
  else
    below % 2

/- How many units a number is rounded to. -/
def units
    (unit n : Nat) : Nat :=
  n / unit + carry unit (n / unit) (n % unit)

theorem roundTo_eq_units
    (unit n : Nat) :
    roundTo unit n = units unit n * unit := by
  simp only [roundTo, units, carry]
  split_ifs <;> rfl

/- No more than one unit is added. -/
theorem carry_le_one
    (unit below rest : Nat) :
    carry unit below rest ≤ 1 := by
  unfold carry
  split_ifs <;> omega

/- The more is left, the more is added. -/
theorem carry_mono
    {rest more : Nat}
    (hLe : rest ≤ more)
    (unit below : Nat) :
    carry unit below rest ≤ carry unit below more := by
  unfold carry
  split_ifs <;> omega

variable {unit m n bound : Nat}

/- Larger numbers are rounded to as many units or more. -/
theorem units_mono
    (hLe : m ≤ n) :
    units unit m ≤ units unit n := by
  have hBelow : m / unit ≤ n / unit := Nat.div_le_div_right hLe
  rcases Nat.lt_or_eq_of_le hBelow with hLess | hSame
  · calc
      units unit m ≤ m / unit + 1 :=
        Nat.add_le_add_left (carry_le_one _ _ _) _
      _ ≤ n / unit := hLess
      _ ≤ units unit n := Nat.le_add_right _ _
  · -- With as many units below, what is left decides.
    have hRest : m % unit ≤ n % unit := by
      have hM := Nat.div_add_mod m unit
      have hN := Nat.div_add_mod n unit
      rw [hSame] at hM
      omega
    unfold units
    rw [hSame]
    exact Nat.add_le_add_left (carry_mono hRest _ _) _

/- A number of units stays as it is. -/
theorem roundTo_of_dvd
    (hUnit : 0 < unit)
    (hDvd : unit ∣ n) :
    roundTo unit n = n := by
  have hCarry : carry unit (n / unit) 0 = 0 := if_pos hUnit
  rw [roundTo_eq_units, units, Nat.mod_eq_zero_of_dvd hDvd, hCarry,
    Nat.add_zero]
  exact Nat.div_mul_cancel hDvd

/- With one unit, larger numbers are not rounded to smaller ones. -/
theorem roundTo_mono
    (hLe : m ≤ n) :
    roundTo unit m ≤ roundTo unit n := by
  rw [roundTo_eq_units, roundTo_eq_units]
  exact Nat.mul_le_mul_right unit (units_mono hLe)

end Magnitude

end Questionnaire

------------------------------------------------------------
-- Doubles
------------------------------------------------------------

namespace Questionnaire

namespace Magnitude

/- The number that a double stands for, unless it is too large. -/
def rounded
    (n : Nat) : Nat :=
  roundTo (Nat.pow 2 (n.log2 - 52)) n

theorem nearest_eq_rounded
    (n : Nat) :
    nearest n =
      if rounded n < Nat.pow 2 1024 then
        .finite (rounded n)
      else
        .infinite :=
  rfl

variable {m n : Nat}

theorem unit_pos
    (exponent : Nat) :
    0 < Nat.pow 2 (exponent - 52) :=
  Nat.two_pow_pos _

/- A power of two is not passed, if the unit divides it. -/
theorem rounded_le_two_pow
    {exponent : Nat}
    (hLt : n < 2 ^ exponent) :
    rounded n ≤ 2 ^ exponent := by
  have hLog : n.log2 - 52 ≤ exponent := by
    rcases Nat.eq_zero_or_pos n with hZero | hPos
    · rw [hZero]
      exact Nat.zero_le _
    · have hLess := (Nat.log2_lt (Nat.ne_of_gt hPos)).mpr hLt
      omega
  calc
    rounded n ≤ roundTo (Nat.pow 2 (n.log2 - 52)) (2 ^ exponent) :=
      roundTo_mono (Nat.le_of_lt hLt)
    _ = 2 ^ exponent :=
      roundTo_of_dvd (unit_pos _) (Nat.pow_dvd_pow 2 hLog)

theorem two_pow_le_rounded
    (hPos : n ≠ 0) :
    2 ^ n.log2 ≤ rounded n := by
  calc
    2 ^ n.log2 = roundTo (Nat.pow 2 (n.log2 - 52)) (2 ^ n.log2) :=
      (roundTo_of_dvd (unit_pos _)
        (Nat.pow_dvd_pow 2 (Nat.sub_le _ _))).symm
    _ ≤ rounded n := roundTo_mono (Nat.log2_self_le hPos)

/- A larger number is never rounded to a smaller one. -/
theorem rounded_mono
    (hLe : m ≤ n) :
    rounded m ≤ rounded n := by
  rcases Nat.eq_or_lt_of_le hLe with hSame | hLt
  · rw [hSame]
  · have hNe : n ≠ 0 := Nat.ne_of_gt (Nat.zero_lt_of_lt hLt)
    by_cases hPower : m < 2 ^ n.log2
    · calc
        rounded m ≤ 2 ^ n.log2 := rounded_le_two_pow hPower
        _ ≤ rounded n := two_pow_le_rounded hNe
    · -- Both have as many bits, and so the same unit.
      have hPow : 2 ^ n.log2 ≤ m := Nat.le_of_not_lt hPower
      have hM : m ≠ 0 :=
        Nat.ne_of_gt (Nat.lt_of_lt_of_le (Nat.two_pow_pos _) hPow)
      have hBits : m.log2 = n.log2 := by
        apply Nat.le_antisymm
        · apply (Nat.le_log2 hNe).mpr
          exact Nat.le_trans (Nat.log2_self_le hM) hLe
        · exact (Nat.le_log2 hM).mpr hPow
      unfold rounded
      rw [hBits]
      exact roundTo_mono hLe

/- Numbers of up to fifty-three bits are not rounded. -/
theorem rounded_of_le
    (hLe : n ≤ 2 ^ 53) :
    rounded n = n := by
  rcases Nat.eq_or_lt_of_le hLe with hBound | hLt
  · have hLog : n.log2 = 53 := by
      rw [hBound]
      exact Nat.log2_two_pow
    unfold rounded
    rw [hLog]
    apply roundTo_of_dvd (unit_pos _)
    rw [hBound]
    exact Nat.pow_dvd_pow 2 (by decide)
  · have hLog : n.log2 - 52 = 0 := by
      rcases Nat.eq_zero_or_pos n with hZero | hPos
      · rw [hZero]
        rfl
      · have hLess := (Nat.log2_lt (Nat.ne_of_gt hPos)).mpr hLt
        omega
    unfold rounded
    rw [hLog]
    exact roundTo_of_dvd Nat.one_pos (Nat.one_dvd n)

theorem nearest_of_le
    (hLe : n ≤ 2 ^ 53) :
    nearest n = .finite n := by
  rw [nearest_eq_rounded, rounded_of_le hLe]
  -- The bound is compared by its exponent, and not computed.
  generalize hBits : 1024 = bits
  have hLt : n < Nat.pow 2 bits :=
    Nat.lt_of_le_of_lt hLe
      (Nat.pow_lt_pow_right Nat.one_lt_two (by omega))
  exact if_pos hLt

/- Doubles that compare stand for numbers that do. -/
theorem rounded_lt_of_nearest_lt
    (hLt : (nearest m).lt (nearest n) = true) :
    rounded m < rounded n := by
  rw [nearest_eq_rounded, nearest_eq_rounded] at hLt
  generalize Nat.pow 2 1024 = bound at hLt
  by_cases hM : rounded m < bound
  · rw [if_pos hM] at hLt
    by_cases hN : rounded n < bound
    · rw [if_pos hN] at hLt
      exact of_decide_eq_true hLt
    · exact Nat.lt_of_lt_of_le hM (Nat.le_of_not_lt hN)
  · rw [if_neg hM] at hLt
    exact absurd hLt Bool.false_ne_true

/- They were rounded from numbers that do. -/
theorem lt_of_nearest_lt
    (hLt : (nearest m).lt (nearest n) = true) :
    m < n := by
  apply Nat.lt_of_not_le
  intro hLe
  exact
    Nat.not_le_of_lt (rounded_lt_of_nearest_lt hLt)
      (rounded_mono hLe)

/- Up to fifty-three bits nothing is lost. -/
theorem nearest_lt_iff
    (hM : m ≤ 2 ^ 53)
    (hN : n ≤ 2 ^ 53) :
    (nearest m).lt (nearest n) = true ↔ m < n := by
  rw [nearest_of_le hM, nearest_of_le hN]
  exact decide_eq_true_iff

end Magnitude

end Questionnaire
