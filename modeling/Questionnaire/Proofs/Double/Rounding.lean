import Mathlib.Data.Nat.Dist
import Questionnaire.Proofs.Double.Nearest

/-
  What it is to be rounded correctly.

  Key definitions include:
    * `Magnitude.HasBits`
    * `Magnitude.IsNearest`
    * `Magnitude.IsRounded`

  A double is a number of fifty-three bits.  No such number is
  nearer to a number than the one that it is rounded to, and of
  two that are as near this is the even one, which has no more
  than fifty-two.  A number has one double that it is rounded to
  (`Magnitude.isRounded_iff`).
-/

------------------------------------------------------------
-- Correct Rounding
------------------------------------------------------------

namespace Questionnaire

namespace Magnitude

/- A number of so many bits, with zeros after them. -/
def HasBits
    (bits value : Nat) : Prop :=
  ∃ significand exponent,
    significand < 2 ^ bits ∧ value = significand * 2 ^ exponent

/-
  The number of fifty-three bits that is nearest to a number,
  and of two that are as near the one whose last bit is zero.
-/
structure IsNearest
    (n value : Nat) : Prop where
  bits : HasBits 53 value
  closest :
    ∀ other, HasBits 53 other → Nat.dist n value ≤ Nat.dist n other
  even :
    ∀ other,
      HasBits 53 other →
        other ≠ value →
          Nat.dist n other = Nat.dist n value → HasBits 52 value

/- The nearest number, or infinity if it has over 1024 bits. -/
def IsRounded
    (n : Nat) : Magnitude → Prop
  | .finite value => IsNearest n value ∧ value < Nat.pow 2 1024
  | .infinite => ∃ value, IsNearest n value ∧ Nat.pow 2 1024 ≤ value

end Magnitude

end Questionnaire

------------------------------------------------------------
-- Multiples of a Unit
------------------------------------------------------------

namespace Questionnaire

namespace Magnitude

variable {unit n other : Nat}

/-
  What is rounded off is less than half a unit, or what is
  rounded up; from the middle, two units divide the result.
-/
theorem roundTo_cases
    (unit n : Nat) :
    (2 * (n % unit) < unit ∧ roundTo unit n + n % unit = n) ∨
      (unit < 2 * (n % unit) ∧
        roundTo unit n + n % unit = n + unit) ∨
      (2 * (n % unit) = unit ∧ 2 * unit ∣ roundTo unit n ∧
        (roundTo unit n + n % unit = n ∨
          roundTo unit n + n % unit = n + unit)) := by
  have hSplit := Nat.div_add_mod' n unit
  unfold roundTo
  simp only
  split_ifs with hBelow hAbove
  · exact .inl ⟨hBelow, hSplit⟩
  · refine .inr (.inl ⟨hAbove, ?_⟩)
    rw [Nat.add_mul]
    omega
  · refine .inr (.inr ⟨by omega, ?_, ?_⟩)
    · apply Nat.mul_dvd_mul_right
      omega
    · rw [Nat.add_mul]
      rcases Nat.mod_two_eq_zero_or_one (n / unit) with hEven | hOdd
      · rw [hEven]
        omega
      · rw [hOdd]
        omega

/- No multiple of a unit lies between the two that are nearest. -/
theorem le_or_le_of_dvd
    (hDvd : unit ∣ other)
    (n : Nat) :
    other + n % unit ≤ n ∨ n + unit ≤ other + n % unit := by
  rcases hDvd with ⟨k, hOther⟩
  have hSplit := Nat.div_add_mod n unit
  rcases Nat.lt_or_ge (n / unit) k with hAbove | hBelow
  · have hLe : unit * (n / unit + 1) ≤ unit * k :=
      Nat.mul_le_mul_left unit hAbove
    rw [Nat.mul_add, Nat.mul_one] at hLe
    omega
  · have hLe : unit * k ≤ unit * (n / unit) :=
      Nat.mul_le_mul_left unit hBelow
    omega

/- No multiple of a unit is nearer. -/
theorem dist_roundTo_le
    (hUnit : 0 < unit)
    (hDvd : unit ∣ other) :
    Nat.dist n (roundTo unit n) ≤ Nat.dist n other := by
  have hRest := Nat.mod_lt n hUnit
  have hApart := le_or_le_of_dvd hDvd n
  unfold Nat.dist
  rcases roundTo_cases unit n with
    ⟨hBelow, hRound⟩ | ⟨hAbove, hRound⟩ | ⟨hMiddle, _, hRound⟩
  · omega
  · omega
  · omega

/- It is no more than half a unit away. -/
theorem two_mul_dist_roundTo_le
    (hUnit : 0 < unit)
    (n : Nat) :
    2 * Nat.dist n (roundTo unit n) ≤ unit := by
  have hRest := Nat.mod_lt n hUnit
  unfold Nat.dist
  rcases roundTo_cases unit n with
    ⟨hBelow, hRound⟩ | ⟨hAbove, hRound⟩ | ⟨hMiddle, _, hRound⟩
  · omega
  · omega
  · omega

/- Only from the middle another multiple is as near. -/
theorem two_mul_dvd_roundTo
    (hUnit : 0 < unit)
    (hDvd : unit ∣ other)
    (hNe : other ≠ roundTo unit n)
    (hDist : Nat.dist n other = Nat.dist n (roundTo unit n)) :
    2 * unit ∣ roundTo unit n := by
  have hRest := Nat.mod_lt n hUnit
  have hApart := le_or_le_of_dvd hDvd n
  unfold Nat.dist at hDist
  rcases roundTo_cases unit n with
    ⟨hBelow, hRound⟩ | ⟨hAbove, hRound⟩ | ⟨_, hEven, _⟩
  · exfalso
    omega
  · exfalso
    omega
  · exact hEven

/- Two multiples of a unit are a unit apart. -/
theorem le_dist_of_dvd
    {value : Nat}
    (hValue : unit ∣ value)
    (hOther : unit ∣ other)
    (hNe : value ≠ other) :
    unit ≤ Nat.dist value other :=
  Nat.le_of_dvd (Nat.dist_pos_of_ne hNe)
    (Nat.dvd_add (Nat.dvd_sub hValue hOther)
      (Nat.dvd_sub hOther hValue))

end Magnitude

end Questionnaire

------------------------------------------------------------
-- Numbers of So Many Bits
------------------------------------------------------------

namespace Questionnaire

namespace Magnitude

variable {bits exponent value : Nat}

/- A power of two has one bit. -/
theorem hasBits_of_le
    {significand : Nat}
    (hBits : bits ≠ 0)
    (hLe : significand ≤ 2 ^ bits)
    (exponent : Nat) :
    HasBits bits (significand * 2 ^ exponent) := by
  rcases Nat.lt_or_eq_of_le hLe with hLess | hEq
  · exact ⟨significand, exponent, hLess, rfl⟩
  · refine ⟨1, bits + exponent, Nat.one_lt_two_pow hBits, ?_⟩
    rw [hEq, Nat.one_mul, Nat.pow_add]

/- A large number of a few bits has zeros after them. -/
theorem two_pow_dvd_of_hasBits
    (hBits : HasBits bits value)
    (hLe : 2 ^ exponent ≤ value) :
    2 ^ (exponent + 1 - bits) ∣ value := by
  rcases hBits with ⟨significand, zeros, hLess, hValue⟩
  have hBound : 2 ^ exponent < 2 ^ (bits + zeros) := by
    calc
      2 ^ exponent ≤ significand * 2 ^ zeros := hValue ▸ hLe
      _ < 2 ^ bits * 2 ^ zeros :=
        Nat.mul_lt_mul_of_pos_right hLess (Nat.two_pow_pos zeros)
      _ = 2 ^ (bits + zeros) := (Nat.pow_add 2 bits zeros).symm
  have hExponent :=
    (Nat.pow_lt_pow_iff_right Nat.one_lt_two).mp hBound
  rw [hValue]
  exact Nat.dvd_mul_left_of_dvd
    (Nat.pow_dvd_pow 2 (by omega)) significand

end Magnitude

end Questionnaire

------------------------------------------------------------
-- Doubles
------------------------------------------------------------

namespace Questionnaire

namespace Magnitude

variable {n other : Nat}

/- Where a number has at most fifty-three bits nothing is lost. -/
theorem rounded_of_log2
    (hLog : n.log2 < 53) :
    rounded n = n := by
  apply rounded_of_le
  calc
    n ≤ 2 ^ (n.log2 + 1) := Nat.le_of_lt Nat.lt_log2_self
    _ ≤ 2 ^ 53 := Nat.pow_le_pow_right Nat.two_pos hLog

/- A multiple of the unit that is not too large has few bits. -/
theorem hasBits_rounded_of_dvd
    {bits exponent : Nat}
    (hBits : bits ≠ 0)
    (hLog : n.log2 + 1 = bits + exponent)
    (hDvd : 2 ^ exponent ∣ rounded n) :
    HasBits bits (rounded n) := by
  rcases hDvd with ⟨significand, hRounded⟩
  have hLe :
      2 ^ exponent * significand ≤ 2 ^ exponent * 2 ^ bits := by
    calc
      2 ^ exponent * significand = rounded n := hRounded.symm
      _ ≤ 2 ^ (n.log2 + 1) := rounded_le_two_pow Nat.lt_log2_self
      _ = 2 ^ exponent * 2 ^ bits := by
        rw [hLog, Nat.add_comm, Nat.pow_add]
  rw [hRounded, Nat.mul_comm]
  exact hasBits_of_le hBits
    (Nat.le_of_mul_le_mul_left hLe (Nat.two_pow_pos exponent)) _

/- What a number is rounded to has fifty-three bits. -/
theorem hasBits_rounded
    (n : Nat) :
    HasBits 53 (rounded n) := by
  by_cases hLog : n.log2 < 52
  · rw [rounded_of_log2 (by omega)]
    refine ⟨n, 0, ?_, by rw [Nat.pow_zero, Nat.mul_one]⟩
    exact Nat.lt_of_lt_of_le Nat.lt_log2_self
      (Nat.pow_le_pow_right Nat.two_pos (by omega))
  · apply hasBits_rounded_of_dvd (by decide)
      (show n.log2 + 1 = 53 + (n.log2 - 52) by omega)
    rw [rounded, roundTo_eq_units]
    exact Nat.dvd_mul_left _ _

/- A double that is not less than the leading bit is in units. -/
theorem unit_dvd
    (hBits : HasBits 53 other)
    (hLe : 2 ^ n.log2 ≤ other) :
    Nat.pow 2 (n.log2 - 52) ∣ other := by
  have hDvd := two_pow_dvd_of_hasBits hBits hLe
  rwa [show n.log2 + 1 - 53 = n.log2 - 52 by omega] at hDvd

/- A double that is less is farther than the leading bit. -/
theorem dist_lt_of_lt
    (hPos : n ≠ 0)
    (hLess : other < 2 ^ n.log2) :
    Nat.dist n (rounded n) < Nat.dist n other := by
  have hLead :
      Nat.dist n (rounded n) ≤ Nat.dist n (2 ^ n.log2) :=
    dist_roundTo_le (unit_pos _)
      (Nat.pow_dvd_pow 2 (Nat.sub_le _ _))
  have hLe := Nat.log2_self_le hPos
  unfold Nat.dist at hLead ⊢
  omega

/- No double is nearer to a number than what it is rounded to. -/
theorem dist_rounded_le
    (hBits : HasBits 53 other) :
    Nat.dist n (rounded n) ≤ Nat.dist n other := by
  rcases Nat.eq_zero_or_pos n with hZero | hPos
  · rw [hZero, rounded_of_le (Nat.zero_le _), Nat.dist_self]
    exact Nat.zero_le _
  · rcases Nat.lt_or_ge other (2 ^ n.log2) with hLess | hLe
    · exact Nat.le_of_lt (dist_lt_of_lt (Nat.ne_of_gt hPos) hLess)
    · exact dist_roundTo_le (unit_pos _) (unit_dvd hBits hLe)

/- Where another double is as near, the last bit is zero. -/
theorem two_mul_unit_dvd_rounded
    (hPos : n ≠ 0)
    (hBits : HasBits 53 other)
    (hNe : other ≠ rounded n)
    (hDist : Nat.dist n other = Nat.dist n (rounded n)) :
    2 * Nat.pow 2 (n.log2 - 52) ∣ rounded n := by
  rcases Nat.lt_or_ge other (2 ^ n.log2) with hLess | hLe
  · exact absurd hDist
      (Nat.ne_of_gt (dist_lt_of_lt hPos hLess))
  · exact two_mul_dvd_roundTo (unit_pos _) (unit_dvd hBits hLe) hNe
      hDist

/- A number is rounded to the double that is nearest. -/
theorem isNearest_rounded
    (n : Nat) :
    IsNearest n (rounded n) := by
  refine ⟨hasBits_rounded n, fun other => dist_rounded_le, ?_⟩
  intro other hBits hNe hDist
  by_cases hLog : n.log2 < 53
  · rw [rounded_of_log2 hLog, Nat.dist_self] at hDist
    rw [rounded_of_log2 hLog] at hNe
    exact absurd (Nat.eq_of_dist_eq_zero hDist).symm hNe
  · have hPos : n ≠ 0 := by
      intro hZero
      rw [hZero] at hLog
      exact hLog (by decide)
    apply hasBits_rounded_of_dvd (by decide)
      (show n.log2 + 1 = 52 + (n.log2 - 52 + 1) by omega)
    rw [Nat.pow_succ, Nat.mul_comm]
    exact two_mul_unit_dvd_rounded hPos hBits hNe hDist

/- There is one such double. -/
theorem IsNearest.eq_rounded
    {value : Nat}
    (hNearest : IsNearest n value) :
    value = rounded n := by
  by_contra hNe
  have hDist : Nat.dist n value = Nat.dist n (rounded n) :=
    Nat.le_antisymm
      (hNearest.closest _ (hasBits_rounded n))
      (dist_rounded_le hNearest.bits)
  by_cases hLog : n.log2 < 53
  · rw [rounded_of_log2 hLog, Nat.dist_self] at hDist
    rw [rounded_of_log2 hLog] at hNe
    exact hNe (Nat.eq_of_dist_eq_zero hDist).symm
  · have hPos : n ≠ 0 := by
      intro hZero
      rw [hZero] at hLog
      exact hLog (by decide)
    have hBits : HasBits 52 value :=
      hNearest.even _ (hasBits_rounded n) (Ne.symm hNe) hDist.symm
    have hLe : 2 ^ n.log2 ≤ value := by
      apply Nat.le_of_not_lt
      intro hLess
      exact Nat.ne_of_gt (dist_lt_of_lt hPos hLess) hDist
    -- Both have a zero for their last bit, so that they lie farther
    -- apart than what is rounded off.
    have hValue := two_pow_dvd_of_hasBits hBits hLe
    have hRounded :=
      two_mul_unit_dvd_rounded hPos hNearest.bits hNe hDist
    have hUnits :
        2 ^ (n.log2 + 1 - 52) = 2 * Nat.pow 2 (n.log2 - 52) := by
      rw [show n.log2 + 1 - 52 = n.log2 - 52 + 1 by omega,
        Nat.pow_succ, Nat.mul_comm]
      rfl
    rw [hUnits] at hValue
    have hApart := le_dist_of_dvd hValue hRounded hNe
    have hNear :
        2 * Nat.dist n (rounded n) ≤ Nat.pow 2 (n.log2 - 52) :=
      two_mul_dist_roundTo_le (unit_pos _) n
    have hTriangle :=
      Nat.dist.triangle_inequality value n (rounded n)
    rw [Nat.dist_comm value n, hDist] at hTriangle
    have hUnit := unit_pos n.log2
    omega

/- Rounding gives the double that a number is rounded to. -/
theorem isRounded_iff
    {amount : Magnitude} :
    IsRounded n amount ↔ amount = nearest n := by
  rw [nearest_eq_rounded]
  constructor
  · intro hRounded
    cases amount with
    | finite value =>
        rcases hRounded with ⟨hNearest, hLess⟩
        rw [hNearest.eq_rounded] at hLess ⊢
        rw [if_pos hLess]
    | infinite =>
        rcases hRounded with ⟨value, hNearest, hLe⟩
        rw [hNearest.eq_rounded] at hLe
        rw [if_neg (Nat.not_lt.mpr hLe)]
  · intro hAmount
    rcases Nat.lt_or_ge (rounded n) (Nat.pow 2 1024) with
      hLess | hLe
    · rw [hAmount.trans (if_pos hLess)]
      exact ⟨isNearest_rounded n, hLess⟩
    · rw [hAmount.trans (if_neg (Nat.not_lt.mpr hLe))]
      exact ⟨_, isNearest_rounded n, hLe⟩

end Magnitude

end Questionnaire
