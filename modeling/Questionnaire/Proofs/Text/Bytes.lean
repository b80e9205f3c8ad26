import Mathlib.Tactic.Conv
import Mathlib.Tactic.SplitIfs
import Questionnaire.Table

/-
  The bytes of a text, and the order of texts by their bytes.

  Key definitions include:
    * `bytes`
    * `Utf8.following`
    * `Utf8.lead`

  A character is encoded by a first byte, which tells how many
  others follow, and by its remaining digits to the base of
  sixty-four.  So the encoding keeps the order of characters,
  and the order of texts is that of their bytes
  (`bytes_lt_of_lt`).
-/

------------------------------------------------------------
-- Digits
------------------------------------------------------------

namespace Questionnaire.Text.Utf8

/- The smaller number has the smaller quotient or remainder. -/
theorem div_lt_or_mod_lt
    {m n : Nat}
    (hLt : m < n)
    (base : Nat) :
    m / base < n / base ∨
      m / base = n / base ∧ m % base < n % base := by
  have hLe : m / base ≤ n / base :=
    Nat.div_le_div_right (Nat.le_of_lt hLt)
  have hFirst := Nat.div_add_mod m base
  have hSecond := Nat.div_add_mod n base
  rcases Nat.lt_or_eq_of_le hLe with hLess | hEq
  · exact .inl hLess
  · rw [hEq] at hFirst
    exact .inr ⟨hEq, by omega⟩

/- Bytes are in order as their numbers are. -/
theorem cons_lt_cons
    {m n : Nat}
    {before after : List UInt8}
    (hFirst : m < 256)
    (hSecond : n < 256)
    (hLt : m < n ∨ m = n ∧ before < after) :
    UInt8.ofNat m :: before < UInt8.ofNat n :: after := by
  rw [List.cons_lt_cons_iff, UInt8.lt_iff_toNat_lt,
    UInt8.toNat_ofNat_of_lt' hFirst, UInt8.toNat_ofNat_of_lt' hSecond]
  rcases hLt with hLess | ⟨hEq, hRest⟩
  · exact .inl hLess
  · exact .inr ⟨congrArg UInt8.ofNat hEq, hRest⟩

/- The bytes after the first one: so many digits of a number. -/
def following : Nat → Nat → List UInt8
  | 0, _ => []
  | count + 1, n =>
      UInt8.ofNat (n / Nat.pow 64 count % 64 + 0x80)
        :: following count n

/- They are in order as the digits are. -/
theorem following_append_lt
    {count m n : Nat}
    (hLt : m % Nat.pow 64 count < n % Nat.pow 64 count)
    (before after : List UInt8) :
    following count m ++ before < following count n ++ after := by
  induction count with
  | zero =>
      have hNone : m % 1 < n % 1 := hLt
      rw [Nat.mod_one, Nat.mod_one] at hNone
      exact absurd hNone (Nat.lt_irrefl 0)
  | succ count ih =>
      have hDigit (k : Nat) :
          k % Nat.pow 64 (count + 1) / Nat.pow 64 count =
            k / Nat.pow 64 count % 64 :=
        Nat.mod_mul_right_div_self k (Nat.pow 64 count) 64
      have hRest (k : Nat) :
          k % Nat.pow 64 (count + 1) % Nat.pow 64 count =
            k % Nat.pow 64 count :=
        Nat.mod_mod_of_dvd k (Nat.pow_dvd_pow 64 (Nat.le_succ count))
      have hCases := div_lt_or_mod_lt hLt (Nat.pow 64 count)
      rw [hDigit, hDigit, hRest, hRest] at hCases
      rw [following, following, List.cons_append, List.cons_append]
      refine cons_lt_cons (by omega) (by omega) ?_
      rcases hCases with hLess | ⟨hEq, hLess⟩
      · exact .inl (by omega)
      · exact .inr ⟨by omega, ih hLess⟩

end Questionnaire.Text.Utf8

------------------------------------------------------------
-- Characters
------------------------------------------------------------

namespace Questionnaire.Text.Utf8

/- How many bytes follow the first one of a number. -/
def followers
    (n : Nat) : Nat :=
  if n ≤ 0x7F then 0
  else if n ≤ 0x7FF then 1
  else if n ≤ 0xFFFF then 2
  else 3

/- The least first byte before so many others. -/
def mark : Nat → Nat
  | 0 => 0
  | 1 => 0xC0
  | 2 => 0xE0
  | 3 => 0xF0
  | _ => 0xF8

/- The first byte of a number, which has its first digit. -/
def lead
    (n : Nat) : Nat :=
  n / Nat.pow 64 (followers n) + mark (followers n)

/- The last character has the number 0x10FFFF. -/
theorem val_lt
    (c : Char) :
    c.val.toNat < 0x110000 := by
  rcases c.valid with hLow | ⟨_, hHigh⟩
  · exact Nat.lt_trans hLow (by decide)
  · exact hHigh

/- A character is encoded by its first byte and its digits. -/
theorem utf8EncodeChar_eq
    (c : Char) :
    String.utf8EncodeChar c =
      UInt8.ofNat (lead c.val.toNat)
        :: following (followers c.val.toNat) c.val.toNat := by
  have hLast := val_lt c
  unfold String.utf8EncodeChar lead followers
  generalize c.val.toNat = n at hLast
  simp only []
  split
  · simp [mark, following]
  · split
    · have hDigit : n / 64 % 32 = n / 64 := by omega
      simp [mark, following, hDigit]
    · split
      · have hDigit : n / 4096 % 16 = n / 4096 := by omega
        simp [mark, following, hDigit]
      · have hDigit : n / 262144 % 8 = n / 262144 := by omega
        simp [mark, following, hDigit]

/- A first byte is below those before more bytes. -/
theorem lead_lt_mark
    {n : Nat}
    (hLast : n < 0x110000) :
    lead n < mark (followers n + 1) := by
  unfold lead followers
  split_ifs
  all_goals
    simp only [mark, Nat.pow_eq]
    omega

theorem mark_mono
    {few many : Nat}
    (hFew : few ≤ many) :
    mark few ≤ mark many := by
  match few, many with
  | 0, _ => exact Nat.zero_le _
  | 1, 1 | 2, 2 | 3, 3 => exact Nat.le_refl _
  | 1, 2 | 1, 3 | 2, 3 => decide
  | 1, many + 4 | 2, many + 4 | 3, many + 4 =>
      have hTop : mark (many + 4) = 0xF8 := rfl
      rw [hTop]
      decide
  | few + 4, many + 4 => exact Nat.le_refl _

/- A larger number needs no fewer bytes. -/
theorem followers_mono
    {m n : Nat}
    (hLe : m ≤ n) :
    followers m ≤ followers n := by
  unfold followers
  split_ifs
  all_goals omega

/- The later character has the larger first byte or digits. -/
theorem lead_lt_or
    {m n : Nat}
    (hLt : m < n)
    (hLast : n < 0x110000) :
    lead m < lead n ∨
      lead m = lead n ∧
        followers m = followers n ∧
          m % Nat.pow 64 (followers m) <
            n % Nat.pow 64 (followers n) := by
  rcases Nat.lt_or_eq_of_le (followers_mono (Nat.le_of_lt hLt)) with
    hFewer | hSame
  · left
    calc lead m
      _ < mark (followers m + 1) :=
          lead_lt_mark (Nat.lt_trans hLt hLast)
      _ ≤ mark (followers n) := mark_mono hFewer
      _ ≤ lead n := Nat.le_add_left _ _
  · rw [lead, lead, hSame]
    rcases div_lt_or_mod_lt hLt (Nat.pow 64 (followers n)) with
      hLess | ⟨hEq, hLess⟩
    · exact .inl (Nat.add_lt_add_right hLess _)
    · exact .inr ⟨by rw [hEq], rfl, hLess⟩

/- The earlier character has the smaller bytes. -/
theorem utf8EncodeChar_append_lt
    {c d : Char}
    (hLt : c < d)
    (before after : List UInt8) :
    String.utf8EncodeChar c ++ before <
      String.utf8EncodeChar d ++ after := by
  have hNumbers : c.val.toNat < d.val.toNat := hLt
  have hLast := val_lt d
  have hByte {n : Nat} (hBound : n < 0x110000) : lead n < 256 := by
    have hFew : followers n + 1 ≤ followers n + 5 := by
      omega
    have hMark : mark (followers n + 1) ≤ 0xF8 := mark_mono hFew
    exact Nat.lt_of_lt_of_le (lead_lt_mark hBound)
      (Nat.le_trans hMark (by decide))
  rw [utf8EncodeChar_eq, utf8EncodeChar_eq, List.cons_append,
    List.cons_append]
  refine cons_lt_cons (hByte (val_lt c)) (hByte hLast) ?_
  rcases lead_lt_or hNumbers hLast with hLess | ⟨hEq, hSame, hLess⟩
  · exact .inl hLess
  · rw [← hSame] at hLess ⊢
    exact .inr ⟨hEq, following_append_lt hLess before after⟩

end Questionnaire.Text.Utf8

------------------------------------------------------------
-- Texts
------------------------------------------------------------

namespace Questionnaire.Text

open Utf8

/- The bytes that encode a text. -/
def bytes
    (text : String) : List UInt8 :=
  text.toUTF8.data.toList

/- The encodings of its characters make up that of a text. -/
theorem bytes_eq_flatMap
    (text : String) :
    bytes text = text.toList.flatMap String.utf8EncodeChar := by
  have hBytes : text.toUTF8 = text.toList.utf8Encode := by
    conv_lhs => rw [← String.ofList_toList (s := text)]
    exact String.toByteArray_ofList
  rw [bytes, hBytes, List.utf8Encode, List.data_toByteArray]

theorem flatMap_utf8EncodeChar_lt
    {before after : List Char}
    (hLt : before < after) :
    before.flatMap String.utf8EncodeChar <
      after.flatMap String.utf8EncodeChar := by
  induction hLt with
  | @nil d after =>
      rw [List.flatMap_nil, List.flatMap_cons, utf8EncodeChar_eq]
      exact .nil
  | @rel c before d after hLess =>
      rw [List.flatMap_cons, List.flatMap_cons]
      exact utf8EncodeChar_append_lt hLess _ _
  | @cons c before after hRest ih =>
      rw [List.flatMap_cons, List.flatMap_cons]
      exact List.append_left_lt ih

/- The order of texts is that of their bytes. -/
theorem bytes_lt_of_lt
    {before after : String}
    (hLt : before < after) :
    bytes before < bytes after := by
  rw [bytes_eq_flatMap, bytes_eq_flatMap]
  exact flatMap_utf8EncodeChar_lt hLt

end Questionnaire.Text
