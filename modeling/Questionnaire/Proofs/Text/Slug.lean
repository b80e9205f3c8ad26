import Questionnaire.Proofs.Text.Split
import Questionnaire.Text.Blank
import Questionnaire.Text.Slug

/-
  What a slug is made of.

  Key definitions include:
    * `Slug.Symbol`
    * `Slug.Spelled`

  A text is a slug exactly when it is one word or more, of small
  letters and digits, joined by single dashes (`isSlug_iff`).
-/

------------------------------------------------------------
-- Slugs
------------------------------------------------------------

namespace Questionnaire.Slug

open Text

/- A small letter or a digit, both Latin. -/
def Symbol
    (c : Char) : Prop :=
  ('a' ≤ c ∧ c ≤ 'z') ∨ ('0' ≤ c ∧ c ≤ '9')

instance
    (c : Char) : Decidable (Symbol c) :=
  inferInstanceAs (Decidable (_ ∨ _))

/- One word or more, joined by single dashes. -/
def Spelled
    (text : String) : Prop :=
  ∃ words : List (List Char),
    words ≠ [] ∧
      (∀ word ∈ words, word ≠ [] ∧ ∀ c ∈ word, Symbol c) ∧
      text.toList = joinWith '-' words

theorem isSymbol_iff
    (c : Char) :
    isSymbol c = true ↔ Symbol c := by
  have hLower : c.isLower = (decide ('a' ≤ c) && decide (c ≤ 'z')) :=
    rfl
  have hDigit : c.isDigit = (decide ('0' ≤ c) && decide (c ≤ '9')) :=
    rfl
  simp only [isSymbol, Symbol, hLower, hDigit, Bool.or_eq_true,
    Bool.and_eq_true, decide_eq_true_eq]

/- A dash is no symbol. -/
theorem Symbol.ne_dash
    {c : Char}
    (hSymbol : Symbol c) :
    c ≠ '-' := by
  intro hEq
  rw [hEq] at hSymbol
  exact absurd hSymbol (by decide)

/- The symbols stand between the spaces of one byte. -/
theorem Symbol.bounds
    {c : Char}
    (hSymbol : Symbol c) :
    0x30 ≤ c.toNat ∧ c.toNat ≤ 0x7A := by
  rcases hSymbol with ⟨hLow, hHigh⟩ | ⟨hLow, hHigh⟩
  · have hLow : 0x61 ≤ c.toNat := hLow
    have hHigh : c.toNat ≤ 0x7A := hHigh
    omega
  · have hLow : 0x30 ≤ c.toNat := hLow
    have hHigh : c.toNat ≤ 0x39 := hHigh
    omega

/- The words of a slug are not empty and made of symbols. -/
theorem isWord_iff
    (word : List Char) :
    (!word.isEmpty && word.all isSymbol) = true ↔
      word ≠ [] ∧ ∀ c ∈ word, Symbol c := by
  simp only [Bool.and_eq_true, Bool.not_eq_true',
    List.isEmpty_eq_false_iff, List.all_eq_true, isSymbol_iff]

/- A slug is what its description says. -/
theorem isSlug_iff
    (text : String) :
    isSlug text = true ↔ Spelled text := by
  constructor
  · intro hSlug
    refine ⟨split (fun c => c == '-') text.toList,
      split_ne_nil _ _, ?_, (joinWith_split '-' text.toList).symm⟩
    intro word hWord
    exact (isWord_iff word).mp (List.all_eq_true.mp hSlug word hWord)
  · rintro ⟨words, hWords, hSymbols, hText⟩
    have hSplit :
        split (fun c => c == '-') text.toList = words := by
      rw [hText]
      exact split_joinWith hWords (fun word hWord hDash =>
        ((hSymbols word hWord).2 '-' hDash).ne_dash rfl)
    rw [isSlug, hSplit]
    exact List.all_eq_true.mpr (fun word hWord =>
      (isWord_iff word).mpr (hSymbols word hWord))

namespace Spelled

variable {text : String}

/- A slug has no other characters than symbols and dashes. -/
theorem symbol_or_dash
    (hSpelled : Spelled text) :
    ∀ c ∈ text.toList, Symbol c ∨ c = '-' := by
  rcases hSpelled with ⟨words, _, hSymbols, hText⟩
  intro c hMem
  rw [hText] at hMem
  rcases mem_joinWith hMem with hDash | ⟨word, hWord, hChar⟩
  · exact .inr hDash
  · exact .inl ((hSymbols word hWord).2 c hChar)

/- A slug begins with a symbol. -/
theorem exists_cons
    (hSpelled : Spelled text) :
    ∃ c rest, text.toList = c :: rest ∧ Symbol c := by
  rcases hSpelled with ⟨words, hWords, hSymbols, hText⟩
  cases words with
  | nil => exact absurd rfl hWords
  | cons word words =>
      rcases hSymbols word List.mem_cons_self with ⟨hWord, hChars⟩
      cases word with
      | nil => exact absurd rfl hWord
      | cons c word =>
          have hSymbol := hChars c List.mem_cons_self
          cases words with
          | nil => exact ⟨c, word, hText, hSymbol⟩
          | cons next words => exact ⟨c, _, hText, hSymbol⟩

/- So it is not blank. -/
theorem isBlank_eq_false
    (hSpelled : Spelled text) :
    isBlank text = false := by
  rcases hSpelled.exists_cons with ⟨c, rest, hText, hSymbol⟩
  have hMem : c ∈ text.toList := by
    rw [hText]
    exact List.mem_cons_self
  exact isBlank_eq_false_of_mem hMem
    (isSpace_eq_false_of_bounds hSymbol.bounds.1 hSymbol.bounds.2)

end Spelled

end Questionnaire.Slug
