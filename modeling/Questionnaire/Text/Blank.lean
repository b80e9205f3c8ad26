/-
  White space in the sense of the Unicode property
  `White_Space`, and the trimming and blankness of texts that
  depend on it.

  Key definitions include:
    * `isSpace`
    * `trimChars`
    * `trim`
    * `isBlank`
    * `nonBlank?`

  A text is blank exactly when trimming leaves nothing
  (`isBlank_iff_trim_eq_empty`).
-/

------------------------------------------------------------
-- White Space
------------------------------------------------------------

namespace Questionnaire.Text

/-
  The twenty-five characters with the property
  `White_Space`.  The zero-width space and the byte order
  mark are not among them.
-/
def isSpace
    (c : Char) : Bool :=
  let n := c.toNat
  (0x09 ≤ n && n ≤ 0x0D) || n == 0x20 || n == 0x85 || n == 0xA0
    || n == 0x1680 || (0x2000 ≤ n && n ≤ 0x200A) || n == 0x2028
    || n == 0x2029 || n == 0x202F || n == 0x205F || n == 0x3000

/- Drop the white space at both ends. -/
def trimChars
    (text : List Char) : List Char :=
  ((text.dropWhile isSpace).reverse.dropWhile isSpace).reverse

/- Drop the white space at both ends of a text. -/
def trim
    (text : String) : String :=
  String.ofList (trimChars text.toList)

/- A text of white space only; the empty text is one. -/
def isBlank
    (text : String) : Bool :=
  text.toList.all isSpace

/- The trimmed text, unless nothing is left of it. -/
def nonBlank?
    (text : String) : Option String :=
  if isBlank text then none else some (trim text)

end Questionnaire.Text

------------------------------------------------------------
-- Small Facts
------------------------------------------------------------

namespace Questionnaire.Text

/- Dropping what has a property leaves out nothing else. -/
theorem all_dropWhile
    (p : Char → Bool)
    (text : List Char) :
    (text.dropWhile p).all p = text.all p := by
  rw [List.all_eq_not_any_not, List.any_dropWhile, Bool.not_not]

/- Trimming neither adds nor takes what is not white space. -/
theorem isBlank_trim
    (text : String) :
    isBlank (trim text) = isBlank text := by
  rw [isBlank, isBlank, trim, String.toList_ofList, trimChars,
    List.all_reverse, all_dropWhile, List.all_reverse,
    all_dropWhile]

/- Trimming leaves nothing of exactly the blank texts. -/
theorem isBlank_iff_trim_eq_empty
    (text : String) :
    isBlank text = true ↔ trim text = "" := by
  rw [← isBlank_trim]
  constructor
  · intro hBlank
    rw [isBlank, trim, String.toList_ofList] at hBlank
    rw [trim, String.ofList_eq_empty_iff]
    by_cases hNil :
        (text.toList.dropWhile isSpace).reverse.dropWhile isSpace = []
    · rw [trimChars, hNil]
      rfl
    · have hHead := List.head_dropWhile_not isSpace hNil
      have hMem := List.mem_reverse.mpr (List.head_mem hNil)
      have hSpace := List.all_eq_true.mp hBlank _ hMem
      simp [hHead] at hSpace
  · intro hEmpty
    rw [hEmpty]
    rfl

/- No Latin digit, small or large letter is white space. -/
theorem isSpace_eq_false_of_bounds
    {c : Char}
    (hLow : 0x30 ≤ c.toNat)
    (hHigh : c.toNat ≤ 0x7A) :
    isSpace c = false := by
  simp only [isSpace, Bool.or_eq_false_iff, Bool.and_eq_false_iff,
    decide_eq_false_iff_not, beq_eq_false_iff_ne]
  omega

/- A digit is no white space. -/
theorem isSpace_eq_false_of_isDigit
    {c : Char}
    (hDigit : c.isDigit = true) :
    isSpace c = false := by
  simp only [Char.isDigit, Bool.and_eq_true, decide_eq_true_eq]
    at hDigit
  have hLow : 0x30 ≤ c.toNat := hDigit.1
  have hHigh : c.toNat ≤ 0x39 := hDigit.2
  exact isSpace_eq_false_of_bounds hLow (by omega)

/- One character that is no white space suffices. -/
theorem isBlank_eq_false_of_mem
    {text : String}
    {c : Char}
    (hMem : c ∈ text.toList)
    (hSpace : isSpace c = false) :
    isBlank text = false := by
  rw [isBlank, List.all_eq_false]
  exact ⟨c, hMem, by rw [hSpace]; exact Bool.false_ne_true⟩

/- A text that is not blank is not empty. -/
theorem isEmpty_eq_false
    {text : String}
    (hBlank : isBlank text = false) :
    text.isEmpty = false := by
  cases hEmpty : text.isEmpty with
  | false => rfl
  | true =>
      rw [String.isEmpty_iff.mp hEmpty] at hBlank
      exact absurd hBlank nofun

end Questionnaire.Text
