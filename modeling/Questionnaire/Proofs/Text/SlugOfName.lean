import Questionnaire.Proofs.Text.LowerCase
import Questionnaire.Proofs.Text.Slug

/-
  The slugs that names are turned into.

  Key definitions include:
    * `Slug.wordsOf`

  The words of a name are the longest runs of letters and digits
  of its lower case, and its slug is these words, joined.  So it
  is a slug or empty (`ofName_spelled`), a slug is its own
  (`ofName_of_spelled`), and names with a blank between them have
  the words of both (`wordsOf_append_blank`).
-/

------------------------------------------------------------
-- The Symbols of a Name
------------------------------------------------------------

namespace Questionnaire.Slug

open Text

/- Taking an accent away gives no capital. -/
theorem withoutAccent_cases
    (c : Char) :
    (withoutAccent c).isUpper = false ∨ withoutAccent c = c := by
  unfold withoutAccent
  split
  case h_26 => exact .inr rfl
  all_goals exact .inl rfl

/- The accented letters lie beyond the characters of one byte. -/
theorem withoutAccent_of_byte
    {c : Char}
    (hByte : c.toNat < 0x80) :
    withoutAccent c = c := by
  unfold withoutAccent
  split
  case h_26 => rfl
  all_goals exact absurd hByte (by decide)

/-
  What is left of a character is a letter or a digit exactly if
  it is a symbol, since it is no capital.
-/
theorem isAlphanum_iff_isSymbol
    {c d : Char}
    (hMem : d ∈ lowerCase c) :
    (withoutAccent d).isAlphanum = isSymbol (withoutAccent d) := by
  have hSmall : (withoutAccent d).isUpper = false := by
    rcases withoutAccent_cases d with hSmall | hSame
    · exact hSmall
    · rw [hSame]
      exact isUpper_eq_false_of_mem_lowerCase hMem
  have hAlphanum (c : Char) :
      c.isAlphanum = (c.isUpper || c.isLower || c.isDigit) :=
    rfl
  rw [hAlphanum, hSmall, Bool.false_or, isSymbol]

theorem symbols_append
    (text more : List Char) :
    symbols (text ++ more) = symbols text ++ symbols more := by
  rw [symbols, List.flatMap_append, List.map_append]
  rfl

/- Characters of one byte that are no capitals stay as they are. -/
theorem symbols_of_plain
    {text : List Char}
    (hPlain :
      ∀ c ∈ text, c.toNat < 0x80 ∧ c.isUpper = false) :
    symbols text = text := by
  induction text with
  | nil => rfl
  | cons c text ih =>
      rcases hPlain c List.mem_cons_self with ⟨hByte, hSmall⟩
      have hRest :=
        ih (fun d hMem => hPlain d (List.mem_cons_of_mem c hMem))
      have hChar : symbols [c] = [c] := by
        rw [symbols, List.flatMap_singleton,
          lowerCase_of_plain hByte hSmall, List.map_singleton,
          withoutAccent_of_byte hByte]
      rw [← List.singleton_append, symbols_append, hChar, hRest]

end Questionnaire.Slug

------------------------------------------------------------
-- The Words of a Name
------------------------------------------------------------

namespace Questionnaire.Slug

open Text

variable {name : String}

/- The words that the slug of a name is made of. -/
def wordsOf
    (name : String) : List (List Char) :=
  runs isSymbol (symbols name.toList)

theorem toList_ofName
    (name : String) :
    (ofName name).toList = joinWith '-' (wordsOf name) :=
  String.toList_ofList

/- They are words of symbols. -/
theorem of_mem_wordsOf
    {word : List Char}
    (hWord : word ∈ wordsOf name) :
    word ≠ [] ∧ ∀ c ∈ word, Symbol c := by
  rcases of_mem_runs hWord with ⟨hFull, hWanted⟩
  exact ⟨hFull, fun c hMem => (isSymbol_iff c).mp (hWanted c hMem)⟩

/- A slug is empty only without words. -/
theorem ofName_eq_empty_iff :
    ofName name = "" ↔ wordsOf name = [] := by
  rw [← String.toList_inj, toList_ofName]
  constructor
  · intro hEmpty
    by_contra hWords
    exact joinWith_ne_nil hWords
      (fun word hWord => (of_mem_wordsOf hWord).1) hEmpty
  · intro hWords
    rw [hWords]
    rfl

/- There are words if anything of the name is a symbol. -/
theorem wordsOf_ne_nil_iff :
    wordsOf name ≠ [] ↔
      ∃ c ∈ name.toList, ∃ d ∈ lowerCase c,
        (withoutAccent d).isAlphanum = true := by
  rw [wordsOf, runs_ne_nil_iff]
  constructor
  · rintro ⟨e, hMem, hSymbol⟩
    rcases List.mem_map.mp hMem with ⟨d, hLower, hEq⟩
    rcases List.mem_flatMap.mp hLower with ⟨c, hChar, hLeft⟩
    refine ⟨c, hChar, d, hLeft, ?_⟩
    rw [isAlphanum_iff_isSymbol hLeft, hEq]
    exact hSymbol
  · rintro ⟨c, hChar, d, hLeft, hLetter⟩
    rw [isAlphanum_iff_isSymbol hLeft] at hLetter
    exact ⟨_, List.mem_map_of_mem
      (List.mem_flatMap.mpr ⟨c, hChar, hLeft⟩), hLetter⟩

/- What a name is turned into is a slug, unless it is empty. -/
theorem ofName_spelled
    (hWords : wordsOf name ≠ []) :
    Spelled (ofName name) :=
  ⟨wordsOf name, hWords, fun _ hWord => of_mem_wordsOf hWord,
    toList_ofName name⟩

/- A slug is of one byte a character, without capitals. -/
theorem Spelled.plain
    (hSpelled : Spelled name) :
    ∀ c ∈ name.toList, c.toNat < 0x80 ∧ c.isUpper = false := by
  intro c hMem
  rcases hSpelled.symbol_or_dash c hMem with hSymbol | hDash
  · have hBounds := hSymbol.bounds
    refine ⟨by omega, ?_⟩
    rw [← Bool.not_eq_true, isUpper_iff_toNat]
    rcases hSymbol with ⟨hLow, _⟩ | ⟨_, hHigh⟩
    · have hLow : 0x61 ≤ c.toNat := hLow
      omega
    · have hHigh : c.toNat ≤ 0x39 := hHigh
      omega
  · rw [hDash]
    decide

/- So a slug is turned into itself. -/
theorem ofName_of_spelled
    (hSpelled : Spelled name) :
    ofName name = name := by
  have hSymbols := symbols_of_plain hSpelled.plain
  rcases hSpelled with ⟨words, _, hWords, hText⟩
  have hRuns : wordsOf name = words := by
    rw [wordsOf, hSymbols, hText]
    exact runs_joinWith rfl (fun word hWord =>
      ⟨(hWords word hWord).1, fun c hMem =>
        (isSymbol_iff c).mpr ((hWords word hWord).2 c hMem)⟩)
  rw [← String.toList_inj, toList_ofName, hRuns, hText]

/- A blank between two names keeps their words apart. -/
theorem wordsOf_append_blank
    (name other : String) :
    wordsOf (name ++ " " ++ other) =
      wordsOf name ++ wordsOf other := by
  have hBlank : symbols [' '] = [' '] := by
    apply symbols_of_plain
    intro c hMem
    rw [List.mem_singleton.mp hMem]
    decide
  have hText :
      (name ++ " " ++ other).toList =
        name.toList ++ ([' '] ++ other.toList) := by
    rw [String.toList_append, String.toList_append,
      List.append_assoc]
    rfl
  rw [wordsOf, hText, symbols_append, symbols_append, hBlank]
  exact runs_append_mark rfl _ _

end Questionnaire.Slug

------------------------------------------------------------
-- The Slug of a Name
------------------------------------------------------------

namespace Questionnaire

open Slug Text

/- One slug stays as it is, whether it is empty or not. -/
theorem Slug.intercalate_filter_singleton
    (slug : String) :
    "-".intercalate ([slug].filter (fun slug => !slug.isEmpty)) =
      slug := by
  cases hEmpty : slug.isEmpty with
  | true =>
      rw [List.filter_cons_of_neg (by simp [hEmpty]), List.filter_nil,
        String.intercalate_nil, String.isEmpty_iff.mp hEmpty]
  | false =>
      rw [List.filter_cons_of_pos (by simp [hEmpty]), List.filter_nil,
        String.intercalate_singleton]

/- The slugs of two names, joined if there are two. -/
theorem Slug.ofName_append_blank
    (name other : String) :
    ofName (name ++ " " ++ other) =
      "-".intercalate
        ([ofName name, ofName other].filter
          (fun slug => !slug.isEmpty)) := by
  have hSlug := toList_ofName (name ++ " " ++ other)
  rw [wordsOf_append_blank] at hSlug
  by_cases hName : wordsOf name = []
  · have hEmpty := ofName_eq_empty_iff.mpr hName
    rw [hName, List.nil_append, ← toList_ofName,
      String.toList_inj] at hSlug
    rw [hSlug, hEmpty, List.filter_cons_of_neg (by simp),
      intercalate_filter_singleton]
  · have hFull := mt ofName_eq_empty_iff.mp hName
    rw [List.filter_cons_of_pos (by simpa using hFull)]
    by_cases hOther : wordsOf other = []
    · have hEmpty := ofName_eq_empty_iff.mpr hOther
      rw [hOther, List.append_nil, ← toList_ofName,
        String.toList_inj] at hSlug
      rw [hSlug, hEmpty, List.filter_cons_of_neg (by simp),
        List.filter_nil, String.intercalate_singleton]
    · have hFullOther := mt ofName_eq_empty_iff.mp hOther
      rw [List.filter_cons_of_pos (by simpa using hFullOther),
        List.filter_nil, String.intercalate_cons_cons,
        String.intercalate_singleton, ← String.toList_inj, hSlug,
        joinWith_append hName hOther, String.toList_append,
        String.toList_append, toList_ofName, toList_ofName,
        List.append_assoc]
      rfl

/-
  What a name is turned into is a slug or empty, and it is empty
  exactly if no character has a letter or a digit for its lower
  case without accents.  The slugs are the names that stay as
  they are, the empty one aside; so a second turn changes
  nothing.  Names with a blank between them have the slugs of
  both, with a dash between them if neither is empty.
-/
theorem slug_of_name
    (name other : String) :
    (Slug.ofName name = "" ∨ Slug.isSlug (Slug.ofName name) = true) ∧
      (Slug.ofName name ≠ "" ↔
        ∃ c ∈ name.toList, ∃ d ∈ Text.lowerCase c,
          (Slug.withoutAccent d).isAlphanum = true) ∧
      (Slug.isSlug name = true ↔ Slug.Spelled name) ∧
      (Slug.isSlug name = true ↔
        name ≠ "" ∧ Slug.ofName name = name) ∧
      Slug.ofName (Slug.ofName name) = Slug.ofName name ∧
      Slug.ofName (name ++ " " ++ other) =
        "-".intercalate
          ([Slug.ofName name, Slug.ofName other].filter
            (fun slug => !slug.isEmpty)) := by
  have hEither (name : String) :
      ofName name = "" ∨ Spelled (ofName name) := by
    by_cases hWords : wordsOf name = []
    · exact .inl (ofName_eq_empty_iff.mpr hWords)
    · exact .inr (ofName_spelled hWords)
  refine ⟨?_, ?_, isSlug_iff name, ?_, ?_,
    ofName_append_blank name other⟩
  · rw [isSlug_iff]
    exact hEither name
  · rw [ne_eq, ofName_eq_empty_iff]
    exact wordsOf_ne_nil_iff
  · rw [isSlug_iff]
    constructor
    · intro hSpelled
      refine ⟨?_, ofName_of_spelled hSpelled⟩
      rintro rfl
      rcases hSpelled.exists_cons with ⟨c, rest, hText, _⟩
      exact absurd hText nofun
    · rintro ⟨hFull, hSame⟩
      rcases hEither name with hEmpty | hSpelled
      · exact absurd (hSame.symm.trans hEmpty) hFull
      · rw [← hSame]
        exact hSpelled
  · rcases hEither name with hEmpty | hSpelled
    · rw [hEmpty]
      exact ofName_eq_empty_iff.mpr rfl
    · exact ofName_of_spelled hSpelled

end Questionnaire
