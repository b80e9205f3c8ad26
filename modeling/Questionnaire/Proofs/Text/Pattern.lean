import Mathlib.Computability.Language

/-
  Patterns, and how a text is searched for them.

  Key definitions include:
    * `Pattern`
    * `Pattern.texts`
    * `Pattern.rests`
    * `Pattern.fits`
    * `Pattern.find?`
    * `IsLongest`
    * `IsFirstMatch`

  A pattern stands for a language.  A search tries the ways to
  match in an order of its own: a repetition is first tried with
  as many rounds as there are, and with fewer when what comes
  after it does not match.  What it can leave of a text is just
  what the language allows (`Pattern.mem_rests_iff`), so that a
  whole text fits if it is in the language
  (`Pattern.fits_iff`).
-/

------------------------------------------------------------
-- Patterns
------------------------------------------------------------

namespace Questionnaire.Text

open Computability

/-
  A character of a class, one pattern after another, or a
  pattern any number of times.
-/
inductive Pattern where
  | among (holds : Char → Bool)
  | followed (first second : Pattern)
  | repeated (round : Pattern)

namespace Pattern

/- A pattern at least once. -/
def oneOrMore
    (pattern : Pattern) : Pattern :=
  .followed pattern (.repeated pattern)

/- The texts that a pattern stands for. -/
def texts : Pattern → Language Char
  | .among holds => {text | ∃ c, holds c = true ∧ text = [c]}
  | .followed first second => first.texts * second.texts
  | .repeated round => round.texts∗

/-
  What may be left after a number of rounds, the most rounds
  first.  A round that takes nothing is not made.
-/
def afterRounds
    (round : List Char → List (List Char)) :
    Nat → List Char → List (List Char)
  | 0, text => [text]
  | rounds + 1, text =>
      ((round text).filter
          (fun rest => rest.length < text.length)).flatMap
        (afterRounds round rounds)
        ++ [text]

/- What may be left of a text, in the order of a search. -/
def rests : Pattern → List Char → List (List Char)
  | .among _, [] => []
  | .among holds, c :: text => if holds c then [text] else []
  | .followed first second, text =>
      (first.rests text).flatMap second.rests
  | .repeated round, text =>
      afterRounds round.rests text.length text

/- Whether a search can leave nothing of a text. -/
def fits
    (pattern : Pattern)
    (text : List Char) : Bool :=
  (pattern.rests text).any List.isEmpty

/-
  The first match in a text: where it begins, the search takes
  the first of the ways to go on.
-/
def find?
    (pattern : Pattern) : List Char → Option (List Char)
  | [] => (pattern.rests []).head?
  | c :: text =>
      match (pattern.rests (c :: text)).head? with
      | some rest =>
          some ((c :: text).take ((c :: text).length - rest.length))
      | none => pattern.find? text

end Pattern

/- No longer text of a language begins where one was found. -/
def IsLongest
    (language : Language Char)
    (found after : List Char) : Prop :=
  ∀ longer rest,
    found ++ after = longer ++ rest →
      longer ∈ language → longer.length ≤ found.length

/-
  A text of a language that begins before all others, and is
  the longest of those that begin there.
-/
structure IsFirstMatch
    (language : Language Char)
    (before found after : List Char) : Prop where
  matched : found ∈ language
  leftmost :
    ∀ start other rest,
      before ++ (found ++ after) = start ++ (other ++ rest) →
        other ∈ language → before.length ≤ start.length
  longest : IsLongest language found after

end Questionnaire.Text

------------------------------------------------------------
-- The Texts of a Pattern
------------------------------------------------------------

namespace Questionnaire.Text.Pattern

open Computability

variable {holds : Char → Bool}
variable {first second round : Pattern}
variable {text : List Char}

theorem mem_texts_among :
    text ∈ (among holds).texts ↔ ∃ c, holds c = true ∧ text = [c] :=
  Iff.rfl

theorem mem_texts_followed :
    text ∈ (followed first second).texts ↔
      ∃ found ∈ first.texts, ∃ rest ∈ second.texts,
        found ++ rest = text :=
  Language.mem_mul

theorem mem_texts_repeated :
    text ∈ (repeated round).texts ↔
      ∃ words : List (List Char),
        text = words.flatten ∧ ∀ word ∈ words, word ∈ round.texts :=
  Language.mem_kstar

/- A repeated class takes the texts of its characters. -/
theorem mem_texts_repeated_among :
    text ∈ (repeated (among holds)).texts ↔
      ∀ c ∈ text, holds c = true := by
  rw [mem_texts_repeated]
  constructor
  · rintro ⟨words, hText, hWords⟩ c hMem
    rw [hText] at hMem
    rcases List.mem_flatten.mp hMem with ⟨word, hWord, hChar⟩
    rcases mem_texts_among.mp (hWords word hWord) with
      ⟨d, hHolds, hEq⟩
    rw [hEq, List.mem_singleton] at hChar
    rw [hChar]
    exact hHolds
  · intro hText
    refine ⟨text.map (fun c => [c]), ?_, ?_⟩
    · rw [← List.flatMap_def, List.flatMap_singleton']
    · intro word hWord
      rcases List.mem_map.mp hWord with ⟨c, hMem, hEq⟩
      exact ⟨c, hText c hMem, hEq.symm⟩

/- At least one of them, if the class comes once or more. -/
theorem mem_texts_oneOrMore_among :
    text ∈ (among holds).oneOrMore.texts ↔
      text ≠ [] ∧ ∀ c ∈ text, holds c = true := by
  rw [oneOrMore, mem_texts_followed]
  constructor
  · rintro ⟨found, ⟨c, hHolds, hFound⟩, rest, hRest, hText⟩
    rw [hFound, List.singleton_append] at hText
    rw [← hText]
    exact ⟨List.cons_ne_nil c rest,
      List.forall_mem_cons.mpr
        ⟨hHolds, mem_texts_repeated_among.mp hRest⟩⟩
  · rintro ⟨hSome, hText⟩
    cases text with
    | nil => exact absurd rfl hSome
    | cons c text =>
        rcases List.forall_mem_cons.mp hText with ⟨hHolds, hRest⟩
        exact ⟨[c], ⟨c, hHolds, rfl⟩, text,
          mem_texts_repeated_among.mpr hRest, rfl⟩

end Questionnaire.Text.Pattern

------------------------------------------------------------
-- The Rests of a Text
------------------------------------------------------------

namespace Questionnaire.Text.Pattern

open Computability

/- Rounds of a language leave what its repetition leaves. -/
theorem mem_afterRounds_iff
    {round : List Char → List (List Char)}
    {language : Language Char}
    (hRound :
      ∀ text rest,
        rest ∈ round text ↔
          ∃ found ∈ language, text = found ++ rest)
    {rounds : Nat}
    {text : List Char}
    (hRounds : text.length ≤ rounds)
    (rest : List Char) :
    rest ∈ afterRounds round rounds text ↔
      ∃ found ∈ language∗, text = found ++ rest := by
  induction rounds generalizing text with
  | zero =>
      have hNil : text = [] :=
        List.eq_nil_of_length_eq_zero (Nat.le_zero.mp hRounds)
      rw [hNil, afterRounds, List.mem_singleton]
      constructor
      · intro hRest
        exact ⟨[], Language.nil_mem_kstar language, hRest.symm⟩
      · rintro ⟨found, _, hText⟩
        exact (List.append_eq_nil_iff.mp hText.symm).2
  | succ rounds ih =>
      rw [afterRounds, List.mem_append, List.mem_flatMap,
        List.mem_singleton]
      constructor
      · rintro (⟨next, hNext, hRest⟩ | hRest)
        · rcases List.mem_filter.mp hNext with ⟨hMem, hShorter⟩
          have hLess : next.length < text.length :=
            of_decide_eq_true hShorter
          rcases (hRound text next).mp hMem with
            ⟨found, hFound, hText⟩
          rcases (ih (by omega)).mp hRest with
            ⟨more, hMore, hNextText⟩
          refine ⟨found ++ more, ?_, ?_⟩
          · exact Set.mem_of_mem_of_subset
              (Language.append_mem_mul hFound hMore)
              (mul_kstar_le_kstar (a := language))
          · rw [hText, hNextText, List.append_assoc]
        · exact ⟨[], Language.nil_mem_kstar language, hRest.symm⟩
      · rintro ⟨found, hFound, hText⟩
        rcases Language.mem_kstar_iff_exists_nonempty.mp hFound with
          ⟨words, hWords, hEach⟩
        cases words with
        | nil =>
            rw [hWords] at hText
            exact .inr hText.symm
        | cons word words =>
            -- The first word is a round that takes something.
            rcases hEach word List.mem_cons_self with
              ⟨hWord, hSome⟩
            have hSplit :
                text = word ++ (words.flatten ++ rest) := by
              rw [hText, hWords, List.flatten_cons,
                List.append_assoc]
            have hLength := congrArg List.length hSplit
            rw [List.length_append] at hLength
            have hPos := List.length_pos_iff.mpr hSome
            refine .inl ⟨words.flatten ++ rest, ?_, ?_⟩
            · rw [List.mem_filter, hRound, decide_eq_true_eq]
              exact ⟨⟨word, hWord, hSplit⟩, by omega⟩
            · refine (ih (by omega)).mpr ⟨words.flatten, ?_, rfl⟩
              exact Language.join_mem_kstar
                (fun other hOther =>
                  (hEach other
                    (List.mem_cons_of_mem word hOther)).1)

/- A search leaves just what follows a text of the pattern. -/
theorem mem_rests_iff
    (pattern : Pattern)
    (text rest : List Char) :
    rest ∈ pattern.rests text ↔
      ∃ found ∈ pattern.texts, text = found ++ rest := by
  induction pattern generalizing text rest with
  | among holds =>
      cases text with
      | nil =>
          constructor
          · intro hRest
            exact absurd hRest List.not_mem_nil
          · rintro ⟨_, ⟨c, _, hFound⟩, hText⟩
            rw [hFound] at hText
            exact absurd hText.symm (List.cons_ne_nil c rest)
      | cons c text =>
          rw [rests]
          constructor
          · intro hRest
            split at hRest
            case isTrue hHolds =>
              rw [List.mem_singleton.mp hRest]
              exact ⟨[c], ⟨c, hHolds, rfl⟩, rfl⟩
            case isFalse => exact absurd hRest List.not_mem_nil
          · rintro ⟨_, ⟨d, hHolds, hFound⟩, hText⟩
            rw [hFound, List.singleton_append] at hText
            rcases List.cons.inj hText with ⟨hChar, hRest⟩
            rw [hChar, if_pos hHolds, hRest]
            exact List.mem_singleton_self rest
  | followed first second ihFirst ihSecond =>
      rw [rests, List.mem_flatMap]
      constructor
      · rintro ⟨next, hNext, hRest⟩
        rcases (ihFirst text next).mp hNext with
          ⟨found, hFound, hText⟩
        rcases (ihSecond next rest).mp hRest with
          ⟨more, hMore, hNextText⟩
        refine ⟨found ++ more, ?_, ?_⟩
        · exact Language.append_mem_mul hFound hMore
        · rw [hText, hNextText, List.append_assoc]
      · rintro ⟨both, hBoth, hText⟩
        rcases mem_texts_followed.mp hBoth with
          ⟨found, hFound, more, hMore, hEq⟩
        rw [← hEq, List.append_assoc] at hText
        exact ⟨more ++ rest,
          (ihFirst text _).mpr ⟨found, hFound, hText⟩,
          (ihSecond _ rest).mpr ⟨more, hMore, rfl⟩⟩
  | repeated round ih =>
      exact mem_afterRounds_iff ih (Nat.le_refl _) rest

/- A text fits a pattern if it is one of its texts. -/
theorem fits_iff
    (pattern : Pattern)
    (text : List Char) :
    pattern.fits text = true ↔ text ∈ pattern.texts := by
  rw [fits, List.any_eq_true]
  constructor
  · rintro ⟨rest, hRest, hEmpty⟩
    rcases (mem_rests_iff pattern text rest).mp hRest with
      ⟨found, hFound, hText⟩
    rw [List.isEmpty_iff.mp hEmpty, List.append_nil] at hText
    rw [hText]
    exact hFound
  · intro hText
    refine ⟨[], ?_, rfl⟩
    exact (mem_rests_iff pattern text []).mpr
      ⟨text, hText, (List.append_nil text).symm⟩

end Questionnaire.Text.Pattern

------------------------------------------------------------
-- The First Way to Match
------------------------------------------------------------

namespace Questionnaire.Text.Pattern

variable {first second pattern : Pattern}
variable {holds : Char → Bool}
variable {round : List Char → List (List Char)}
variable {rounds : Nat}
variable {c : Char}
variable {text next rest : List Char}

theorem rests_among_cons
    (hHolds : holds c = true)
    (text : List Char) :
    (among holds).rests (c :: text) = [text] := by
  rw [rests, if_pos hHolds]

/- A class does not match where none of its characters stands. -/
theorem rests_among_of_none
    (hNone : ∀ c ∈ text.head?, holds c = false) :
    (among holds).rests text = [] := by
  cases text with
  | nil => rfl
  | cons c text =>
      rw [rests, hNone c rfl, if_neg Bool.false_ne_true]

/- The first way of two patterns goes on the first way of one. -/
theorem head?_rests_followed
    (hFirst : (first.rests text).head? = some next)
    (hSecond : (second.rests next).head? = some rest) :
    ((followed first second).rests text).head? = some rest := by
  rcases List.head?_eq_some_iff.mp hFirst with ⟨others, hCons⟩
  rw [rests, hCons, List.flatMap_cons, List.head?_append, hSecond,
    Option.some_or]

/- Where the first pattern does not match, both do not. -/
theorem rests_followed_of_nil
    (hFirst : first.rests text = []) :
    (followed first second).rests text = [] := by
  rw [rests, hFirst, List.flatMap_nil]

/- Where there is one way for the first, the second goes on. -/
theorem rests_followed_of_singleton
    (hFirst : first.rests text = [next]) :
    (followed first second).rests text = second.rests next := by
  rw [rests, hFirst, List.flatMap_singleton]

/- A round that takes something is made. -/
theorem head?_afterRounds_of_round
    (hRound : (round text).head? = some next)
    (hLess : next.length < text.length)
    (hNext : (afterRounds round rounds next).head? = some rest) :
    (afterRounds round (rounds + 1) text).head? = some rest := by
  rcases List.head?_eq_some_iff.mp hRound with ⟨others, hCons⟩
  have hMade :
      (round text).filter (fun rest => rest.length < text.length) =
        next
          :: others.filter
            (fun rest => rest.length < text.length) := by
    rw [hCons]
    exact List.filter_cons_of_pos (by simpa using hLess)
  rw [afterRounds, hMade, List.flatMap_cons, List.append_assoc,
    List.head?_append, hNext, Option.some_or]

/- Where no round matches, none is made. -/
theorem head?_afterRounds_of_nil
    (hRound : round text = [])
    (rounds : Nat) :
    (afterRounds round rounds text).head? = some text := by
  cases rounds with
  | zero => rfl
  | succ rounds =>
      rw [afterRounds, hRound, List.filter_nil, List.flatMap_nil,
        List.nil_append, List.head?_singleton]

/- A repeated class takes all of its characters. -/
theorem head?_afterRounds_among
    (hRounds : text.length ≤ rounds) :
    (afterRounds (among holds).rests rounds text).head? =
      some (text.dropWhile holds) := by
  induction text generalizing rounds with
  | nil => exact head?_afterRounds_of_nil rfl rounds
  | cons c text ih =>
      by_cases hHolds : holds c = true
      · cases rounds with
        | zero => exact absurd hRounds (Nat.not_succ_le_zero _)
        | succ rounds =>
            have hRound :
                ((among holds).rests (c :: text)).head? =
                  some text := by
              rw [rests_among_cons hHolds, List.head?_singleton]
            rw [List.dropWhile_cons_of_pos hHolds]
            exact head?_afterRounds_of_round hRound
              (Nat.lt_succ_self _)
              (ih (Nat.le_of_succ_le_succ hRounds))
      · rw [List.dropWhile_cons_of_neg hHolds]
        apply head?_afterRounds_of_nil
        rw [rests, if_neg hHolds]

/- So it does where it has to match at least one. -/
theorem head?_rests_oneOrMore_among
    (hHolds : holds c = true)
    (text : List Char) :
    ((among holds).oneOrMore.rests (c :: text)).head? =
      some (text.dropWhile holds) := by
  have hFirst :
      ((among holds).rests (c :: text)).head? = some text := by
    rw [rests_among_cons hHolds, List.head?_singleton]
  exact head?_rests_followed hFirst
    (head?_afterRounds_among (Nat.le_refl _))

/- A search passes over a place where nothing matches. -/
theorem find?_cons_of_nil
    (hNone : pattern.rests (c :: text) = []) :
    pattern.find? (c :: text) = pattern.find? text := by
  rw [find?, hNone]
  rfl

/- What is found is what the first way to match takes. -/
theorem find?_of_head?
    {found : List Char}
    (hFirst : (pattern.rests (found ++ rest)).head? = some rest) :
    pattern.find? (found ++ rest) = some found := by
  have hTake :
      (found ++ rest).take
          ((found ++ rest).length - rest.length) =
        found := by
    rw [List.length_append, Nat.add_sub_cancel, List.take_left]
  cases hText : found ++ rest with
  | nil =>
      rcases List.append_eq_nil_iff.mp hText with ⟨hFound, hRest⟩
      rw [hText, hRest] at hFirst
      rw [find?, hFirst, hFound]
  | cons c text =>
      rw [hText] at hFirst hTake
      rw [find?, hFirst]
      simp only [hTake]

end Questionnaire.Text.Pattern
