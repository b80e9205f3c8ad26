import Questionnaire.Json.Parse
import Questionnaire.Proofs.Json.Layout

/-
  Texts inside a script element, and what readers make of them.

  Key definitions include:
    * `Json.embed`
    * `Json.Sorts`
    * `Reader.CarriesOver`
    * `Reader.Survives`

  A text is embedded character by character, without regard to
  what it spells.  A reader carries over if its result is the
  same on the embedded text, and what it leaves is embedded; it
  is enough that each of its steps does.
-/

------------------------------------------------------------
-- Embedded Texts
------------------------------------------------------------

namespace Questionnaire

namespace Json

/- A text as it stands inside a script element. -/
def embed
    (text : List Char) : List Char :=
  text.flatMap embeddedChar

theorem toList_embedded
    (text : String) :
    (embedded text).toList = embed text.toList := by
  unfold embedded
  rw [String.toList_ofList]
  rfl

/- What holds of the five characters holds of the unsafe ones. -/
theorem of_isUnsafe
    {holds : Char → Prop}
    {c : Char}
    (hUnsafe : isUnsafe c = true)
    (hFive :
      holds '<' ∧ holds '>' ∧ holds '&' ∧ holds '\u2028' ∧
        holds '\u2029') :
    holds c := by
  rcases hFive with ⟨hLess, hGreater, hAnd, hLine, hParagraph⟩
  simp only [isUnsafe, Bool.or_eq_true, beq_iff_eq] at hUnsafe
  rcases hUnsafe with (((hEq | hEq) | hEq) | hEq) | hEq
  all_goals
    rw [hEq]
    assumption

/- So an unsafe character is none of those that are safe. -/
theorem ne_of_isUnsafe
    {c d : Char}
    (hUnsafe : isUnsafe c = true)
    (hSafe : isUnsafe d = false) :
    c ≠ d := by
  intro hEq
  rw [hEq, hSafe] at hUnsafe
  exact Bool.false_ne_true hUnsafe

theorem embed_cons_of_safe
    {c : Char}
    (hSafe : isUnsafe c = false)
    (rest : List Char) :
    embed (c :: rest) = c :: embed rest := by
  simp [embed, embeddedChar, hSafe]

theorem embed_cons_of_isUnsafe
    {c : Char}
    (hUnsafe : isUnsafe c = true)
    (rest : List Char) :
    embed (c :: rest) = spelled c ++ embed rest := by
  simp [embed, embeddedChar, hUnsafe]

/- Nothing unsafe is left, as its spelling is safe. -/
theorem not_unsafe_of_mem_embed
    {text : List Char}
    {c : Char}
    (hMem : c ∈ embed text) :
    isUnsafe c = false := by
  rcases List.mem_flatMap.mp hMem with ⟨d, _, hChar⟩
  exact not_unsafe_embeddedChar hChar

/- A text without unsafe characters stays as it is. -/
theorem embed_of_safe
    {text : List Char}
    (hSafe : ∀ c ∈ text, isUnsafe c = false) :
    embed text = text := by
  induction text with
  | nil => rfl
  | cons c text ih =>
      rw [embed_cons_of_safe (hSafe c List.mem_cons_self), ih]
      intro other hOther
      exact hSafe other (List.mem_cons_of_mem _ hOther)

/- A spelling is never shorter, so no rounds are lost. -/
theorem length_le_embed
    (text : List Char) :
    text.length ≤ (embed text).length := by
  induction text with
  | nil => exact Nat.le_refl 0
  | cons c text ih =>
      cases hUnsafe : isUnsafe c with
      | false =>
          rw [embed_cons_of_safe hUnsafe, List.length_cons,
            List.length_cons]
          omega
      | true =>
          rw [embed_cons_of_isUnsafe hUnsafe, List.length_append,
            List.length_cons]
          have hSpelled : (spelled c).length = 6 := rfl
          omega

end Json

end Questionnaire

------------------------------------------------------------
-- Characters That Pass a Test
------------------------------------------------------------

namespace Questionnaire

open Json

/-
  A test that holds neither of an unsafe character nor of the
  backslash that its spelling begins with.
-/
structure Json.Sorts
    (test : Char → Bool) : Prop where
  safe : ∀ c, isUnsafe c = true → test c = false
  backslash : test '\\' = false

namespace Json.Sorts

variable {test : Char → Bool}

/- Such a test is passed as far as before, by the same text. -/
theorem span_embed
    (hSorts : Sorts test)
    (text : List Char) :
    (embed text).takeWhile test = text.takeWhile test ∧
      (embed text).dropWhile test = embed (text.dropWhile test) := by
  induction text with
  | nil => exact ⟨rfl, rfl⟩
  | cons c text ih =>
      cases hUnsafe : isUnsafe c with
      | true =>
          have hEmbed := embed_cons_of_isUnsafe hUnsafe text
          have hFails := hSorts.safe c hUnsafe
          rw [List.takeWhile_cons_of_neg (by simp [hFails]),
            List.dropWhile_cons_of_neg (by simp [hFails]), hEmbed,
            spelled, List.cons_append,
            List.takeWhile_cons_of_neg (by simp [hSorts.backslash]),
            List.dropWhile_cons_of_neg (by simp [hSorts.backslash])]
          exact ⟨rfl, rfl⟩
      | false =>
          rw [embed_cons_of_safe hUnsafe]
          cases hTest : test c with
          | true =>
              rw [List.takeWhile_cons_of_pos hTest,
                List.takeWhile_cons_of_pos hTest,
                List.dropWhile_cons_of_pos hTest,
                List.dropWhile_cons_of_pos hTest, ih.1, ih.2]
              exact ⟨rfl, rfl⟩
          | false =>
              rw [List.takeWhile_cons_of_neg (by simp [hTest]),
                List.takeWhile_cons_of_neg (by simp [hTest]),
                List.dropWhile_cons_of_neg (by simp [hTest]),
                List.dropWhile_cons_of_neg (by simp [hTest]),
                embed_cons_of_safe hUnsafe]
              exact ⟨rfl, rfl⟩

/- It holds of the next character exactly if it did before. -/
theorem any_head?_embed
    (hSorts : Sorts test)
    (text : List Char) :
    (embed text).head?.any test = text.head?.any test := by
  cases text with
  | nil => rfl
  | cons c text =>
      cases hUnsafe : isUnsafe c with
      | false =>
          rw [embed_cons_of_safe hUnsafe]
          rfl
      | true =>
          rw [embed_cons_of_isUnsafe hUnsafe, spelled,
            List.cons_append, List.head?_cons, List.head?_cons,
            Option.any_some, Option.any_some, hSorts.backslash,
            hSorts.safe c hUnsafe]

end Json.Sorts

/- Blanks and digits are safe, and no backslash is one. -/
theorem sorts_isBlank :
    Sorts Reader.isBlank where
  safe c hUnsafe := by
    apply of_isUnsafe hUnsafe
    exact ⟨rfl, rfl, rfl, rfl, rfl⟩
  backslash := rfl

theorem sorts_isDigit :
    Sorts Char.isDigit where
  safe c hUnsafe := by
    apply of_isUnsafe hUnsafe
    exact ⟨rfl, rfl, rfl, rfl, rfl⟩
  backslash := rfl

end Questionnaire

------------------------------------------------------------
-- Readers That Carry Over
------------------------------------------------------------

namespace Questionnaire

namespace Reader

open Json

variable {α β σ : Type}

/-
  Whatever result a reader has on a text, another one has on
  the embedded text, and what it leaves is embedded as well.
-/
def CarriesOver
    (text : List Char)
    (reader other : Reader α) : Prop :=
  ∀ result rest,
    reader text = .ok (result, rest) →
      other (embed text) = .ok (result, embed rest)

/- A reader whose results are the same on embedded texts. -/
def Survives
    (reader : Reader α) : Prop :=
  ∀ text, CarriesOver text reader reader

namespace CarriesOver

variable {text rest : List Char}
variable {reader other : Reader α}

/- Nothing is asked of a reader that has no result. -/
theorem of_error
    {fault : Fault}
    (hError : reader text = .error fault) :
    CarriesOver text reader other := by
  intro result rest hRead
  rw [hError] at hRead
  nomatch hRead

theorem pure
    (value : α) :
    CarriesOver text (Pure.pure value) (Pure.pure value) := by
  intro result rest hRead
  cases hRead
  rfl

/- Two steps carry over one after the other. -/
theorem bind
    {next later : α → Reader β}
    (hFirst : CarriesOver text reader other)
    (hNext :
      ∀ value rest, CarriesOver rest (next value) (later value)) :
    CarriesOver text (reader >>= next) (other >>= later) := by
  intro result rest hRead
  cases hValue : reader text with
  | error fault =>
      have hFault : (reader >>= next) text = .error fault := by
        simp [Bind.bind, StateT.bind, hValue, Except.bind]
      rw [hFault] at hRead
      nomatch hRead
  | ok found =>
      rcases found with ⟨value, middle⟩
      rw [bind_of_ok hValue] at hRead
      rw [bind_of_ok (hFirst value middle hValue)]
      exact hNext value middle result rest hRead

/- A result may be changed once it is read. -/
theorem map
    {change : α → β}
    (hFirst : CarriesOver text reader other) :
    CarriesOver text
      (reader >>= fun value => Pure.pure (change value))
      (other >>= fun value => Pure.pure (change value)) := by
  apply hFirst.bind
  intro value rest
  exact .pure (change value)

/- What is left of a text was embedded when it is looked at. -/
theorem get
    {next later : List Char → Reader α}
    (hNext : CarriesOver text (next text) (later (embed text))) :
    CarriesOver text (MonadState.get >>= next)
      (MonadState.get >>= later) :=
  hNext

/-
  A reader that looks at the next character sees it as before
  if it is safe, and otherwise sees how it is spelled.
-/
theorem look
    {next : List Char → Reader α}
    (hNil : CarriesOver [] (next []) (next []))
    (hSafe :
      ∀ c rest, isUnsafe c = false →
        CarriesOver (c :: rest) (next (c :: rest))
          (next (c :: embed rest)))
    (hUnsafe :
      ∀ c rest, isUnsafe c = true →
        CarriesOver (c :: rest) (next (c :: rest))
          (next (spelled c ++ embed rest))) :
    CarriesOver text (MonadState.get >>= next)
      (MonadState.get >>= next) := by
  apply CarriesOver.get
  cases text with
  | nil => exact hNil
  | cons c rest =>
      cases hKind : isUnsafe c with
      | false =>
          rw [embed_cons_of_safe hKind]
          exact hSafe c rest hKind
      | true =>
          rw [embed_cons_of_isUnsafe hKind]
          exact hUnsafe c rest hKind

theorem set
    {next later : PUnit → Reader α}
    (hNext : CarriesOver rest (next ⟨⟩) (later ⟨⟩)) :
    CarriesOver text (MonadStateOf.set rest >>= next)
      (MonadStateOf.set (embed rest) >>= later) :=
  hNext

/- Only safe characters are passed over one by one. -/
theorem skip
    {c : Char}
    (hSafe : isUnsafe c = false) :
    CarriesOver (c :: rest) Reader.skip Reader.skip := by
  intro result more hRead
  cases hRead
  rw [embed_cons_of_safe hSafe]
  rfl

/- A safe character may be passed over before the next step. -/
theorem past
    {c : Char}
    {next later : Unit → Reader α}
    (hSafe : isUnsafe c = false)
    (hNext : CarriesOver rest (next ()) (later ())) :
    CarriesOver (c :: rest)
      (Reader.skip >>= next) (Reader.skip >>= later) := by
  intro result more hRead
  rw [embed_cons_of_safe hSafe]
  exact hNext result more hRead

/-
  Blanks are no unsafe characters.  Where an unsafe character
  is seen next in a text, a backslash is seen when it is
  embedded.
-/
theorem peek
    {next : Option Char → Reader α}
    (hNone : CarriesOver [] (next none) (next none))
    (hSafe :
      ∀ c rest, isUnsafe c = false →
        CarriesOver (c :: rest) (next (some c)) (next (some c)))
    (hUnsafe :
      ∀ c rest, isUnsafe c = true →
        CarriesOver (c :: rest) (next (some c)) (next (some '\\'))) :
    CarriesOver text (Reader.peek >>= next)
      (Reader.peek >>= next) := by
  have hSpan := (sorts_isBlank.span_embed text).2
  intro result rest hRead
  have hSeen :
      Reader.peek text =
        .ok ((text.dropWhile isBlank).head?,
          text.dropWhile isBlank) :=
    rfl
  have hSeenEmbedded :
      Reader.peek (embed text) =
        .ok ((embed (text.dropWhile isBlank)).head?,
          embed (text.dropWhile isBlank)) := by
    rw [← hSpan]
    rfl
  rw [bind_of_ok hSeen] at hRead
  rw [bind_of_ok hSeenEmbedded]
  cases hLeft : text.dropWhile isBlank with
  | nil =>
      rw [hLeft] at hRead
      exact hNone result rest hRead
  | cons c more =>
      rw [hLeft] at hRead
      cases hKind : isUnsafe c with
      | true =>
          have hEmbedded := hUnsafe c more hKind result rest hRead
          rw [embed_cons_of_isUnsafe hKind] at hEmbedded ⊢
          exact hEmbedded
      | false =>
          have hEmbedded := hSafe c more hKind result rest hRead
          rw [embed_cons_of_safe hKind] at hEmbedded ⊢
          exact hEmbedded

/- Most readers stop where they see an unsafe character. -/
theorem peek_refusing
    {next : Option Char → Reader α}
    (cause : Cause)
    (hNone : CarriesOver [] (next none) (next none))
    (hSafe :
      ∀ c rest, isUnsafe c = false →
        CarriesOver (c :: rest) (next (some c)) (next (some c)))
    (hRefused :
      ∀ c, isUnsafe c = true → next (some c) = failNext cause) :
    CarriesOver text (Reader.peek >>= next)
      (Reader.peek >>= next) := by
  apply CarriesOver.peek hNone hSafe
  intro c rest hUnsafe
  rw [hRefused c hUnsafe]
  exact .of_error rfl

end CarriesOver

/- A loop carries over if its rounds do, and has enough rounds. -/
theorem carriesOver_loopAlong
    {step : σ → Reader (σ ⊕ α)}
    (hStep : ∀ state, Survives (step state))
    {along others : List Char}
    (hEnough : along.length ≤ others.length)
    (state : σ)
    (text : List Char) :
    CarriesOver text (loopAlong step along state)
      (loopAlong step others state) := by
  induction along generalizing others state text with
  | nil => exact .of_error rfl
  | cons c along ih =>
      cases others with
      | nil => simp at hEnough
      | cons d others =>
          rw [loopAlong, loopAlong]
          apply CarriesOver.bind (hStep state text)
          intro outcome rest
          cases outcome with
          | inl next =>
              exact ih (Nat.le_of_succ_le_succ hEnough) next rest
          | inr result => exact .pure result

/- So a loop carries over if each of its rounds does. -/
theorem Survives.loop
    {step : σ → Reader (σ ⊕ α)}
    (hStep : ∀ state, Survives (step state))
    (state : σ) :
    Survives (Reader.loop step state) := by
  intro text
  have hEnough :
      (' ' :: text).length ≤ (' ' :: embed text).length :=
    Nat.succ_le_succ (length_le_embed text)
  exact carriesOver_loopAlong hStep hEnough state text

end Reader

end Questionnaire
