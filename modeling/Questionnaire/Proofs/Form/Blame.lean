import Questionnaire.Form.Audit
import Questionnaire.Proofs.Results
import Questionnaire.Proofs.Text.Slug
import Mathlib.Data.List.Nodup

/-
  What an audit accepts, and what it blames otherwise.

  Key definitions include:
    * `Decides`
    * `IsFirstRepeated`
    * `Form.Sound`
    * `Form.Blames`

  A check decides between a condition and the errors that are to
  be named when it fails.  Two checks in a row decide whether
  both conditions hold, and the second is blamed only if the
  first holds (`Decides.andThen`); so an audit names what is wrong
  first (`audit_decided`).
-/

------------------------------------------------------------
-- Checks
------------------------------------------------------------

namespace Questionnaire

variable {ε : Type}

/-
  A check passes if a condition holds, and otherwise stops with
  the errors that are to be blamed.
-/
structure Decides
    (check : Except ε Unit)
    (sound : Prop)
    (blames : ε → Prop) : Prop where
  passes : check = .ok () ↔ sound
  stops : ∀ error, check = .error error ↔ blames error

namespace Decides

variable {check next : Except ε Unit}
variable {sound soundNext : Prop}
variable {blames blamesNext : ε → Prop}

theorem of_ok
    (hSound : sound)
    (hBlames : ∀ error, ¬ blames error) :
    Decides (.ok ()) sound blames :=
  ⟨iff_of_true rfl hSound,
    fun error => iff_of_false nofun (hBlames error)⟩

theorem of_error
    {failure : ε}
    (hSound : ¬ sound)
    (hBlames : ∀ error, blames error ↔ error = failure) :
    Decides (.error failure) sound blames := by
  refine ⟨iff_of_false nofun hSound, ?_⟩
  intro error
  rw [hBlames, Except.error.injEq]
  exact eq_comm

/- A second check is blamed only if the first one passes. -/
theorem andThen
    (hCheck : Decides check sound blames)
    (hNext : sound → Decides next soundNext blamesNext) :
    Decides (check >>= fun _ => next) (sound ∧ soundNext)
      (fun error => blames error ∨ (sound ∧ blamesNext error)) := by
  cases check with
  | ok =>
      have hHolds : sound := hCheck.passes.mp rfl
      have hNone (error : ε) : ¬ blames error :=
        fun hBlames => absurd ((hCheck.stops error).mpr hBlames) nofun
      refine ⟨?_, ?_⟩
      · rw [and_iff_right hHolds]
        exact (hNext hHolds).passes
      · intro error
        rw [or_iff_right (hNone error), and_iff_right hHolds]
        exact (hNext hHolds).stops error
  | error failure =>
      have hBroken : ¬ sound :=
        fun hHolds => absurd (hCheck.passes.mpr hHolds) nofun
      refine of_error (fun hBoth => hBroken hBoth.1) ?_
      intro error
      rw [or_iff_left (fun hBoth => hBroken hBoth.1),
        ← hCheck.stops, Except.error.injEq]
      exact eq_comm

/- A failure is blamed exactly on what it excludes. -/
theorem orFail
    (failure : ε)
    (isBad : Bool)
    (hNext : isBad = false → Decides next soundNext blamesNext) :
    Decides (if isBad then .error failure else next)
      (isBad = false ∧ soundNext)
      (fun error =>
        (isBad = true ∧ error = failure) ∨
          (isBad = false ∧ blamesNext error)) := by
  cases isBad with
  | true => exact of_error (by simp) (by simp)
  | false =>
      rcases hNext rfl with ⟨hPasses, hStops⟩
      exact ⟨by simpa using hPasses, by simpa using hStops⟩

/- What is found is blamed, if something is. -/
theorem of_found
    {α : Type}
    {found : Option α}
    {wrong : α → Prop}
    (failure : α → ε)
    (hPass : found = none → check = .ok ())
    (hFail :
      ∀ item, found = some item → check = .error (failure item))
    (hNone : found = none ↔ sound)
    (hSome : ∀ item, found = some item ↔ wrong item) :
    Decides check sound
      (fun error => ∃ item, wrong item ∧ error = failure item) := by
  cases found with
  | none =>
      rw [hPass rfl]
      refine of_ok (hNone.mp rfl) ?_
      rintro error ⟨item, hWrong, _⟩
      exact absurd ((hSome item).mpr hWrong) nofun
  | some item =>
      rw [hFail item rfl]
      refine
        of_error (fun hSound => absurd (hNone.mpr hSound) nofun) ?_
      intro error
      constructor
      · rintro ⟨other, hWrong, hError⟩
        rw [hError, Option.some.inj ((hSome other).mpr hWrong)]
      · exact fun hError => ⟨item, (hSome item).mp rfl, hError⟩

/- A result stands if the check before it passes. -/
theorem result
    {α : Type}
    (hCheck : Decides check sound blames)
    (value : α) :
    (∀ other,
        (check >>= fun _ => (.ok value : Except ε α)) = .ok other ↔
          sound ∧ other = value) ∧
      ∀ error,
        (check >>= fun _ => (.ok value : Except ε α)) =
            .error error ↔
          blames error := by
  cases check with
  | ok =>
      have hSound : sound := hCheck.passes.mp rfl
      refine ⟨?_, ?_⟩
      · intro other
        rw [and_iff_right hSound, eq_comm (a := other)]
        exact ⟨Except.ok.inj, congrArg Except.ok⟩
      · intro error
        rw [← hCheck.stops]
        exact ⟨nofun, nofun⟩
  | error failure =>
      refine ⟨?_, ?_⟩
      · intro other
        refine iff_of_false nofun (fun hBoth => ?_)
        exact absurd (hCheck.passes.mpr hBoth.1) nofun
      · intro error
        rw [← hCheck.stops]
        exact ⟨fun h => congrArg Except.error (Except.error.inj h),
          fun h => congrArg Except.error (Except.error.inj h)⟩

/- The condition and the errors may be said in other words. -/
theorem of_iff
    {other : Prop}
    {others : ε → Prop}
    (hCheck : Decides check sound blames)
    (hSound : sound ↔ other)
    (hBlames : ∀ error, blames error ↔ others error) :
    Decides check other others :=
  ⟨hCheck.passes.trans hSound,
    fun error => (hCheck.stops error).trans (hBlames error)⟩

end Decides

end Questionnaire

------------------------------------------------------------
-- Colours
------------------------------------------------------------

namespace Questionnaire

/- A hexadecimal digit, with a small letter or a capital one. -/
def HexDigit
    (c : Char) : Prop :=
  ('0' ≤ c ∧ c ≤ '9') ∨ ('a' ≤ c ∧ c ≤ 'f') ∨ ('A' ≤ c ∧ c ≤ 'F')

/- A hash sign with three or six hexadecimal digits. -/
def HexColor
    (text : String) : Prop :=
  ∃ digits,
    text.toList = '#' :: digits ∧
      (digits.length = 3 ∨ digits.length = 6) ∧
      ∀ c ∈ digits, HexDigit c

/- A colour of a palette can be used if it is blank or trimmed one. -/
def Usable
    (color : String) : Prop :=
  Text.isBlank color = true ∨ HexColor (Text.trim color)

theorem isHexDigit_iff
    (c : Char) :
    isHexDigit c = true ↔ HexDigit c := by
  simp only [isHexDigit, HexDigit, Char.isDigit, Bool.or_eq_true,
    Bool.and_eq_true, decide_eq_true_eq, or_assoc]
  exact Iff.rfl

theorem isHexColor_iff
    (text : String) :
    isHexColor text = true ↔ HexColor text := by
  unfold isHexColor HexColor
  split
  case h_1 digits hText =>
    simp only [hText, Bool.and_eq_true, Bool.or_eq_true, beq_iff_eq,
      List.all_eq_true, isHexDigit_iff]
    constructor
    · exact fun ⟨hLength, hDigits⟩ => ⟨digits, rfl, hLength, hDigits⟩
    · rintro ⟨others, hEq, hLength, hDigits⟩
      rw [(List.cons.inj hEq).2]
      exact ⟨hLength, hDigits⟩
  case h_2 hOther =>
    refine iff_of_false Bool.false_ne_true ?_
    rintro ⟨digits, hText, _⟩
    exact hOther digits hText

/-
  The colour that a page shows is the trimmed one, unless it is
  blank; the one that then stands for it can be used.
-/
theorem auditColor_decided
    (field : ColorField)
    {usual : String}
    (hUsual : HexColor usual)
    (color : String) :
    Decides (auditColor field ((Text.nonBlank? color).getD usual))
      (Usable color)
      (fun error =>
        ¬ Usable color ∧
          error = .badColor field (Text.trim color)) := by
  unfold Usable auditColor Text.nonBlank?
  cases hBlank : Text.isBlank color with
  | true =>
      rw [if_pos rfl, Option.getD_none,
        if_pos ((isHexColor_iff usual).mpr hUsual)]
      exact .of_ok (.inl rfl) (fun error hBad => hBad.1 (.inl rfl))
  | false =>
      rw [if_neg Bool.false_ne_true, Option.getD_some]
      by_cases hColor : isHexColor (Text.trim color) = true
      case pos =>
        have hHolds := (isHexColor_iff _).mp hColor
        rw [if_pos hColor]
        exact .of_ok (.inr hHolds)
          (fun error hBad => hBad.1 (.inr hHolds))
      case neg =>
        have hBroken :
            ¬ (false = true ∨ HexColor (Text.trim color)) := by
          rintro (hFalse | hHolds)
          · exact Bool.false_ne_true hFalse
          · exact hColor ((isHexColor_iff _).mpr hHolds)
        rw [if_neg hColor]
        exact .of_error hBroken (fun error => and_iff_right hBroken)

end Questionnaire

------------------------------------------------------------
-- Options
------------------------------------------------------------

namespace Questionnaire

/-
  The text is one of those before it, and these do not repeat
  themselves.
-/
def IsFirstRepeated
    (before texts : List String)
    (text : String) : Prop :=
  ∃ earlier later,
    texts = earlier ++ text :: later ∧
      (before ++ earlier).Nodup ∧
      text ∈ before ++ earlier

namespace IsFirstRepeated

variable {before texts : List String}
variable {first text : String}

/- One that was there before is the first that is repeated. -/
theorem cons_iff_of_mem
    (hBefore : before.Nodup)
    (hSeen : first ∈ before) :
    IsFirstRepeated before (first :: texts) text ↔ first = text := by
  constructor
  · rintro ⟨earlier, later, hTexts, hNodup, _⟩
    cases earlier with
    | nil => exact (List.cons.inj hTexts).1
    | cons other earlier =>
        rw [← (List.cons.inj hTexts).1, List.nodup_middle,
          List.nodup_cons] at hNodup
        exact absurd (List.mem_append_left _ hSeen) hNodup.1
  · intro hEq
    rw [← hEq]
    exact ⟨[], texts, rfl, by simpa using hBefore,
      by simpa using hSeen⟩

/- Any other one only comes to those that were there before. -/
theorem cons_iff_of_not_mem
    (hNew : first ∉ before) :
    IsFirstRepeated before (first :: texts) text ↔
      IsFirstRepeated (before ++ [first]) texts text := by
  constructor
  · rintro ⟨earlier, later, hTexts, hNodup, hText⟩
    cases earlier with
    | nil =>
        rw [← (List.cons.inj hTexts).1, List.append_nil] at hText
        exact absurd hText hNew
    | cons other earlier =>
        rcases List.cons.inj hTexts with ⟨hFirst, hRest⟩
        rw [← hFirst] at hNodup hText
        exact ⟨earlier, later, hRest, by simpa using hNodup,
          by simpa using hText⟩
  · rintro ⟨earlier, later, hTexts, hNodup, hText⟩
    exact ⟨first :: earlier, later, by rw [hTexts]; rfl,
      by simpa using hNodup, by simpa using hText⟩

end IsFirstRepeated

/-
  The search goes through the texts that are left, after those
  that were seen; these do not repeat themselves.
-/
theorem firstRepeated?_after
    {before : List String}
    (hBefore : before.Nodup)
    (texts : List String) :
    (firstRepeated? before.reverse texts = none ↔
        (before ++ texts).Nodup) ∧
      ∀ text,
        firstRepeated? before.reverse texts = some text ↔
          IsFirstRepeated before texts text := by
  induction texts generalizing before with
  | nil => simp [firstRepeated?, IsFirstRepeated, hBefore]
  | cons first texts ih =>
      by_cases hSeen : first ∈ before
      case pos =>
        have hFirst :
            firstRepeated? before.reverse (first :: texts) =
              some first := by
          simp [firstRepeated?, hSeen]
        rw [hFirst, List.nodup_middle, List.nodup_cons]
        refine ⟨iff_of_false nofun ?_, ?_⟩
        · exact fun hNodup =>
            hNodup.1 (List.mem_append_left _ hSeen)
        · intro text
          rw [Option.some.injEq,
            IsFirstRepeated.cons_iff_of_mem hBefore hSeen]
      case neg =>
        have hMore : (before ++ [first]).Nodup := by
          rw [List.nodup_middle, List.append_nil, List.nodup_cons]
          exact ⟨hSeen, hBefore⟩
        have hNext :
            firstRepeated? before.reverse (first :: texts) =
              firstRepeated? (before ++ [first]).reverse texts := by
          simp [firstRepeated?, hSeen]
        rcases ih hMore with ⟨hNone, hSome⟩
        rw [hNext]
        refine ⟨by simpa using hNone, ?_⟩
        intro text
        rw [hSome, IsFirstRepeated.cons_iff_of_not_mem hSeen]

/- Nothing is found among texts that do not repeat themselves. -/
theorem firstRepeated?_eq_none_iff
    (texts : List String) :
    firstRepeated? [] texts = none ↔ texts.Nodup :=
  (firstRepeated?_after List.nodup_nil texts).1

end Questionnaire

------------------------------------------------------------
-- Questions
------------------------------------------------------------

namespace Questionnaire

/- No id is blank or used twice, among questions or options. -/
structure Question.AllSound
    (questions : List Question) : Prop where
  named : ∀ question ∈ questions, Text.isBlank question.id = false
  distinct : (questions.map (·.id)).Nodup
  options :
    ∀ question ∈ questions, question.kind.isChoice = true →
      (question.options.map (·.id)).Nodup

/- What is wrong first with a question after others. -/
inductive Question.Blames
    (earlier : List Question)
    (question : Question) : FormError → Prop where
  | blankId
      (blank : Text.isBlank question.id = true) :
      Blames earlier question (.blankQuestionId (earlier.length + 1))
  | repeatedId
      (named : Text.isBlank question.id = false)
      (used : ∃ other ∈ earlier, other.id = question.id) :
      Blames earlier question (.repeatedQuestionId question.id)
  | repeatedOption
      {before later : List Choice}
      {option : Choice}
      (named : Text.isBlank question.id = false)
      (unused : ∀ other ∈ earlier, other.id ≠ question.id)
      (choice : question.kind.isChoice = true)
      (split : question.options = before ++ option :: later)
      (distinct : (before.map (·.id)).Nodup)
      (used : ∃ other ∈ before, other.id = option.id) :
      Blames earlier question
        (.repeatedOptionId question.id option.id)

namespace Question

variable {earlier questions : List Question}

/- What is sound is sound up to any place. -/
theorem AllSound.of_append
    (hSound : AllSound (earlier ++ questions)) :
    AllSound earlier := by
  constructor
  · exact fun question hMem =>
      hSound.named question (List.mem_append_left _ hMem)
  · have hDistinct := hSound.distinct
    rw [List.map_append] at hDistinct
    exact (List.nodup_append.mp hDistinct).1
  · exact fun question hMem =>
      hSound.options question (List.mem_append_left _ hMem)

/- One more question is sound if it is so after the others. -/
theorem allSound_snoc_iff
    (hEarlier : AllSound earlier)
    (question : Question) :
    AllSound (earlier ++ [question]) ↔
      Text.isBlank question.id = false ∧
        (∀ other ∈ earlier, other.id ≠ question.id) ∧
        (question.kind.isChoice = true →
          (question.options.map (·.id)).Nodup) := by
  constructor
  · intro hSound
    have hLast : question ∈ earlier ++ [question] :=
      List.mem_append_right _ (List.mem_singleton_self question)
    have hDistinct := hSound.distinct
    rw [List.map_append, List.nodup_append] at hDistinct
    refine ⟨hSound.named question hLast, ?_,
      hSound.options question hLast⟩
    intro other hOther
    exact hDistinct.2.2 other.id (List.mem_map_of_mem hOther)
      question.id (List.mem_singleton_self _)
  · rintro ⟨hNamed, hUnused, hOptions⟩
    have hEither {other : Question}
        (hMem : other ∈ earlier ++ [question]) :
        other ∈ earlier ∨ other = question := by
      rcases List.mem_append.mp hMem with hMem | hMem
      · exact .inl hMem
      · exact .inr (List.mem_singleton.mp hMem)
    constructor
    · intro other hMem
      rcases hEither hMem with hOther | hEq
      · exact hEarlier.named other hOther
      · rw [hEq]
        exact hNamed
    · rw [List.map_append, List.nodup_append]
      refine ⟨hEarlier.distinct, List.nodup_singleton _, ?_⟩
      intro id hId last hLast
      rcases List.mem_map.mp hId with ⟨other, hOther, hEq⟩
      rw [← hEq, List.mem_singleton.mp hLast]
      exact hUnused other hOther
    · intro other hMem
      rcases hEither hMem with hOther | hEq
      · exact hEarlier.options other hOther
      · rw [hEq]
        exact hOptions

/- The first option whose id was used, by the options themselves. -/
theorem firstRepeated?_options
    (options : List Choice)
    (id : String) :
    firstRepeated? [] (options.map (·.id)) = some id ↔
      ∃ before option later,
        options = before ++ option :: later ∧
          (before.map (·.id)).Nodup ∧
          (∃ other ∈ before, other.id = option.id) ∧
          option.id = id := by
  have hFirst :=
    (firstRepeated?_after List.nodup_nil (options.map (·.id))).2 id
  simp only [IsFirstRepeated, List.reverse_nil, List.nil_append]
    at hFirst
  rw [hFirst]
  constructor
  · rintro ⟨earlier, rest, hTexts, hNodup, hUsed⟩
    rcases List.map_eq_append_iff.mp hTexts with
      ⟨before, others, hOptions, hBefore, hOthers⟩
    rcases List.map_eq_cons_iff.mp hOthers with
      ⟨option, later, hSplit, hId, _⟩
    rw [← hBefore] at hNodup hUsed
    rcases List.mem_map.mp hUsed with ⟨other, hOther, hEq⟩
    exact ⟨before, option, later, by rw [hOptions, hSplit], hNodup,
      ⟨other, hOther, by rw [hEq, hId]⟩, hId⟩
  · rintro ⟨before, option, later, hOptions, hNodup, hUsed, hId⟩
    rcases hUsed with ⟨other, hOther, hEq⟩
    refine ⟨before.map (·.id), later.map (·.id), ?_, hNodup, ?_⟩
    · rw [hOptions, List.map_append, List.map_cons, hId]
    · rw [← hId, ← hEq]
      exact List.mem_map_of_mem hOther

/- The check of the options, which only a choice has. -/
theorem options_decided
    (question : Question) :
    Decides
      (match firstRepeated? [] (question.offered.map (·.id)) with
        | some optionId =>
            .error (FormError.repeatedOptionId question.id optionId)
        | none => .ok ())
      (question.kind.isChoice = true →
        (question.options.map (·.id)).Nodup)
      (fun error =>
        question.kind.isChoice = true ∧
          ∃ before option later,
            question.options = before ++ option :: later ∧
              (before.map (·.id)).Nodup ∧
              (∃ other ∈ before, other.id = option.id) ∧
              error = .repeatedOptionId question.id option.id) := by
  unfold offered
  cases question.kind.isChoice with
  | false =>
      exact .of_ok nofun (fun error hBlames => nomatch hBlames.1)
  | true =>
      rw [if_pos rfl]
      refine
        (Decides.of_found (FormError.repeatedOptionId question.id)
          ?_ ?_ (firstRepeated?_eq_none_iff _)
          (firstRepeated?_options question.options)).of_iff ?_ ?_
      · intro hFound
        rw [hFound]
      · intro id hFound
        rw [hFound]
      · simp
      · intro error
        constructor
        · rintro ⟨id, ⟨before, option, later, hSplit, hNodup, hUsed,
            hId⟩, hError⟩
          exact ⟨rfl, before, option, later, hSplit, hNodup, hUsed,
            by rw [hError, hId]⟩
        · rintro ⟨_, before, option, later, hSplit, hNodup, hUsed,
            hError⟩
          exact ⟨option.id,
            ⟨before, option, later, hSplit, hNodup, hUsed, rfl⟩,
            hError⟩

/- A question is checked after those before it. -/
theorem audit_decided
    (hEarlier : AllSound earlier)
    (question : Question) :
    Decides
      (question.audit (earlier.length + 1)
        (earlier.map (·.id)).reverse)
      (AllSound (earlier ++ [question]))
      (question.Blames earlier) := by
  have hUsed :
      ((earlier.map (·.id)).reverse.contains question.id = true ↔
        ∃ other ∈ earlier, other.id = question.id) := by
    simp
  have hUnused :
      ((earlier.map (·.id)).reverse.contains question.id = false ↔
        ∀ other ∈ earlier, other.id ≠ question.id) := by
    rw [← Bool.not_eq_true, hUsed]
    simp
  have hCheck :=
    Decides.orFail (.blankQuestionId (earlier.length + 1))
      (Text.isBlank question.id) (fun _ =>
        Decides.orFail (.repeatedQuestionId question.id)
          ((earlier.map (·.id)).reverse.contains question.id)
          (fun _ => options_decided question))
  have hAudit :
      Decides
        (question.audit (earlier.length + 1)
          (earlier.map (·.id)).reverse) _ _ :=
    hCheck
  refine hAudit.of_iff ?_ ?_
  · rw [allSound_snoc_iff hEarlier, hUnused]
  · intro error
    rw [hUsed, hUnused]
    constructor
    · rintro (⟨hBlank, hError⟩ | ⟨hNamed, ⟨hOld, hError⟩ |
        ⟨hNew, hChoice, before, option, later, hSplit, hNodup, hOther,
          hError⟩⟩)
      · rw [hError]
        exact .blankId hBlank
      · rw [hError]
        exact .repeatedId hNamed hOld
      · rw [hError]
        exact .repeatedOption hNamed hNew hChoice hSplit hNodup hOther
    · intro hBlames
      cases hBlames with
      | blankId blank => exact .inl ⟨blank, rfl⟩
      | repeatedId named used =>
          exact .inr ⟨named, .inl ⟨used, rfl⟩⟩
      | repeatedOption named unused choice split distinct used =>
          exact .inr ⟨named, .inr ⟨unused, choice, _, _, _, split,
            distinct, used, rfl⟩⟩

/-
  The first question that is not sound is blamed.  The induction
  is on the questions that are left, after those that are sound.
-/
theorem auditQuestions_decided
    (hEarlier : AllSound earlier)
    (questions : List Question) :
    Decides
      (auditQuestions (earlier.length + 1)
        (earlier.map (·.id)).reverse questions)
      (AllSound (earlier ++ questions))
      (fun error =>
        ∃ before question later,
          questions = before ++ question :: later ∧
            AllSound (earlier ++ before) ∧
            question.Blames (earlier ++ before) error) := by
  induction questions generalizing earlier with
  | nil =>
      rw [List.append_nil]
      exact .of_ok hEarlier (by simp)
  | cons question questions ih =>
      have hCheck :=
        (audit_decided hEarlier question).andThen
          (fun hSound => ih hSound)
      have hNext :
          auditQuestions (earlier.length + 1)
              (earlier.map (·.id)).reverse (question :: questions) =
            (question.audit (earlier.length + 1)
                (earlier.map (·.id)).reverse >>=
              fun _ =>
                auditQuestions ((earlier ++ [question]).length + 1)
                  ((earlier ++ [question]).map (·.id)).reverse
                  questions) := by
        simp [auditQuestions]
      rw [hNext]
      refine hCheck.of_iff ?_ ?_
      · rw [List.append_assoc]
        refine and_iff_right_of_imp (fun hSound => ?_)
        exact AllSound.of_append (by rwa [List.append_assoc])
      · intro error
        rw [exists_split_cons_iff, List.append_nil]
        -- What is sound behind the question is sound up to it.
        refine or_congr (and_iff_right hEarlier).symm ?_
        simp only [List.append_assoc, List.singleton_append]
        refine and_iff_right_of_imp ?_
        rintro ⟨before, _, _, _, hSound, _⟩
        have hBoth :
            AllSound ((earlier ++ [question]) ++ before) := by
          rwa [List.append_assoc]
        exact hBoth.of_append

end Question

end Questionnaire

------------------------------------------------------------
-- Forms
------------------------------------------------------------

namespace Questionnaire

namespace Form

/- What a page needs of its form. -/
structure Sound
    (form : Form) : Prop where
  named : Text.isBlank form.company.name = false
  slug : Slug.Spelled form.company.slug
  primary : Usable form.company.palette.primary
  secondary : Usable form.company.palette.secondary
  questions : Question.AllSound form.questions

/- What is wrong first with a form. -/
inductive Blames
    (form : Form) : FormError → Prop where
  | blankName
      (blank : Text.isBlank form.company.name = true) :
      Blames form (.blankField .companyName)
  | blankSlug
      (named : Text.isBlank form.company.name = false)
      (blank : Text.isBlank form.company.slug = true) :
      Blames form (.blankField .slug)
  | badSlug
      (named : Text.isBlank form.company.name = false)
      (given : Text.isBlank form.company.slug = false)
      (bad : ¬ Slug.Spelled form.company.slug) :
      Blames form (.badSlug form.company.slug)
  | badPrimary
      (named : Text.isBlank form.company.name = false)
      (slug : Slug.Spelled form.company.slug)
      (bad : ¬ Usable form.company.palette.primary) :
      Blames form
        (.badColor .primary (Text.trim form.company.palette.primary))
  | badSecondary
      (named : Text.isBlank form.company.name = false)
      (slug : Slug.Spelled form.company.slug)
      (primary : Usable form.company.palette.primary)
      (bad : ¬ Usable form.company.palette.secondary) :
      Blames form
        (.badColor .secondary
          (Text.trim form.company.palette.secondary))
  | question
      {earlier later : List Question}
      {question : Question}
      {error : FormError}
      (named : Text.isBlank form.company.name = false)
      (slug : Slug.Spelled form.company.slug)
      (primary : Usable form.company.palette.primary)
      (secondary : Usable form.company.palette.secondary)
      (split : form.questions = earlier ++ question :: later)
      (sound : Question.AllSound earlier)
      (blames : question.Blames earlier error) :
      Blames form error

/- The name and the slug are checked first. -/
theorem auditName_decided
    (company : Company) :
    Decides company.auditName
      (Text.isBlank company.name = false ∧
        Slug.Spelled company.slug)
      (fun error =>
        (Text.isBlank company.name = true ∧
            error = .blankField .companyName) ∨
          (Text.isBlank company.name = false ∧
            ((Text.isBlank company.slug = true ∧
                error = .blankField .slug) ∨
              (Text.isBlank company.slug = false ∧
                ¬ Slug.Spelled company.slug ∧
                error = .badSlug company.slug)))) := by
  have hPass :
      Decides (.ok () : Except FormError Unit) True
        (fun _ => False) :=
    .of_ok trivial (fun _ => id)
  have hCheck :=
    Decides.orFail (FormError.blankField .companyName)
      (Text.isBlank company.name) (fun _ =>
        Decides.orFail (FormError.blankField .slug)
          (Text.isBlank company.slug) (fun _ =>
            Decides.orFail (FormError.badSlug company.slug)
              (!Slug.isSlug company.slug) (fun _ => hPass)))
  have hAudit : Decides company.auditName _ _ := hCheck
  have hSlug :
      (!Slug.isSlug company.slug) = false ↔
        Slug.Spelled company.slug := by
    rw [Bool.not_eq_false', Slug.isSlug_iff]
  have hBad :
      (!Slug.isSlug company.slug) = true ↔
        ¬ Slug.Spelled company.slug := by
    rw [← hSlug, Bool.not_eq_false]
  refine hAudit.of_iff ?_ ?_
  · rw [hSlug, and_true]
    constructor
    · exact fun ⟨hName, _, hSpelled⟩ => ⟨hName, hSpelled⟩
    · exact fun ⟨hName, hSpelled⟩ =>
        ⟨hName, hSpelled.isBlank_eq_false, hSpelled⟩
  · intro error
    rw [hBad, and_false, or_false]

/- The checks of a form, one after the other. -/
theorem checks_decided
    (form : Form) :
    Decides
      (do
        form.company.auditName
        auditColor .primary form.company.primary
        auditColor .secondary form.company.secondary
        auditQuestions 1 [] form.questions)
      form.Sound form.Blames := by
  have hUsual : HexColor "#ff8533" ∧ HexColor "#ffc933" :=
    ⟨(isHexColor_iff _).mp rfl, (isHexColor_iff _).mp rfl⟩
  have hNone : Question.AllSound [] :=
    ⟨by simp, List.nodup_nil, by simp⟩
  have hChecks :=
    (auditName_decided form.company).andThen (fun _ =>
      (auditColor_decided .primary hUsual.1
          form.company.palette.primary).andThen (fun _ =>
        (auditColor_decided .secondary hUsual.2
            form.company.palette.secondary).andThen (fun _ =>
          Question.auditQuestions_decided hNone form.questions)))
  refine hChecks.of_iff ?_ ?_
  · rw [List.nil_append]
    constructor
    · exact fun ⟨⟨hName, hSlug⟩, hPrimary, hSecondary, hQuestions⟩ =>
        ⟨hName, hSlug, hPrimary, hSecondary, hQuestions⟩
    · exact fun ⟨hName, hSlug, hPrimary, hSecondary, hQuestions⟩ =>
        ⟨⟨hName, hSlug⟩, hPrimary, hSecondary, hQuestions⟩
  · intro error
    constructor
    · rintro (hName | ⟨⟨hName, hSlug⟩, hPrimary |
        ⟨hPrimary, hSecondary | ⟨hSecondary, hQuestion⟩⟩⟩)
      · rcases hName with ⟨hBlank, hError⟩ | ⟨hNamed, hSlug⟩
        · rw [hError]
          exact .blankName hBlank
        · rcases hSlug with ⟨hBlank, hError⟩ | ⟨hGiven, hBad, hError⟩
          · rw [hError]
            exact .blankSlug hNamed hBlank
          · rw [hError]
            exact .badSlug hNamed hGiven hBad
      · rw [hPrimary.2]
        exact .badPrimary hName hSlug hPrimary.1
      · rw [hSecondary.2]
        exact .badSecondary hName hSlug hPrimary hSecondary.1
      · rcases hQuestion with
          ⟨before, question, later, hSplit, hSound, hBlames⟩
        exact .question hName hSlug hPrimary hSecondary hSplit hSound
          hBlames
    · intro hBlames
      cases hBlames with
      | blankName blank => exact .inl (.inl ⟨blank, rfl⟩)
      | blankSlug named blank =>
          exact .inl (.inr ⟨named, .inl ⟨blank, rfl⟩⟩)
      | badSlug named given bad =>
          exact .inl (.inr ⟨named, .inr ⟨given, bad, rfl⟩⟩)
      | badPrimary named slug bad =>
          exact .inr ⟨⟨named, slug⟩, .inl ⟨bad, rfl⟩⟩
      | badSecondary named slug primary bad =>
          exact .inr ⟨⟨named, slug⟩, .inr ⟨primary, .inl ⟨bad, rfl⟩⟩⟩
      | question named slug primary secondary split sound blames =>
          exact .inr ⟨⟨named, slug⟩, .inr ⟨primary, .inr ⟨secondary,
            _, _, _, split, sound, blames⟩⟩⟩

/- The warnings, by the questions and rules that they are about. -/
theorem warnings_eq
    (form : Form) :
    form.warnings =
      form.questions.filterMap (fun question =>
          if question.kind.isChoice = true ∧
              question.options = [] then
            some (.noOptions question.id)
          else
            none)
        ++ form.criteria.rules.filterMap (fun rule =>
          if ∃ question ∈ form.questions,
              question.id = rule.questionId then
            none
          else
            some (.danglingRule rule.id rule.questionId)) := by
  have hGuard {α β : Type} (p : α → Bool) (f : α → β)
      (list : List α) :
      (list.filter p).map f =
        list.filterMap
          (fun x => if p x then some (f x) else none) := by
    rw [← List.filterMap_eq_filter, List.map_filterMap]
    refine List.filterMap_congr (fun x _ => ?_)
    cases hCase : p x <;> simp [Option.guard, hCase]
  rw [warnings, hGuard, hGuard]
  congr 1
  · refine List.filterMap_congr (fun question _ => ?_)
    simp [Question.lacksOptions]
  · refine List.filterMap_congr (fun rule _ => ?_)
    have hKnown :
        form.questionIds.contains rule.questionId = true ↔
          ∃ question ∈ form.questions,
            question.id = rule.questionId := by
      simp [questionIds]
    by_cases hQuestion :
        ∃ question ∈ form.questions, question.id = rule.questionId
    · rw [if_pos hQuestion, hKnown.mpr hQuestion]
      rfl
    · rw [if_neg hQuestion,
        Bool.eq_false_iff.mpr (fun h => hQuestion (hKnown.mp h))]
      rfl

end Form

/-
  An audit passes exactly if a form is sound, with one warning
  for each choice without options and then one for each rule
  without a question; otherwise it names what is wrong first.
-/
theorem audit_exact
    (form : Form) :
    (∀ warnings,
        form.audit = .ok warnings ↔
          form.Sound ∧
            warnings =
              form.questions.filterMap (fun question =>
                  if question.kind.isChoice = true ∧
                      question.options = [] then
                    some (.noOptions question.id)
                  else
                    none)
                ++ form.criteria.rules.filterMap (fun rule =>
                  if ∃ question ∈ form.questions,
                      question.id = rule.questionId then
                    none
                  else
                    some (.danglingRule rule.id rule.questionId))) ∧
      ∀ error, form.audit = .error error ↔ form.Blames error := by
  have hDecided := form.checks_decided
  have hAudit :
      form.audit =
        ((do
            form.company.auditName
            auditColor .primary form.company.primary
            auditColor .secondary form.company.secondary
            auditQuestions 1 [] form.questions) >>=
          fun _ => .ok form.warnings) := by
    simp only [bind_assoc]
    rfl
  rw [hAudit, ← form.warnings_eq]
  exact hDecided.result form.warnings

end Questionnaire
