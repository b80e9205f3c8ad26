import Mathlib
import Questionnaire.Submission.Basic

/-
  Which texts are taken for addresses on the web.

  Key definitions include:
    * `Url.Opens`
    * `Url.OnWeb`

  An address begins with one of the two schemes of the web, in
  small letters or capitals, and the name of a host.  Since the
  long s counts as an s without regard to case, a text that
  begins with the secure scheme in this spelling is taken for an
  address as well (`address_used_iff`).
-/

------------------------------------------------------------
-- Openings
------------------------------------------------------------

namespace Questionnaire.Url

/-
  A text begins in a given way, whichever of its Latin letters
  are capitals, and goes on with what can begin a host.
-/
def Opens
    (opening text : String) : Prop :=
  ∃ letters c rest,
    text.toList = letters ++ c :: rest ∧
      letters.map Char.toLower = opening.toList ∧
      Text.isSpace c = false ∧ c ≠ '/' ∧ c ≠ '?' ∧ c ≠ '#'

/- A text begins as an address on the web does. -/
def OnWeb
    (text : String) : Prop :=
  Opens "http://" text ∨ Opens "https://" text

theorem beginsHost_iff
    (c : Char) :
    beginsHost c = true ↔
      Text.isSpace c = false ∧ c ≠ '/' ∧ c ≠ '?' ∧ c ≠ '#' := by
  simp [beginsHost, and_assoc]

end Questionnaire.Url

------------------------------------------------------------
-- Letters in Either Case
------------------------------------------------------------

namespace Questionnaire.Url

variable {letter c : Char}
variable {letters text rest : List Char}

/- What has a letter in lower case is the letter or its capital. -/
theorem toLower_eq_iff
    (hSmall : letter.isUpper = false) :
    c.toLower = letter ↔ c = letter ∨ c = letter.toUpper := by
  have hSelf : letter.toLower = letter :=
    Char.toLower_eq_of_not_isUpper (by simp [hSmall])
  constructor
  · intro hLower
    by_cases hCapital : c.isUpper = true
    · right
      rw [← hLower, Char.toUpper_toLower_eq_toUpper,
        Char.toUpper_eq_of_not_isLower
          (Char.not_isLower_of_isUpper hCapital)]
    · left
      rw [← hLower, Char.toLower_eq_of_not_isUpper hCapital]
  · rintro (hEq | hEq)
    · rw [hEq, hSelf]
    · rw [hEq, Char.toLower_toUpper_eq_toLower, hSelf]

theorem isLetter_iff
    (hSmall : letter.isUpper = false) :
    isLetter letter c = true ↔
      c.toLower = letter ∨ (letter = 's' ∧ c = 'ſ') := by
  rw [toLower_eq_iff hSmall]
  simp [isLetter]

/- Letters are dropped in two parts as they are at once. -/
theorem dropLetters?_append
    (letters more text : List Char) :
    dropLetters? (letters ++ more) text =
      (dropLetters? letters text).bind (dropLetters? more) := by
  induction letters generalizing text with
  | nil => rfl
  | cons letter letters ih =>
      cases text with
      | nil => rfl
      | cons c text =>
          rw [List.cons_append, dropLetters?, dropLetters?]
          split
          · exact ih text
          · rfl

/- Small letters that are no s are dropped in either case. -/
theorem dropLetters?_eq_some_iff
    (hLetters :
      ∀ letter ∈ letters, letter.isUpper = false ∧ letter ≠ 's') :
    dropLetters? letters text = some rest ↔
      ∃ head,
        text = head ++ rest ∧ head.map Char.toLower = letters := by
  induction letters generalizing text with
  | nil => simp [dropLetters?]
  | cons letter letters ih =>
      rcases hLetters letter List.mem_cons_self with ⟨hSmall, hOther⟩
      have hOthers :
          ∀ other ∈ letters, other.isUpper = false ∧ other ≠ 's' :=
        fun other hMem =>
          hLetters other (List.mem_cons_of_mem letter hMem)
      have hRest (text : List Char) :
          dropLetters? letters text = some rest ↔
            ∃ head,
              text = head ++ rest ∧
                head.map Char.toLower = letters :=
        ih hOthers
      have hLetter (c : Char) :
          isLetter letter c = true ↔ c.toLower = letter := by
        rw [isLetter_iff hSmall]
        exact or_iff_left (fun hBoth => hOther hBoth.1)
      cases text with
      | nil => simp [dropLetters?]
      | cons c text =>
          rw [dropLetters?]
          constructor
          · intro hDrop
            split at hDrop
            case isTrue hIs =>
              rcases (hRest text).mp hDrop with ⟨head, hText, hHead⟩
              refine ⟨c :: head, ?_, ?_⟩
              · rw [hText]
                rfl
              · rw [List.map_cons, (hLetter c).mp hIs, hHead]
            case isFalse => exact absurd hDrop nofun
          · rintro ⟨head, hText, hHead⟩
            rcases List.map_eq_cons_iff.mp hHead with
              ⟨d, more, hCons, hFirst, hMore⟩
            rw [hCons, List.cons_append] at hText
            rcases List.cons.inj hText with ⟨hEq, hText⟩
            rw [if_pos ((hLetter c).mpr (hEq ▸ hFirst))]
            exact (hRest text).mpr ⟨more, hText, hMore⟩

end Questionnaire.Url

------------------------------------------------------------
-- Schemes
------------------------------------------------------------

namespace Questionnaire.Url

variable {c : Char}
variable {text rest : List Char}

/- The letters that both schemes begin with. -/
def schemeLetters : List Char :=
  ['h', 't', 't', 'p']

/- What stands between a scheme and a host. -/
def schemeMarks : List Char :=
  [':', '/', '/']

/- The letters are dropped in either case. -/
theorem dropLetters?_schemeLetters :
    dropLetters? schemeLetters text = some rest ↔
      ∃ head,
        text = head ++ rest ∧
          head.map Char.toLower = schemeLetters :=
  dropLetters?_eq_some_iff (by simp [schemeLetters])

/- A character that has a mark in lower case is the mark. -/
theorem eq_of_toLower_mem_schemeMarks
    (hMem : c.toLower ∈ schemeMarks) :
    c.toLower = c := by
  have hMarks : ∀ mark ∈ schemeMarks, mark.isLower = false := by
    simp [schemeMarks]
  apply Char.toLower_eq_of_not_isUpper
  intro hCapital
  have hLower : c.toLower.isLower = true := by
    rw [Char.isLower_toLower_eq_isAlpha, Char.isAlpha, hCapital,
      Bool.true_or]
  rw [hMarks c.toLower hMem] at hLower
  exact Bool.noConfusion hLower

theorem small_schemeMarks :
    ∀ mark ∈ schemeMarks, mark.isUpper = false ∧ mark ≠ 's' := by
  simp [schemeMarks]

/- The marks are dropped as they stand. -/
theorem dropLetters?_schemeMarks :
    dropLetters? schemeMarks text = some rest ↔
      text = schemeMarks ++ rest := by
  rw [dropLetters?_eq_some_iff small_schemeMarks]
  constructor
  · rintro ⟨head, hText, hHead⟩
    have hSame : head.map Char.toLower = head := by
      refine (List.map_congr_left ?_).trans (List.map_id' head)
      intro c hMem
      apply eq_of_toLower_mem_schemeMarks
      rw [← hHead]
      exact List.mem_map_of_mem hMem
    rw [hText, ← hHead, hSame]
  · intro hText
    exact ⟨schemeMarks, hText, rfl⟩

/- No s is the mark after a scheme. -/
theorem dropLetters?_schemeMarks_of_s
    (hLetter : isLetter 's' c = true) :
    dropLetters? schemeMarks (c :: rest) = none := by
  have hOther : c ≠ ':' := by
    rintro rfl
    exact absurd hLetter (by decide)
  rw [Option.eq_none_iff_forall_not_mem]
  intro left hLeft
  exact hOther (List.cons.inj (dropLetters?_schemeMarks.mp hLeft)).1

/- What is left after the secure scheme and its marks. -/
theorem dropLetters?_secure
    (c : Char)
    (rest : List Char) :
    dropLetters? ('s' :: schemeMarks) (c :: rest) =
      if isLetter 's' c then
        dropLetters? schemeMarks rest
      else
        none :=
  rfl

/- An s is a letter that is s or the long s in lower case. -/
theorem isLetter_s_iff :
    isLetter 's' c = true ↔ c.toLower = 's' ∨ c.toLower = 'ſ' := by
  have hLong : c.toLower = 'ſ' ↔ c = 'ſ' := by
    rw [toLower_eq_iff (by decide)]
    exact or_self_iff
  rw [isLetter_iff (by decide), hLong]
  simp

/- What has one letter between the parts of a scheme. -/
theorem map_toLower_eq_iff
    {head : List Char}
    {letter : Char} :
    head.map Char.toLower = schemeLetters ++ letter :: schemeMarks ↔
      ∃ first c last,
        head = first ++ c :: last ∧
          first.map Char.toLower = schemeLetters ∧
          c.toLower = letter ∧
          last.map Char.toLower = schemeMarks := by
  rw [List.map_eq_append_iff]
  constructor
  · rintro ⟨first, others, hHead, hFirst, hOthers⟩
    rcases List.map_eq_cons_iff.mp hOthers with
      ⟨c, last, hCons, hLetter, hLast⟩
    exact ⟨first, c, last, hCons ▸ hHead, hFirst, hLetter, hLast⟩
  · rintro ⟨first, c, last, hHead, hFirst, hLetter, hLast⟩
    refine ⟨first, c :: last, hHead, hFirst, ?_⟩
    rw [List.map_cons, hLetter, hLast]

/- So the secure scheme is dropped in either of two spellings. -/
theorem dropLetters?_secure_eq_some_iff :
    dropLetters? (schemeLetters ++ 's' :: schemeMarks) text =
        some rest ↔
      ∃ head,
        text = head ++ rest ∧
          (head.map Char.toLower =
              schemeLetters ++ 's' :: schemeMarks ∨
            head.map Char.toLower =
              schemeLetters ++ 'ſ' :: schemeMarks) := by
  rw [dropLetters?_append, Option.bind_eq_some_iff]
  constructor
  · rintro ⟨middle, hFirst, hRest⟩
    rcases dropLetters?_schemeLetters.mp hFirst with
      ⟨first, hText, hHead⟩
    cases middle with
    | nil => exact absurd hRest nofun
    | cons c middle =>
        rw [dropLetters?_secure] at hRest
        split at hRest
        case isTrue hLetter =>
          refine ⟨first ++ c :: schemeMarks, ?_, ?_⟩
          · rw [hText, dropLetters?_schemeMarks.mp hRest,
              List.append_assoc]
            rfl
          · rcases isLetter_s_iff.mp hLetter with hShort | hLong
            · exact .inl (map_toLower_eq_iff.mpr
                ⟨first, c, schemeMarks, rfl, hHead, hShort, rfl⟩)
            · exact .inr (map_toLower_eq_iff.mpr
                ⟨first, c, schemeMarks, rfl, hHead, hLong, rfl⟩)
        case isFalse => exact absurd hRest nofun
  · rintro ⟨head, hText, hHead⟩
    have hParts :
        ∃ first c last,
          head = first ++ c :: last ∧
            first.map Char.toLower = schemeLetters ∧
            isLetter 's' c = true ∧
            last.map Char.toLower = schemeMarks := by
      rcases hHead with hHead | hHead
      · rcases map_toLower_eq_iff.mp hHead with
          ⟨first, c, last, hHead, hFirst, hLetter, hLast⟩
        exact ⟨first, c, last, hHead, hFirst,
          isLetter_s_iff.mpr (.inl hLetter), hLast⟩
      · rcases map_toLower_eq_iff.mp hHead with
          ⟨first, c, last, hHead, hFirst, hLetter, hLast⟩
        exact ⟨first, c, last, hHead, hFirst,
          isLetter_s_iff.mpr (.inr hLetter), hLast⟩
    rcases hParts with ⟨first, c, last, hHead, hFirst, hLetter, hLast⟩
    refine ⟨c :: (last ++ rest), ?_, ?_⟩
    · apply dropLetters?_schemeLetters.mpr
      refine ⟨first, ?_, hFirst⟩
      rw [hText, hHead, List.append_assoc]
      rfl
    · rw [dropLetters?_secure, if_pos hLetter]
      exact (dropLetters?_eq_some_iff small_schemeMarks).mpr
        ⟨last, rfl, hLast⟩

/-
  After a scheme and the marks is left what is left after one of
  the two schemes.
-/
theorem afterScheme?_bind_eq_some_iff :
    (afterScheme? text).bind (dropLetters? schemeMarks) = some rest ↔
      dropLetters? (schemeLetters ++ schemeMarks) text = some rest ∨
        dropLetters? (schemeLetters ++ 's' :: schemeMarks) text =
          some rest := by
  have hLetters : ['h', 't', 't', 'p'] = schemeLetters := rfl
  rw [afterScheme?, hLetters, dropLetters?_append,
    dropLetters?_append]
  cases dropLetters? schemeLetters text with
  | none => simp
  | some left =>
      cases left with
      | nil => simp [dropLetters?, schemeMarks]
      | cons c left =>
          simp only [Option.bind_some, dropLetters?_secure]
          cases hLetter : isLetter 's' c with
          | true => simp [dropLetters?_schemeMarks_of_s hLetter]
          | false => simp

/- An address has a host after its scheme. -/
theorem isAbsolute_iff_host
    (text : String) :
    isAbsolute text = true ↔
      ∃ c rest,
        (afterScheme? text.toList).bind (dropLetters? schemeMarks) =
            some (c :: rest) ∧
          beginsHost c = true := by
  unfold isAbsolute
  constructor
  · intro hAbsolute
    split at hAbsolute
    case h_1 c rest hLeft =>
      refine ⟨c, rest, ?_, hAbsolute⟩
      rw [hLeft]
      exact dropLetters?_schemeMarks.mpr rfl
    case h_2 => exact absurd hAbsolute Bool.false_ne_true
  · rintro ⟨c, rest, hLeft, hHost⟩
    rcases Option.bind_eq_some_iff.mp hLeft with
      ⟨left, hScheme, hMarks⟩
    rw [hScheme, dropLetters?_schemeMarks.mp hMarks]
    exact hHost

end Questionnaire.Url

------------------------------------------------------------
-- Addresses
------------------------------------------------------------

namespace Questionnaire.Url

variable {text : String}

/- A text opens with what is dropped if a host is left. -/
theorem opens_iff
    (opening text : String) :
    Opens opening text ↔
      ∃ c rest,
        (∃ head,
            text.toList = head ++ c :: rest ∧
              head.map Char.toLower = opening.toList) ∧
          beginsHost c = true := by
  simp only [beginsHost_iff]
  constructor
  · rintro ⟨head, c, rest, hText, hHead, hHost⟩
    exact ⟨c, rest, ⟨head, hText, hHead⟩, hHost⟩
  · rintro ⟨c, rest, ⟨head, hText, hHead⟩, hHost⟩
    exact ⟨head, c, rest, hText, hHead, hHost⟩

/-
  A text is taken for an address if it opens as one on the web
  does, or in the same way with a long s.
-/
theorem isAbsolute_iff
    (text : String) :
    isAbsolute text = true ↔
      OnWeb text ∨ Opens "httpſ://" text := by
  have hPlain : "http://".toList = schemeLetters ++ schemeMarks := rfl
  have hSecure :
      "https://".toList = schemeLetters ++ 's' :: schemeMarks := rfl
  have hLong :
      "httpſ://".toList = schemeLetters ++ 'ſ' :: schemeMarks := rfl
  have hDropped (text rest : List Char) :
      dropLetters? (schemeLetters ++ schemeMarks) text = some rest ↔
        ∃ head,
          text = head ++ rest ∧
            head.map Char.toLower = schemeLetters ++ schemeMarks :=
    dropLetters?_eq_some_iff (by simp [schemeLetters, schemeMarks])
  rw [isAbsolute_iff_host, OnWeb, opens_iff, opens_iff, opens_iff,
    hPlain, hSecure, hLong]
  simp only [afterScheme?_bind_eq_some_iff, hDropped,
    dropLetters?_secure_eq_some_iff, and_or_left, or_and_right,
    exists_or, or_assoc]

/- How a text opens is seen in its lower case. -/
theorem Opens.lowerCase
    {opening text : String}
    {index : Nat}
    (hOpens : Opens opening text)
    (hIndex : index < opening.toList.length) :
    (text.toList.map Char.toLower)[index]? =
      opening.toList[index]? := by
  rcases hOpens with ⟨letters, c, rest, hText, hLetters, _⟩
  rw [hText, List.map_append, hLetters,
    List.getElem?_append_left hIndex]

/- With a long s no text opens as one on the web does. -/
theorem not_onWeb_of_longS
    {text : String}
    (hOpens : Opens "httpſ://" text) :
    ¬ OnWeb text := by
  have hFifth : (text.toList.map Char.toLower)[4]? = some 'ſ' :=
    hOpens.lowerCase (by decide)
  rintro (hPlain | hSecure)
  · rw [hPlain.lowerCase (by decide)] at hFifth
    exact absurd hFifth (by decide)
  · rw [hSecure.lowerCase (by decide)] at hFifth
    exact absurd hFifth (by decide)

end Questionnaire.Url

------------------------------------------------------------
-- Addresses in Use
------------------------------------------------------------

namespace Questionnaire

open Url

/- A target is used if it is an address when it is trimmed. -/
theorem Url.usable?_eq_some_iff
    (target address : String) :
    usable? target = some address ↔
      address = Text.trim target ∧ isAbsolute address = true := by
  have hUsable :
      usable? target =
        if isAbsolute (Text.trim target) then
          some (Text.trim target)
        else
          none :=
    rfl
  rw [hUsable]
  constructor
  · intro hSome
    split at hSome
    case isTrue hAbsolute =>
      rw [← Option.some.inj hSome]
      exact ⟨rfl, hAbsolute⟩
    case isFalse => exact absurd hSome nofun
  · rintro ⟨hEq, hAbsolute⟩
    rw [hEq] at hAbsolute
    rw [hEq, if_pos hAbsolute]

/- A submission has what can be used of the target of its status. -/
theorem Submission.addresses_make
    (status : Status)
    (targets : Targets)
    (answers : Answers)
    (now : Instant) :
    (make status targets answers now).webhook =
        usable? (targets.forStatus status).webhook ∧
      (make status targets answers now).redirect =
        usable? (targets.forStatus status).redirect := by
  constructor
  · simp only [make]
  · simp only [make]

/-
  A text is taken for an address if it opens with one of the two
  schemes of the web, its letters in either case, and a host; or
  else, which no such text does, with the secure scheme spelled
  with a long s.  A submission has the trimmed target of its
  status where that is such an address, and none otherwise.
-/
theorem address_used_iff
    (text address : String)
    (status : Status)
    (targets : Targets)
    (answers : Answers)
    (now : Instant) :
    (isAbsolute text = true ↔ OnWeb text ∨ Opens "httpſ://" text) ∧
      ¬ (OnWeb text ∧ Opens "httpſ://" text) ∧
      ((Submission.make status targets answers now).webhook =
          some address ↔
        address = Text.trim (targets.forStatus status).webhook ∧
          (OnWeb address ∨ Opens "httpſ://" address)) ∧
      ((Submission.make status targets answers now).redirect =
          some address ↔
        address = Text.trim (targets.forStatus status).redirect ∧
          (OnWeb address ∨ Opens "httpſ://" address)) := by
  refine ⟨isAbsolute_iff text, ?_, ?_⟩
  · rintro ⟨hWeb, hLong⟩
    exact not_onWeb_of_longS hLong hWeb
  · rcases Submission.addresses_make status targets answers now with
      ⟨hWebhook, hRedirect⟩
    rw [← isAbsolute_iff, hWebhook, hRedirect]
    exact ⟨usable?_eq_some_iff _ address,
      usable?_eq_some_iff _ address⟩

/-
  An address with a long s is taken for one and used as it is,
  although it does not open as one on the web does.
-/
theorem longS_used :
    isAbsolute "httpſ://example.com" = true ∧
      ¬ OnWeb "httpſ://example.com" ∧
      (Submission.make .qualified
          ⟨⟨"httpſ://example.com", ""⟩, ⟨"", ""⟩⟩ .empty
          ⟨0, 0⟩).webhook =
        some "httpſ://example.com" := by
  have hAbsolute : isAbsolute "httpſ://example.com" = true := by
    decide +kernel
  have hOpens : Opens "httpſ://" "httpſ://example.com" :=
    ⟨"httpſ://".toList, 'e', "xample.com".toList, rfl, by decide,
      by decide⟩
  refine ⟨hAbsolute, not_onWeb_of_longS hOpens, ?_⟩
  rw [(Submission.addresses_make _ _ _ _).1]
  exact (usable?_eq_some_iff _ _).mpr ⟨by decide +kernel, hAbsolute⟩

end Questionnaire
