import Questionnaire.Entry.Validator
import Questionnaire.Proofs.Text.Pattern

/-
  The language of e-mail addresses.

  Key definitions include:
    * `Email.pattern`
    * `Email.IsAddress`
    * `Email.IsCut`

  The pattern can match an address in more than one way, for any
  inner dot may be the one that it asks for.  An address is cut
  at its only at sign, and it is enough that some dot lies
  within the part after it (`email_accepts_addresses`).
-/

------------------------------------------------------------
-- Addresses
------------------------------------------------------------

namespace Questionnaire

namespace Email

open Text

/- One or more characters that no address is cut at. -/
def part : Pattern :=
  Pattern.oneOrMore (.among isPlain)

/- One certain character. -/
def sign
    (c : Char) : Pattern :=
  .among (fun d => d == c)

/- A part, an at sign, a part, a dot, and a part. -/
def pattern : Pattern :=
  .followed part
    (.followed (sign '@')
      (.followed part (.followed (sign '.') part)))

/-
  No white space and one at sign, with something before it, and
  after it a dot that comes neither first nor last.
-/
structure IsAddress
    (text : List Char) : Prop where
  unspaced : ∀ c ∈ text, isSpace c = false
  oneAt : text.count '@' = 1
  parted :
    ∃ name host,
      text = name ++ '@' :: host ∧ name ≠ [] ∧
        ∃ i, 0 < i ∧ i + 1 < host.length ∧ host[i]? = some '.'

/- An address and its parts around the at sign. -/
structure IsCut
    (text name host : List Char) : Prop where
  text_eq : text = name ++ '@' :: host
  named : name ≠ []
  plainName : ∀ c ∈ name, isPlain c = true
  plainHost : ∀ c ∈ host, isPlain c = true
  dotted : hasInnerDot host = true

variable {c : Char}
variable {text name host : List Char}

theorem isPlain_iff :
    isPlain c = true ↔ isSpace c = false ∧ c ≠ '@' := by
  rw [isPlain, Bool.and_eq_true, Bool.not_eq_true', bne_iff_ne]

/- A dot is not what an address is cut at. -/
theorem isPlain_dot :
    isPlain '.' = true := by
  decide

end Email

end Questionnaire

------------------------------------------------------------
-- Inner Dots
------------------------------------------------------------

namespace Questionnaire

namespace Email

variable {host : List Char}

/- An inner dot has a place, neither the first nor the last. -/
theorem hasInnerDot_iff_place :
    hasInnerDot host = true ↔
      ∃ i, 0 < i ∧ i + 1 < host.length ∧ host[i]? = some '.' := by
  rw [hasInnerDot, List.contains_iff_mem, List.mem_iff_getElem?]
  simp only [List.dropLast_eq_take, List.getElem?_take,
    List.getElem?_drop, List.length_drop]
  constructor
  · rintro ⟨j, hDot⟩
    split at hDot
    case isTrue hBound =>
      exact ⟨1 + j, by omega, by omega, hDot⟩
    case isFalse => exact nomatch hDot
  · rintro ⟨i, hPos, hBound, hDot⟩
    refine ⟨i - 1, ?_⟩
    rw [if_pos (by omega), Nat.add_sub_cancel' hPos]
    exact hDot

/- Something stands before an inner dot, and something after it. -/
theorem hasInnerDot_iff_split :
    hasInnerDot host = true ↔
      ∃ front back,
        host = front ++ '.' :: back ∧ front ≠ [] ∧ back ≠ [] := by
  rw [hasInnerDot_iff_place]
  constructor
  · rintro ⟨i, hPos, hBound, hDot⟩
    rcases List.getElem?_eq_some_iff.mp hDot with ⟨hLess, hChar⟩
    refine ⟨host.take i, host.drop (i + 1), ?_, ?_, ?_⟩
    · rw [← hChar, ← List.drop_eq_getElem_cons hLess,
        List.take_append_drop]
    · apply List.ne_nil_of_length_pos
      rw [List.length_take]
      omega
    · apply List.ne_nil_of_length_pos
      rw [List.length_drop]
      omega
  · rintro ⟨front, back, hHost, hFront, hBack⟩
    have hFrontPos := List.length_pos_iff.mpr hFront
    have hBackPos := List.length_pos_iff.mpr hBack
    refine ⟨front.length, hFrontPos, ?_, ?_⟩
    · rw [hHost, List.length_append, List.length_cons]
      omega
    · rw [hHost, List.getElem?_append_right (Nat.le_refl _),
        Nat.sub_self, List.getElem?_cons_zero]

end Email

end Questionnaire

------------------------------------------------------------
-- Three Ways to Tell an Address
------------------------------------------------------------

namespace Questionnaire

namespace Email

open Text

variable {text : List Char}

/- An accepted text is cut where it stops being plain. -/
theorem accepts_iff_cut
    (text : String) :
    accepts text = true ↔
      ∃ name host, IsCut text.toList name host := by
  unfold accepts
  constructor
  · intro hAccepts
    simp only at hAccepts
    split at hAccepts
    case h_1 host hDrop =>
      simp only [Bool.and_eq_true, Bool.not_eq_true',
        List.isEmpty_eq_false_iff, List.all_eq_true] at hAccepts
      rcases hAccepts with ⟨⟨hNamed, hHost⟩, hDotted⟩
      refine ⟨_, host, ?_, hNamed, ?_, hHost, hDotted⟩
      · rw [← hDrop, List.takeWhile_append_dropWhile]
      · exact List.all_eq_true.mp List.all_takeWhile
    case h_2 => exact nomatch hAccepts
  · rintro ⟨name, host, hCut⟩
    have hAt : ¬ isPlain '@' = true := by
      decide
    have hDrop :
        text.toList.dropWhile isPlain = '@' :: host := by
      rw [hCut.text_eq, List.dropWhile_append_of_pos hCut.plainName,
        List.dropWhile_cons_of_neg hAt]
    have hTake : text.toList.takeWhile isPlain = name := by
      rw [hCut.text_eq, List.takeWhile_append_of_pos hCut.plainName,
        List.takeWhile_cons_of_neg hAt, List.append_nil]
    simp only [hDrop, hTake, Bool.and_eq_true, Bool.not_eq_true',
      List.isEmpty_eq_false_iff, List.all_eq_true]
    exact ⟨⟨hCut.named, hCut.plainHost⟩, hCut.dotted⟩

/- Where there is no white space, only an at sign is not plain. -/
theorem forall_isPlain_iff
    {part : List Char}
    (hUnspaced : ∀ c ∈ part, isSpace c = false) :
    (∀ c ∈ part, isPlain c = true) ↔ part.count '@' = 0 := by
  rw [List.count_eq_zero]
  constructor
  · intro hPlain hMem
    exact (isPlain_iff.mp (hPlain _ hMem)).2 rfl
  · intro hNone c hMem
    refine isPlain_iff.mpr ⟨hUnspaced c hMem, ?_⟩
    intro hAt
    rw [hAt] at hMem
    exact hNone hMem

/- With one at sign, what is before it and after it has none. -/
theorem isAddress_iff_cut :
    IsAddress text ↔ ∃ name host, IsCut text name host := by
  constructor
  · intro hAddress
    rcases hAddress.parted with
      ⟨name, host, hText, hNamed, hPlace⟩
    have hUnspaced := hAddress.unspaced
    have hOne := hAddress.oneAt
    rw [hText, List.forall_mem_append, List.forall_mem_cons]
      at hUnspaced
    rw [hText, List.count_append, List.count_cons_self] at hOne
    rcases hUnspaced with ⟨hName, _, hHost⟩
    exact ⟨name, host, hText, hNamed,
      (forall_isPlain_iff hName).mpr (by omega),
      (forall_isPlain_iff hHost).mpr (by omega),
      hasInnerDot_iff_place.mpr hPlace⟩
  · rintro ⟨name, host, hCut⟩
    have hName (c : Char) (hMem : c ∈ name) : isSpace c = false :=
      (isPlain_iff.mp (hCut.plainName c hMem)).1
    have hHost (c : Char) (hMem : c ∈ host) : isSpace c = false :=
      (isPlain_iff.mp (hCut.plainHost c hMem)).1
    refine ⟨?_, ?_, name, host, hCut.text_eq, hCut.named,
      hasInnerDot_iff_place.mp hCut.dotted⟩
    · rw [hCut.text_eq, List.forall_mem_append,
        List.forall_mem_cons]
      exact ⟨hName, by decide, hHost⟩
    · rw [hCut.text_eq, List.count_append, List.count_cons_self,
        (forall_isPlain_iff hName).mp hCut.plainName,
        (forall_isPlain_iff hHost).mp hCut.plainHost]

/- A certain character and what follows it. -/
theorem mem_texts_sign_followed
    {c : Char}
    {rest : Pattern} :
    text ∈ (Pattern.followed (sign c) rest).texts ↔
      ∃ more ∈ rest.texts, text = c :: more := by
  rw [Pattern.mem_texts_followed]
  constructor
  · rintro ⟨_, ⟨d, hSame, hFound⟩, more, hMore, hText⟩
    refine ⟨more, hMore, ?_⟩
    rw [← hText, hFound, beq_iff_eq.mp hSame]
    rfl
  · rintro ⟨more, hMore, hText⟩
    exact ⟨[c], ⟨c, beq_self_eq_true c, rfl⟩, more, hMore, hText.symm⟩

/- A text of the pattern is cut where its at sign matches. -/
theorem mem_texts_iff_cut :
    text ∈ pattern.texts ↔ ∃ name host, IsCut text name host := by
  rw [pattern, Pattern.mem_texts_followed]
  constructor
  · rintro ⟨name, hName, _, hAfter, hText⟩
    rcases mem_texts_sign_followed.mp hAfter with
      ⟨host, hHost, hAt⟩
    rcases Pattern.mem_texts_followed.mp hHost with
      ⟨front, hFront, _, hDot, hHostText⟩
    rcases mem_texts_sign_followed.mp hDot with
      ⟨back, hBack, hDotText⟩
    rcases Pattern.mem_texts_oneOrMore_among.mp hName with
      ⟨hNamed, hPlainName⟩
    rcases Pattern.mem_texts_oneOrMore_among.mp hFront with
      ⟨hSomeFront, hPlainFront⟩
    rcases Pattern.mem_texts_oneOrMore_among.mp hBack with
      ⟨hSomeBack, hPlainBack⟩
    rw [hDotText] at hHostText
    rw [hAt] at hText
    refine ⟨name, host, hText.symm, hNamed, hPlainName, ?_, ?_⟩
    · rw [← hHostText, List.forall_mem_append, List.forall_mem_cons]
      exact ⟨hPlainFront, isPlain_dot, hPlainBack⟩
    · exact hasInnerDot_iff_split.mpr
        ⟨front, back, hHostText.symm, hSomeFront, hSomeBack⟩
  · rintro ⟨name, host, hCut⟩
    -- Any inner dot may be the one that the pattern asks for.
    rcases hasInnerDot_iff_split.mp hCut.dotted with
      ⟨front, back, hHost, hSomeFront, hSomeBack⟩
    have hPlain := hCut.plainHost
    rw [hHost, List.forall_mem_append, List.forall_mem_cons] at hPlain
    have hName : name ∈ part.texts :=
      Pattern.mem_texts_oneOrMore_among.mpr
        ⟨hCut.named, hCut.plainName⟩
    have hFront : front ∈ part.texts :=
      Pattern.mem_texts_oneOrMore_among.mpr ⟨hSomeFront, hPlain.1⟩
    have hBack : back ∈ part.texts :=
      Pattern.mem_texts_oneOrMore_among.mpr
        ⟨hSomeBack, hPlain.2.2⟩
    have hDot :
        '.' :: back ∈ (Pattern.followed (sign '.') part).texts :=
      mem_texts_sign_followed.mpr ⟨back, hBack, rfl⟩
    have hAfterAt :
        host ∈ (Pattern.followed part
          (.followed (sign '.') part)).texts :=
      Pattern.mem_texts_followed.mpr
        ⟨front, hFront, '.' :: back, hDot, hHost.symm⟩
    exact ⟨name, hName, '@' :: host,
      mem_texts_sign_followed.mpr ⟨host, hAfterAt, rfl⟩,
      hCut.text_eq.symm⟩

/- An address is not blank. -/
theorem IsAddress.isBlank_eq_false
    {raw : String}
    (hAddress : IsAddress raw.toList) :
    isBlank raw = false := by
  rcases hAddress.parted with ⟨name, host, hText, _⟩
  have hMem : '@' ∈ raw.toList := by
    rw [hText]
    exact List.mem_append_right _ List.mem_cons_self
  exact isBlank_eq_false_of_mem hMem (hAddress.unspaced _ hMem)

end Email

end Questionnaire

------------------------------------------------------------
-- Judging Addresses
------------------------------------------------------------

namespace Questionnaire

open Text

/-
  The accepted texts are the addresses, and these are the texts
  of the pattern; a search for it that tries all ways to match
  finds them.  An entry is valid if it is an address as it was
  typed, or else blank and not required.
-/
theorem email_accepts_addresses
    (raw : String)
    (required : Bool) :
    (Email.accepts raw = true ↔ Email.IsAddress raw.toList) ∧
      (raw.toList ∈ Email.pattern.texts ↔
        Email.IsAddress raw.toList) ∧
      Email.pattern.fits raw.toList = Email.accepts raw ∧
      ((Validator.email.judge raw required).valid = true ↔
        (isBlank raw = true ∧ required = false) ∨
          Email.IsAddress raw.toList) := by
  have hAccepts :
      Email.accepts raw = true ↔ Email.IsAddress raw.toList :=
    (Email.accepts_iff_cut raw).trans Email.isAddress_iff_cut.symm
  have hTexts :
      raw.toList ∈ Email.pattern.texts ↔
        Email.IsAddress raw.toList :=
    Email.mem_texts_iff_cut.trans Email.isAddress_iff_cut.symm
  refine ⟨hAccepts, hTexts, ?_, ?_⟩
  · rw [Bool.eq_iff_iff]
    exact (Pattern.fits_iff _ _).trans (hTexts.trans hAccepts.symm)
  · rw [Validator.judge]
    cases hBlank : isBlank raw with
    | true =>
        have hNot : ¬ Email.IsAddress raw.toList := by
          intro hAddress
          rw [hAddress.isBlank_eq_false] at hBlank
          exact Bool.false_ne_true hBlank
        simp [hNot]
    | false => simpa using hAccepts

/- Neither the first dot nor the last has to be an inner one. -/
example :
    Email.accepts "a@.b.c" = true ∧
      Email.accepts "a@b.c." = true ∧
      Email.accepts "a@.b." = false := by
  decide

end Questionnaire
