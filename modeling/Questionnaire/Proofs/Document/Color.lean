import Mathlib
import Questionnaire.Proofs.Document.Markup
import Questionnaire.Proofs.Text.LowerCase

/-
  The colours that texts denote, and how a page writes them.

  Key definitions include:
    * `hexValue`
    * `Rgb`
    * `Rgb.ofText?`
    * `Company.configured`

  A page writes a colour so that it denotes what it did in the
  form (`Rgb.ofText?_canonicalColor`), and a colour can be so
  written in one way only (`IsCanonical.eq_of_ofText?_eq`).  So
  forms of the same colours have the same style sheet
  (`same_colors_same_style`).
-/

------------------------------------------------------------
-- Colours
------------------------------------------------------------

namespace Questionnaire.Document

/- The value of a hexadecimal digit. -/
def hexValue
    (c : Char) : Nat :=
  if c.isDigit then
    c.toNat - '0'.toNat
  else if 'a' ≤ c then
    c.toNat - 'a'.toNat + 10
  else
    c.toNat - 'A'.toNat + 10

/- A colour by its red, green and blue parts. -/
structure Rgb where
  red : Nat
  green : Nat
  blue : Nat
  deriving DecidableEq

namespace Rgb

/- A part of a colour by its two digits. -/
def part
    (high low : Char) : Nat :=
  16 * hexValue high + hexValue low

/- Two digits for each part, or one that stands for two. -/
def ofDigits? : List Char → Option Rgb
  | [a, b, c, d, e, f] => some ⟨part a b, part c d, part e f⟩
  | [a, b, c] => some ⟨part a a, part b b, part c c⟩
  | _ => none

/- The colour that a text denotes. -/
def ofText?
    (text : String) : Option Rgb :=
  match text.toList with
  | '#' :: digits =>
      if digits.all isHexDigit then ofDigits? digits else none
  | _ => none

end Rgb

end Questionnaire.Document

namespace Questionnaire

/- The text that a palette has for a colour. -/
def Palette.get
    (palette : Palette) : ColorField → String
  | .primary => palette.primary
  | .secondary => palette.secondary

/- The colour where a palette has none. -/
def ColorField.usual : ColorField → String
  | .primary => "#ff8533"
  | .secondary => "#ffc933"

/- A colour as it was configured, trimmed, or else the usual one. -/
def Company.configured
    (company : Company)
    (field : ColorField) : String :=
  if Text.isBlank (company.palette.get field) then
    field.usual
  else
    Text.trim (company.palette.get field)

end Questionnaire

------------------------------------------------------------
-- Digits
------------------------------------------------------------

namespace Questionnaire.Document

variable {c d : Char}

set_option maxRecDepth 4000 in
theorem hexValue_lt
    (hDigit : isHexDigit c = true) :
    hexValue c < 16 :=
  forall_of_toNat_lt
    (p := fun c => isHexDigit c = true → hexValue c < 16)
    (by decide) (toNat_lt_of_isHexDigit hDigit) hDigit

set_option maxRecDepth 4000 in
/- A digit keeps its value when it is made small. -/
theorem hexValue_toLower
    (hDigit : isHexDigit c = true) :
    hexValue c.toLower = hexValue c :=
  forall_of_toNat_lt
    (p := fun c =>
      isHexDigit c = true → hexValue c.toLower = hexValue c)
    (by decide) (toNat_lt_of_isHexDigit hDigit) hDigit

set_option maxRecDepth 4000 in
/- A small digit is the one that its value is written with. -/
theorem digitChar_hexValue
    (hSmall : isSmallHexDigit c = true) :
    Nat.digitChar (hexValue c) = c :=
  forall_of_toNat_lt
    (p := fun c =>
      isSmallHexDigit c = true → Nat.digitChar (hexValue c) = c)
    (by decide)
    (toNat_lt_of_isHexDigit (isHexDigit_of_isSmallHexDigit hSmall))
    hSmall

/- Small digits of one value are the same. -/
theorem eq_of_hexValue_eq
    (hC : isSmallHexDigit c = true)
    (hD : isSmallHexDigit d = true)
    (hValue : hexValue c = hexValue d) :
    c = d := by
  rw [← digitChar_hexValue hC, hValue, digitChar_hexValue hD]

namespace Rgb

variable {a b : Char}

theorem part_toLower
    (hC : isHexDigit c = true)
    (hD : isHexDigit d = true) :
    part c.toLower d.toLower = part c d := by
  rw [part, hexValue_toLower hC, hexValue_toLower hD, part]

/- Small digits of one part are the same. -/
theorem eq_of_part_eq
    (hA : isSmallHexDigit a = true)
    (hB : isSmallHexDigit b = true)
    (hC : isSmallHexDigit c = true)
    (hD : isSmallHexDigit d = true)
    (hPart : part a b = part c d) :
    a = c ∧ b = d := by
  have hLessB := hexValue_lt (isHexDigit_of_isSmallHexDigit hB)
  have hLessD := hexValue_lt (isHexDigit_of_isSmallHexDigit hD)
  unfold part at hPart
  exact ⟨eq_of_hexValue_eq hA hC (by omega),
    eq_of_hexValue_eq hB hD (by omega)⟩

/- What a text of digits behind the mark denotes. -/
theorem ofText?_of_digits
    {text : String}
    {digits : List Char}
    (hText : text.toList = '#' :: digits)
    (hDigits : ∀ c ∈ digits, isHexDigit c = true) :
    ofText? text = ofDigits? digits := by
  rw [ofText?, hText]
  exact if_pos (List.all_eq_true.mpr hDigits)

end Rgb

/- Six items are an item six times. -/
theorem exists_six
    {digits : List Char}
    (hLength : digits.length = 6) :
    ∃ a b c d e f, digits = [a, b, c, d, e, f] := by
  match digits, hLength with
  | [a, b, c, d, e, f], _ => exact ⟨a, b, c, d, e, f, rfl⟩

end Questionnaire.Document

------------------------------------------------------------
-- Colours as a Page Writes Them
------------------------------------------------------------

namespace Questionnaire.Document

/- A page writes a colour so that it denotes the same. -/
theorem Rgb.ofText?_canonicalColor
    {color : String}
    (hColor : isHexColor color = true) :
    ∃ rgb,
      ofText? color = some rgb ∧
        ofText? (canonicalColor color) = some rgb := by
  rcases isHexColor_iff.mp hColor with
    ⟨digits, hText, hLength, hDigits⟩
  rcases isCanonical_canonicalColor hColor with
    ⟨small, hWritten, _, hSmall⟩
  have hFull := toList_canonicalColor hText hDigits
  rw [hWritten] at hFull
  have hBefore := ofText?_of_digits hText hDigits
  have hAfter :=
    ofText?_of_digits hWritten
      (fun c hMem => isHexDigit_of_isSmallHexDigit (hSmall c hMem))
  rw [hBefore, hAfter, (List.cons.inj hFull).2]
  rcases hLength with hThree | hSix
  · rcases List.length_eq_three.mp hThree with ⟨a, b, c, hEq⟩
    rw [hEq] at hDigits ⊢
    simp only [List.forall_mem_cons] at hDigits
    rcases hDigits with ⟨hA, hB, hC, _⟩
    refine ⟨_, rfl, ?_⟩
    rw [← part_toLower hA hA, ← part_toLower hB hB,
      ← part_toLower hC hC]
    rfl
  · rcases exists_six hSix with ⟨a, b, c, d, e, f, hEq⟩
    rw [hEq] at hDigits ⊢
    simp only [List.forall_mem_cons] at hDigits
    rcases hDigits with ⟨hA, hB, hC, hD, hE, hF, _⟩
    refine ⟨_, rfl, ?_⟩
    rw [← part_toLower hA hB, ← part_toLower hC hD,
      ← part_toLower hE hF]
    rfl

/- A colour is written in one way. -/
theorem IsCanonical.eq_of_ofText?_eq
    {color other : String}
    (hColor : IsCanonical color)
    (hOther : IsCanonical other)
    (hSame : Rgb.ofText? color = Rgb.ofText? other) :
    color = other := by
  rcases hColor with ⟨digits, hText, hLength, hSmall⟩
  rcases hOther with ⟨others, hOtherText, hOtherLength, hOtherSmall⟩
  rw [Rgb.ofText?_of_digits hText
      (fun c hMem => isHexDigit_of_isSmallHexDigit (hSmall c hMem)),
    Rgb.ofText?_of_digits hOtherText
      (fun c hMem =>
        isHexDigit_of_isSmallHexDigit (hOtherSmall c hMem))] at hSame
  rcases exists_six hLength with ⟨a, b, c, d, e, f, hDigits⟩
  rcases exists_six hOtherLength with ⟨p, q, r, s, t, u, hOthers⟩
  rw [hDigits] at hSmall hSame hText
  rw [hOthers] at hOtherSmall hSame hOtherText
  simp only [List.forall_mem_cons] at hSmall hOtherSmall
  rcases hSmall with ⟨hA, hB, hC, hD, hE, hF, _⟩
  rcases hOtherSmall with ⟨hP, hQ, hR, hS, hT, hU, _⟩
  simp only [Rgb.ofDigits?, Option.some.injEq, Rgb.mk.injEq] at hSame
  rcases hSame with ⟨hRed, hGreen, hBlue⟩
  rcases Rgb.eq_of_part_eq hA hB hP hQ hRed with ⟨hAP, hBQ⟩
  rcases Rgb.eq_of_part_eq hC hD hR hS hGreen with ⟨hCR, hDS⟩
  rcases Rgb.eq_of_part_eq hE hF hT hU hBlue with ⟨hET, hFU⟩
  rw [hAP, hBQ, hCR, hDS, hET, hFU, ← hOtherText] at hText
  exact String.toList_inj.mp hText

end Questionnaire.Document

------------------------------------------------------------
-- Writing a Colour Twice
------------------------------------------------------------

namespace Questionnaire.Document

variable {text : List Char}

/- Only the mark itself becomes the mark. -/
theorem toLower_ne_mark
    {c : Char}
    (hNe : c ≠ '#') :
    c.toLower ≠ '#' := by
  by_cases hUpper : c.isUpper = true
  · intro hMark
    have hAlpha : c.toLower.isAlpha = true := by
      rw [Char.isAlpha_toLower_eq_isAlpha, Char.isAlpha, hUpper,
        Bool.true_or]
    rw [hMark] at hAlpha
    exact absurd hAlpha (by decide)
  · rw [Char.toLower_eq_of_not_isUpper hUpper]
    exact hNe

set_option maxRecDepth 4000 in
/- A small character has as many bytes as the large one. -/
theorem utf8Size_toLower
    (c : Char) :
    c.toLower.utf8Size = c.utf8Size := by
  by_cases hUpper : c.isUpper = true
  · have hBounds := (Text.isUpper_iff_toNat c).mp hUpper
    exact
      forall_of_toNat_lt
        (p := fun c => c.toLower.utf8Size = c.utf8Size)
        (by decide) (by omega)
  · rw [Char.toLower_eq_of_not_isUpper hUpper]

theorem utf8ByteSize_map_toLower
    (text : List Char) :
    (String.ofList (text.map Char.toLower)).utf8ByteSize =
      (String.ofList text).utf8ByteSize := by
  rw [String.utf8ByteSize_ofList, String.utf8ByteSize_ofList]
  induction text with
  | nil => rfl
  | cons c text ih =>
      rw [List.map_cons, String.utf8Len_cons, String.utf8Len_cons,
        utf8Size_toLower, ih]

theorem utf8ByteSize_doubled
    (text : List Char) :
    (String.ofList (text.flatMap (fun c => [c, c]))).utf8ByteSize =
      2 * (String.ofList text).utf8ByteSize := by
  rw [String.utf8ByteSize_ofList, String.utf8ByteSize_ofList]
  induction text with
  | nil => rfl
  | cons c text ih =>
      rw [List.flatMap_cons, String.utf8Len_append, ih]
      simp only [String.utf8Len_cons, String.utf8Len_nil]
      omega

/- The first of the doubled characters is the first of all. -/
theorem head?_doubled
    (text : List Char) :
    (text.flatMap (fun c => [c, c])).head? = text.head? := by
  cases text with
  | nil => rfl
  | cons c text => rfl

/- What follows the marks does not begin with one. -/
theorem ne_mark_of_head?_dropWhile
    {c : Char}
    (hHead :
      (text.dropWhile (fun c => c == '#')).head? = some c) :
    c ≠ '#' := by
  have hNot := List.head?_dropWhile_not (fun c => c == '#') text
  rw [hHead] at hNot
  exact beq_eq_false_iff_ne.mp hNot

/-
  A text behind its mark is left as it is, if it begins with no
  other, has no capitals and does not count as three digits.
-/
theorem canonicalColor_of_small
    (hHead : ∀ c, text.head? = some c → c ≠ '#')
    (hSmall : text.map Char.toLower = text)
    (hSize : (String.ofList text).utf8ByteSize ≠ 3) :
    canonicalColor (String.ofList ('#' :: text)) =
      String.ofList ('#' :: text) := by
  have hDrop :
      ('#' :: text).dropWhile (fun c => c == '#') = text := by
    rw [List.dropWhile_cons_of_pos (p := fun c => c == '#') rfl]
    cases text with
    | nil => rfl
    | cons c text =>
        exact List.dropWhile_cons_of_neg (by simpa using hHead c rfl)
  simp only [canonicalColor, String.toList_ofList, hDrop, beq_iff_eq,
    if_neg hSize, hSmall]

/-
  Any text that was written as a colour is left as it is: if it
  counted as three digits, it counts as six.
-/
theorem canonicalColor_canonicalColor
    (color : String) :
    canonicalColor (canonicalColor color) = canonicalColor color := by
  have hSmall (text : List Char) :
      (text.map Char.toLower).map Char.toLower =
        text.map Char.toLower := by
    rw [List.map_map]
    exact List.map_congr_left
      (fun c _ => Char.toLower_toLower_eq_toLower c)
  have hHead {full : List Char}
      (hFull :
        full.head? =
          (color.toList.dropWhile (fun c => c == '#')).head?) :
      ∀ c, (full.map Char.toLower).head? = some c → c ≠ '#' := by
    intro c hFirst
    rw [List.head?_map] at hFirst
    rcases Option.map_eq_some_iff.mp hFirst with ⟨d, hD, hLower⟩
    rw [← hLower]
    rw [hFull] at hD
    exact toLower_ne_mark (ne_mark_of_head?_dropWhile hD)
  rw [canonicalColor.eq_def color]
  simp only [beq_iff_eq]
  split
  case isTrue hThree =>
    refine canonicalColor_of_small (hHead (head?_doubled _))
      (hSmall _) ?_
    rw [utf8ByteSize_map_toLower, utf8ByteSize_doubled, hThree]
    decide
  case isFalse hNot =>
    refine canonicalColor_of_small (hHead rfl) (hSmall _) ?_
    rw [utf8ByteSize_map_toLower]
    exact hNot

end Questionnaire.Document

------------------------------------------------------------
-- Style Sheets of the Same Colours
------------------------------------------------------------

namespace Questionnaire

open Document

variable {form other : Form}
variable {warnings otherWarnings : List Warning}
variable {field : ColorField}

/- The colour that a company gives is the configured one. -/
theorem Company.configured_eq
    (company : Company) :
    company.configured .primary = company.primary ∧
      company.configured .secondary = company.secondary := by
  have hGiven (text usual : String) :
      (if Text.isBlank text then usual else Text.trim text) =
        (Text.nonBlank? text).getD usual := by
    rw [Text.nonBlank?]
    split <;> rfl
  exact ⟨hGiven _ _, hGiven _ _⟩

/- The page writes it in its own way. -/
theorem Document.Colors.get_ofCompany
    (company : Company)
    (field : ColorField) :
    (Colors.ofCompany company).get field =
      canonicalColor (company.configured field) := by
  rcases company.configured_eq with ⟨hPrimary, hSecondary⟩
  cases field with
  | primary =>
      rw [hPrimary]
      rfl
  | secondary =>
      rw [hSecondary]
      rfl

/- The audit passes it only if it denotes a colour. -/
theorem isHexColor_configured
    (hAudit : form.audit = .ok warnings)
    (field : ColorField) :
    isHexColor (form.company.configured field) = true := by
  have hHex := isHexColor_of_audit hAudit
  rcases form.company.configured_eq with ⟨hPrimary, hSecondary⟩
  cases field with
  | primary =>
      rw [hPrimary]
      exact hHex.1
  | secondary =>
      rw [hSecondary]
      exact hHex.2

/- Forms of the same colours have them written the same. -/
theorem ofCompany_eq_of_ofText?_eq
    (hAudit : form.audit = .ok warnings)
    (hOther : other.audit = .ok otherWarnings)
    (hSame :
      ∀ field,
        Rgb.ofText? (form.company.configured field) =
          Rgb.ofText? (other.company.configured field)) :
    Colors.ofCompany form.company =
      Colors.ofCompany other.company := by
  have hField (field : ColorField) :
      (Colors.ofCompany form.company).get field =
        (Colors.ofCompany other.company).get field := by
    apply (canonical_ofCompany hAudit field).eq_of_ofText?_eq
      (canonical_ofCompany hOther field)
    rcases Rgb.ofText?_canonicalColor
      (isHexColor_configured hAudit field) with
      ⟨rgb, hBefore, hAfter⟩
    rcases Rgb.ofText?_canonicalColor
      (isHexColor_configured hOther field) with
      ⟨otherRgb, hOtherBefore, hOtherAfter⟩
    rw [Colors.get_ofCompany, Colors.get_ofCompany, hAfter,
      hOtherAfter, ← hBefore, ← hOtherBefore, hSame field]
  exact
    congrArg₂ Colors.mk (hField .primary) (hField .secondary)

/- The style element of the page of an audited form. -/
theorem style?_pageOf
    (hAudit : form.audit = .ok warnings)
    (plan : Plan) :
    style? (pageOf form plan).toList =
      some (sheetText (Colors.ofCompany form.company)) := by
  rw [toList_pageOf]
  exact style?_frontText_append (canonical_ofCompany hAudit) plan _

/-
  An audited form has its colours written as six small digits,
  and they denote what they did when they were configured.  Two
  such forms with colours that denote the same, however they
  are spelled, have the same style sheet on their pages.  What
  is written of any text stays as it is when it is written
  again.
-/
theorem same_colors_same_style
    (hAudit : form.audit = .ok warnings)
    (hOther : other.audit = .ok otherWarnings)
    (settings otherSettings : Settings) :
    (∀ field,
        IsCanonical ((Colors.ofCompany form.company).get field) ∧
          ∃ rgb,
            Rgb.ofText? (form.company.configured field) = some rgb ∧
              Rgb.ofText?
                  ((Colors.ofCompany form.company).get field) =
                some rgb) ∧
      ((∀ field,
          Rgb.ofText? (form.company.configured field) =
            Rgb.ofText? (other.company.configured field)) →
        ∃ page otherPage,
          form.page settings = .ok page ∧
            other.page otherSettings = .ok otherPage ∧
              style? page.toList =
                some (sheetText (Colors.ofCompany form.company)) ∧
                style? otherPage.toList = style? page.toList) ∧
      ∀ color,
        canonicalColor (canonicalColor color) =
          canonicalColor color := by
  refine ⟨?_, ?_, canonicalColor_canonicalColor⟩
  · intro field
    rw [Colors.get_ofCompany]
    have hColor := isHexColor_configured hAudit field
    exact ⟨isCanonical_canonicalColor hColor,
      Rgb.ofText?_canonicalColor hColor⟩
  · intro hSame
    refine ⟨_, _, Form.page_of_audit hAudit,
      Form.page_of_audit hOther, style?_pageOf hAudit _, ?_⟩
    rw [style?_pageOf hAudit, style?_pageOf hOther,
      ofCompany_eq_of_ofText?_eq hAudit hOther hSame]

/- A form with its colours in short and in capitals. -/
def Form.shortColored : Form :=
  { company :=
      { name := "Acme"
        slug := "acme"
        palette := { primary := " #F80\n", secondary := "" } } }

/- The same colours, in full. -/
def Form.fullColored : Form :=
  { company :=
      { name := "Other"
        slug := "other"
        palette :=
          { primary := "#ff8800", secondary := "#FFC933" } } }

/- Both pages have one style sheet. -/
theorem short_colors_full_style :
    Form.shortColored.audit = .ok [] ∧
      Form.fullColored.audit = .ok [] ∧
        (∀ field,
          Rgb.ofText? (Form.shortColored.company.configured field) =
            Rgb.ofText?
              (Form.fullColored.company.configured field)) ∧
          ∃ page otherPage,
            Form.shortColored.page {} = .ok page ∧
              Form.fullColored.page {} = .ok otherPage ∧
                style? otherPage.toList = style? page.toList := by
  have hShort : Form.shortColored.audit = .ok [] := by
    rfl
  have hFull : Form.fullColored.audit = .ok [] := by
    rfl
  have hSame (field : ColorField) :
      Rgb.ofText? (Form.shortColored.company.configured field) =
        Rgb.ofText? (Form.fullColored.company.configured field) := by
    cases field with
    | primary => rfl
    | secondary => rfl
  rcases same_colors_same_style hShort hFull {} {} with
    ⟨_, hStyle, _⟩
  rcases hStyle hSame with ⟨page, otherPage, hPage, hOther, _, hEq⟩
  exact ⟨hShort, hFull, hSame, page, otherPage, hPage, hOther, hEq⟩

end Questionnaire
