import Questionnaire.Proofs.Document.Counting
import Questionnaire.Proofs.Document.Markup

/-
  The landmarks in the text of a page: the numbers of its steps,
  its controls, and the end of its form.

  Key definitions include:
    * `Landmark`
    * `landmarksIn?`
    * `Fits`
    * `Bears`

  `Bears` says of some pieces how many of each landmark begin in
  them, indented or not, whatever is shown and whatever follows.
  It goes through pieces one after another (`Bears.append`), and
  for pieces whose markup is known it is computed
  (`bears_of_fits`).
-/

------------------------------------------------------------
-- Landmarks
------------------------------------------------------------

namespace Questionnaire.Document

/- What is looked for in the text of a page. -/
inductive Landmark where
  | step
  | formEnd
  | back
  | goOn
  | goOnDisabled
  | goOnEnabled
  | select
  | confirm
  | commit
  deriving DecidableEq, Repr

namespace Landmark

/- How a landmark is written. -/
def text : Landmark → String
  | step => "data-step=\""
  | formEnd => "</form>"
  | back => "data-action=\"back\""
  | goOn => "data-action=\"continue\""
  | goOnDisabled => "data-action=\"continue\" disabled>"
  | goOnEnabled => "data-action=\"continue\">"
  | select => "data-action=\"select\""
  | confirm => "data-action=\"confirm-review\""
  | commit => "data-action=\"commit\""

/- The characters of a landmark. -/
def chars
    (landmark : Landmark) : List Char :=
  landmark.text.toList

/- All landmarks. -/
def all : List Landmark := [
  step, formEnd, back, goOn, goOnDisabled, goOnEnabled, select,
  confirm, commit]

theorem mem_all
    (landmark : Landmark) :
    landmark ∈ all := by
  cases landmark <;> decide

theorem nodup_all :
    all.Nodup := by
  decide

/- How the landmarks start. -/
def starts : List (List Char) := [
  ['d', 'a', 't', 'a', '-', 's', 't', 'e', 'p', '=', '"'],
  ['d', 'a', 't', 'a', '-', 'a', 'c', 't', 'i', 'o', 'n', '=', '"'],
  ['<', '/', 'f', 'o', 'r', 'm', '>']]

theorem exists_start
    (landmark : Landmark) :
    ∃ start ∈ starts, start <+: landmark.chars := by
  cases landmark with
  | step => exact ⟨_, .head _, _, rfl⟩
  | formEnd => exact ⟨_, .tail _ (.tail _ (.head _)), _, rfl⟩
  | _ => exact ⟨_, .tail _ (.head _), _, rfl⟩

/- No landmark begins with a blank. -/
theorem exists_chars
    (landmark : Landmark) :
    ∃ first more, landmark.chars = first :: more ∧ first ≠ ' ' := by
  cases landmark <;> exact ⟨_, _, rfl, by decide⟩

end Landmark

end Questionnaire.Document

------------------------------------------------------------
-- Landmarks in Texts
------------------------------------------------------------

namespace Questionnaire.Document

/- Some landmarks begin in a text, whatever follows. -/
def BearsText
    (text : List Char)
    (found : List Landmark) : Prop :=
  ∀ landmark : Landmark,
    Counts landmark.chars text (found.count landmark)

/- The landmarks that may begin where a text with gaps does. -/
def candidates
    (symbols : List (Option Char)) : List Landmark :=
  Landmark.all.filter
    (fun landmark => mayBegin symbols landmark.chars)

/-
  The landmarks that begin in a text with gaps, unless they
  depend on the gaps or on what follows.
-/
def landmarksIn? : List (Option Char) → Option (List Landmark)
  | [] => some []
  | some c :: symbols =>
      if Landmark.starts.any (mayBegin (some c :: symbols)) then
        if (candidates (some c :: symbols)).all
            (fun landmark =>
              (landmark.chars.map some).isPrefixOf
                (some c :: symbols)) then
          (landmarksIn? symbols).map
            (fun found => candidates (some c :: symbols) ++ found)
        else
          none
      else
        landmarksIn? symbols
  | none :: symbols =>
      if Landmark.starts.any (mayBegin (none :: symbols)) then
        none
      else
        landmarksIn? symbols

variable {text rest : List Char}
variable {known : List (Option Char)}
variable {found more : List Landmark}
variable {landmark : Landmark}

theorem BearsText.append
    (hText : BearsText text found)
    (hRest : BearsText rest more) :
    BearsText (text ++ rest) (found ++ more) := by
  intro landmark
  rw [List.count_append]
  exact (hText landmark).append (hRest landmark)

/- No landmark begins in blanks. -/
theorem bearsText_blanks
    (hBlanks : ∀ c ∈ text, c = ' ') :
    BearsText text [] := by
  intro landmark
  rcases landmark.exists_chars with ⟨first, _, hChars, hFirst⟩
  rw [hChars]
  exact counts_of_clear
    (isClear_of_not_mem (fun hMem => hFirst (hBlanks first hMem)))

/- A landmark is a candidate where it may begin. -/
theorem mem_candidates_iff :
    landmark ∈ candidates known ↔
      mayBegin known landmark.chars = true := by
  unfold candidates
  rw [List.mem_filter]
  exact and_iff_right landmark.mem_all

/- A candidate is one only once. -/
theorem count_candidates
    (known : List (Option Char))
    (landmark : Landmark) :
    (candidates known).count landmark =
      if mayBegin known landmark.chars then 1 else 0 := by
  have hDistinct : (candidates known).Nodup :=
    List.Nodup.filter _ Landmark.nodup_all
  split
  case isTrue hMay =>
    exact List.count_eq_one_of_mem hDistinct
      (mem_candidates_iff.mpr hMay)
  case isFalse hNot =>
    exact List.count_eq_zero_of_not_mem
      (mt mem_candidates_iff.mp hNot)

/- A landmark that begins a text starts like a landmark. -/
theorem mayBegin_start
    (hText : Realizes known text)
    (hBegins : landmark.chars.isPrefixOf (text ++ rest) = true) :
    Landmark.starts.any (mayBegin known) = true := by
  rcases landmark.exists_start with ⟨start, hStart, hPrefix⟩
  refine List.any_eq_true.mpr ⟨start, hStart, ?_⟩
  exact mayBegin_of_isPrefixOf hText
    (List.isPrefixOf_iff_prefix.mpr
      (hPrefix.trans (List.isPrefixOf_iff_prefix.mp hBegins)))

/- The candidates begin a text if they begin what is known. -/
theorem isPrefixOf_eq_mayBegin
    (hText : Realizes known text)
    (hBegin :
      (candidates known).all
        (fun landmark =>
          (landmark.chars.map some).isPrefixOf known) = true)
    (landmark : Landmark)
    (rest : List Char) :
    landmark.chars.isPrefixOf (text ++ rest) =
      mayBegin known landmark.chars := by
  rw [Bool.eq_iff_iff]
  constructor
  · exact mayBegin_of_isPrefixOf hText
  · intro hMay
    have hKnown :=
      List.all_eq_true.mp hBegin landmark
        (mem_candidates_iff.mpr hMay)
    exact isPrefixOf_append (isPrefixOf_of_realizes hText hKnown)
      rest

/- What is found with gaps is there however they are filled. -/
theorem bearsText_of_landmarksIn?
    (hText : Realizes known text)
    (hFound : landmarksIn? known = some found) :
    BearsText text found := by
  intro landmark rest
  induction hText generalizing found with
  | nil =>
      have hNone : [] = found := Option.some.inj hFound
      rw [← hNone]
      exact (Nat.zero_add _).symm
  | @char known text c hText ih =>
      have hAll := Realizes.char c hText
      rw [landmarksIn?] at hFound
      rw [List.cons_append, occurrences, ← List.cons_append]
      split at hFound
      case isTrue =>
        split at hFound
        case isTrue hBegin =>
          rcases Option.map_eq_some_iff.mp hFound with
            ⟨others, hOthers, hEq⟩
          rw [isPrefixOf_eq_mayBegin hAll hBegin, ih hOthers,
            ← hEq, List.count_append, count_candidates,
            Nat.add_assoc]
        case isFalse => cases hFound
      case isFalse hNot =>
        have hHere :
            ¬ landmark.chars.isPrefixOf (c :: text ++ rest) =
              true :=
          fun hBegins => hNot (mayBegin_start hAll hBegins)
        rw [if_neg hHere, Nat.zero_add, ih hFound]
  | @gap known words text hWords hText ih =>
      rw [landmarksIn?] at hFound
      split at hFound
      case isTrue => cases hFound
      case isFalse hNone =>
        rcases landmark.exists_start with ⟨start, hStart, hPrefix⟩
        have hNot : mayBegin (none :: known) start = false := by
          rw [Bool.eq_false_iff]
          intro hMay
          exact hNone (List.any_eq_true.mpr ⟨start, hStart, hMay⟩)
        rw [occurrences_gap hPrefix hWords hText hNot, ih hFound]

end Questionnaire.Document

------------------------------------------------------------
-- Known Markup
------------------------------------------------------------

namespace Questionnaire.Document

/-
  Pieces that begin with known markup, and the others after it;
  `none` is a shown text.
-/
inductive Fits
    (others : List Piece) :
    List Piece → List (Option (List Char)) → Prop where
  | done : Fits others others []
  | markup
      {text : String}
      {chars : List Char}
      {pieces : List Piece}
      {parts : List (Option (List Char))}
      (hText : text = String.ofList chars)
      (hPieces : Fits others pieces parts) :
      Fits others (.markup text :: pieces) (some chars :: parts)
  | shown
      {words : String}
      {pieces : List Piece}
      {parts : List (Option (List Char))}
      (hPieces : Fits others pieces parts) :
      Fits others (.shown words :: pieces) (none :: parts)

/- The text of known markup, with a gap for each shown text. -/
def symbols : List (Option (List Char)) → List (Option Char)
  | [] => []
  | some chars :: parts => chars.map some ++ symbols parts
  | none :: parts => none :: symbols parts

/-
  The text of known markup, indented.  Blanks that come after a
  shown text belong to its gap.
-/
def indentedSymbols :
    Bool → List (Option (List Char)) → List (Option Char)
  | _, [] => []
  | atStart, some chars :: parts =>
      (indentedPiece atStart chars).map some
        ++ indentedSymbols (startsLine atStart chars) parts
  | _, none :: parts => none :: indentedSymbols false parts

/- There is no equals sign in an escaped text. -/
theorem equals_not_mem_escaped
    (text : List Char) :
    '=' ∉ text.flatMap escapedChar := by
  intro hMem
  rcases List.mem_flatMap.mp hMem with ⟨c, _, hChar⟩
  unfold escapedChar at hChar
  split at hChar
  case h_8 hNot =>
    exact hNot (List.mem_singleton.mp hChar).symm
  all_goals exact absurd hChar (by decide)

/- Escaped text can be shown. -/
theorem isShown_of_mem_escaped
    {text : List Char}
    {c : Char}
    (hMem : c ∈ text.flatMap escapedChar) :
    isShown c = true := by
  rcases List.mem_flatMap.mp hMem with ⟨d, _, hChar⟩
  have hSpecial (special : Char)
      (hSpecial : special ∈ ['<', '>', '"']) :
      c ≠ special :=
    fun hEq => not_special_escaped d special hSpecial (hEq ▸ hChar)
  have hEquals : c ≠ '=' :=
    fun hEq => equals_not_mem_escaped text (hEq ▸ hMem)
  simp [isShown, hSpecial, hEquals]

variable {pieces others : List Piece}
variable {parts : List (Option (List Char))}

/- What is written of known markup and the texts that are shown. -/
theorem Fits.realizes
    (hPieces : Fits [] pieces parts) :
    Realizes (symbols parts) (written pieces) := by
  induction hPieces with
  | done => exact .nil
  | markup hText _ ih =>
      rw [written, List.flatMap_cons, Piece.written, hText,
        String.toList_ofList]
      exact (realizes_chars _).append ih
  | shown _ ih =>
      rw [written, List.flatMap_cons, Piece.written]
      exact .gap (fun c => isShown_of_mem_escaped) ih

/- At the beginning of a line there are blanks before a text. -/
theorem exists_indentedFrom
    (atStart : Bool)
    (texts : List (List Char)) :
    ∃ blanks,
      (∀ c ∈ blanks, c = ' ') ∧
        indentedFrom atStart texts =
          blanks ++ indentedFrom false texts := by
  induction texts with
  | nil =>
      exact ⟨[], fun c hMem => absurd hMem List.not_mem_nil, rfl⟩
  | cons text texts ih =>
      cases text with
      | nil => exact ih
      | cons c text =>
          refine ⟨indentBefore atStart (c :: text),
            fun c => eq_of_mem_indentBefore, ?_⟩
          rw [indentedFrom_cons, indentedFrom_cons, indentedPiece,
            indentedPiece, List.append_assoc]
          rfl

/- Known markup and the texts that are shown, indented. -/
theorem Fits.realizes_indented
    (hPieces : Fits [] pieces parts)
    (atStart : Bool) :
    Realizes (indentedSymbols atStart parts)
      (indentedFrom atStart (pieces.map Piece.written)) := by
  induction hPieces generalizing atStart with
  | done => exact .nil
  | markup hText _ ih =>
      rw [List.map_cons, indentedFrom_cons, Piece.written, hText,
        String.toList_ofList]
      exact (realizes_chars _).append (ih _)
  | @shown words pieces parts _ ih =>
      rw [List.map_cons, indentedFrom_cons, Piece.written]
      rcases
          exists_indentedFrom
            (startsLine atStart (words.toList.flatMap escapedChar))
            (pieces.map Piece.written) with
        ⟨blanks, hBlanks, hEq⟩
      rw [hEq, ← List.append_assoc]
      refine .gap ?_ (ih false)
      intro c hMem
      have hShown :
          c = ' ' ∨ c ∈ words.toList.flatMap escapedChar := by
        rcases List.mem_append.mp hMem with hPiece | hBlank
        · rcases List.mem_append.mp hPiece with hBefore | hLines
          · exact .inl (eq_of_mem_indentBefore hBefore)
          · exact (mem_of_mem_indentLines hLines).symm
        · exact .inl (hBlanks c hBlank)
      rcases hShown with hBlank | hWords
      · rw [hBlank]
        rfl
      · exact isShown_of_mem_escaped hWords

/- Known markup comes before the others. -/
theorem Fits.exists_front
    (hPieces : Fits others pieces parts) :
    ∃ front, Fits [] front parts ∧ pieces = front ++ others := by
  induction hPieces with
  | done => exact ⟨[], .done, rfl⟩
  | markup hText _ ih =>
      rcases ih with ⟨front, hFront, hEq⟩
      exact ⟨_, .markup hText hFront, congrArg _ hEq⟩
  | shown _ ih =>
      rcases ih with ⟨front, hFront, hEq⟩
      exact ⟨_, .shown hFront, congrArg _ hEq⟩

end Questionnaire.Document

------------------------------------------------------------
-- Landmarks in Pieces
------------------------------------------------------------

namespace Questionnaire.Document

/- How pieces are laid out: as they are, or indented. -/
inductive Layout where
  | asIs
  | indented
  deriving DecidableEq, Repr

/- The text of pieces, at the beginning of a line or not. -/
def Layout.textOf
    (layout : Layout)
    (atStart : Bool)
    (pieces : List Piece) : List Char :=
  match layout with
  | asIs => written pieces
  | indented => indentedFrom atStart (pieces.map Piece.written)

/- The text of known markup, with its gaps. -/
def Layout.symbolsOf
    (layout : Layout)
    (parts : List (Option (List Char))) : List (Option Char) :=
  match layout with
  | asIs => symbols parts
  | indented => indentedSymbols false parts

/- Some landmarks begin in pieces, whatever comes before. -/
def Bears
    (layout : Layout)
    (pieces : List Piece)
    (found : List Landmark) : Prop :=
  ∀ atStart : Bool, BearsText (layout.textOf atStart pieces) found

variable {layout : Layout}
variable {pieces others : List Piece}
variable {parts : List (Option (List Char))}
variable {found more : List Landmark}

theorem Bears.nil :
    Bears layout [] [] := by
  intro atStart
  cases layout with
  | asIs => exact bearsText_of_landmarksIn? .nil rfl
  | indented => exact bearsText_of_landmarksIn? .nil rfl

theorem Bears.append
    (hPieces : Bears layout pieces found)
    (hOthers : Bears layout others more) :
    Bears layout (pieces ++ others) (found ++ more) := by
  intro atStart
  cases layout with
  | asIs =>
      rw [Layout.textOf, written, List.flatMap_append]
      exact (hPieces atStart).append (hOthers atStart)
  | indented =>
      rw [Layout.textOf, List.map_append, indentedFrom_append]
      exact (hPieces atStart).append (hOthers _)

/- There are no landmarks in the first of two parts. -/
theorem Bears.append_left
    (hPieces : Bears layout pieces [])
    (hOthers : Bears layout others more) :
    Bears layout (pieces ++ others) more :=
  hPieces.append hOthers

/- There are no landmarks in the second of two parts. -/
theorem Bears.append_right
    (hPieces : Bears layout pieces found)
    (hOthers : Bears layout others []) :
    Bears layout (pieces ++ others) found := by
  have hAll := hPieces.append hOthers
  rw [List.append_nil] at hAll
  exact hAll

/- What begins in known markup can be computed. -/
theorem bears_of_fits
    (hPieces : Fits [] pieces parts)
    (hFound : landmarksIn? (layout.symbolsOf parts) = some found) :
    Bears layout pieces found := by
  intro atStart
  cases layout with
  | asIs =>
      exact bearsText_of_landmarksIn? hPieces.realizes hFound
  | indented =>
      rcases
          exists_indentedFrom atStart
            (pieces.map Piece.written) with
        ⟨blanks, hBlanks, hEq⟩
      rw [Layout.textOf, hEq]
      exact (bearsText_blanks hBlanks).append
        (bearsText_of_landmarksIn?
          (hPieces.realizes_indented false) hFound)

/- Known markup without landmarks comes first. -/
theorem Bears.plain
    (hPieces : Fits others pieces parts)
    (hNone : landmarksIn? (layout.symbolsOf parts) = some [])
    (hOthers : Bears layout others more) :
    Bears layout pieces more := by
  rcases hPieces.exists_front with ⟨front, hFront, hEq⟩
  rw [hEq]
  exact (bears_of_fits hFront hNone).append_left hOthers

theorem Bears.flatMap
    {α : Type}
    {items : List α}
    {piecesOf : α → List Piece}
    {foundOf : α → List Landmark}
    (hItems :
      ∀ item ∈ items, Bears layout (piecesOf item) (foundOf item)) :
    Bears layout (items.flatMap piecesOf)
      (items.flatMap foundOf) := by
  induction items with
  | nil => exact .nil
  | cons item items ih =>
      rcases List.forall_mem_cons.mp hItems with ⟨hItem, hMore⟩
      exact hItem.append (ih hMore)

/- What is there when something is. -/
theorem Bears.whenTrue
    (condition : Bool)
    (hPieces : Bears layout pieces found) :
    Bears layout (whenTrue condition pieces)
      (if condition then found else []) := by
  cases condition with
  | false => exact .nil
  | true => exact hPieces

end Questionnaire.Document
