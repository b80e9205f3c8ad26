import Questionnaire.Text.LowerCase
import Questionnaire.Text.Split

/-
  Slugs: words of small letters and digits joined by single
  dashes, fit for a file name and for an address.

  Key definitions include:
    * `Slug.isSymbol`
    * `Slug.isSlug`
    * `Slug.symbols`
    * `Slug.ofName`

  The slug of a name keeps the letters and digits of its
  lower-case form, without their accents; whatever else stands
  between them becomes one dash.
-/

------------------------------------------------------------
-- The Form of a Slug
------------------------------------------------------------

namespace Questionnaire.Slug

open Text

/- The characters that the words of a slug are made of. -/
def isSymbol
    (c : Char) : Bool :=
  c.isLower || c.isDigit

/- One word or more, joined by single dashes. -/
def isSlug
    (text : String) : Bool :=
  (split (fun c => c == '-') text.toList).all
    (fun word => !word.isEmpty && word.all isSymbol)

end Questionnaire.Slug

------------------------------------------------------------
-- The Slug of a Name
------------------------------------------------------------

namespace Questionnaire.Slug

open Text

/- The small Latin letter under one of the usual accents. -/
def withoutAccent
    (c : Char) : Char :=
  match c with
  | 'á' | 'à' | 'â' | 'ã' | 'ä' | 'å' => 'a'
  | 'é' | 'è' | 'ê' | 'ë' => 'e'
  | 'í' | 'ì' | 'î' | 'ï' => 'i'
  | 'ó' | 'ò' | 'ô' | 'õ' | 'ö' => 'o'
  | 'ú' | 'ù' | 'û' | 'ü' => 'u'
  | 'ç' => 'c'
  | 'ñ' => 'n'
  | other => other

/- The lower-case form of a name, without accents. -/
def symbols
    (name : List Char) : List Char :=
  (name.flatMap lowerCase).map withoutAccent

/-
  The letters and digits of a name, its words joined by single
  dashes.  It is empty when the name has none.
-/
def ofName
    (name : String) : String :=
  String.ofList (joinWith '-' (runs isSymbol (symbols name.toList)))

end Questionnaire.Slug
