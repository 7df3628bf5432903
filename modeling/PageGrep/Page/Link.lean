/-
# Links between pages

A reference to a page is its title between two pairs of square brackets.  A text is cut
into references and the stretches between them, from the left: a reference starts at the
first pair of brackets after which some characters other than closing brackets come and
then two closing ones.
-/
import PageGrep.Text.Blank
import PageGrep.Text.Letter
import PageGrep.Text.Markup

namespace PageGrep

/-- A stretch of a text: characters as they are, or a reference to a title. -/
inductive Stretch where
  | plain (text : List Char)
  | link (title : List Char)
deriving DecidableEq, Repr

namespace Stretch

/-- The reference at the front, as its title and what follows it. -/
def linkAt? : List Char → Option (List Char × List Char)
  | '[' :: '[' :: rest =>
    let title := rest.takeWhile (· != ']')
    match title, rest.dropWhile (· != ']') with
    | [], _ => none
    | _, ']' :: ']' :: after => some (title, after)
    | _, _ => none
  | _ => none

/-- Cuts a text; `so` holds the characters before it that belong to no reference, the
last first. -/
def cut (so : List Char) : (fuel : Nat) → List Char → List Stretch
  | 0, cs => [.plain (so.reverse ++ cs)]
  | _, [] => [.plain so.reverse]
  | fuel + 1, c :: rest =>
    match linkAt? (c :: rest) with
    | some (title, after) => .plain so.reverse :: .link title :: cut [] fuel after
    | none => cut (c :: so) fuel rest

def ofText (text : String) : List Stretch := cut [] text.length text.toList

/-- The title, if the stretch is a reference. -/
def title? : Stretch → Option String
  | plain _ => none
  | link title => some (String.ofList title)

end Stretch

/-! ## Slugs and anchors -/

/-- Whether a character may stand in a slug. -/
def isSlugChar (c : Char) : Bool :=
  Text.isBasicLetter c.toNat || Text.isBasicDigit c.toNat || c == '-'

/-- The name under which a page with a title is kept: blanks become dashes, other
characters are dropped, letters are made small. -/
def slugOf (title : String) : String :=
  let dashed := title.toList.map fun c => if Text.isBlank c.toNat then '-' else c
  String.ofList ((dashed.filter isSlugChar).map Char.toLower)

/-- The anchor that leads to the page with a title. -/
def anchor (title : String) : String :=
  let slug := slugOf title
  "<a class=\"internal\" href=\"/" ++ slug ++ ".html\" data-page-name=\"" ++ slug
    ++ "\" title=\"view\">" ++ Text.escape title ++ "</a>"

def Stretch.markup : Stretch → String
  | plain text => Text.escape (String.ofList text)
  | link title => anchor (String.ofList title)

/-- The text with its references made anchors and the rest escaped. -/
def resolveLinks (text : String) : String :=
  String.join ((Stretch.ofText text).map Stretch.markup)

/-- The titles that a text refers to, in order. -/
def linkTitles (text : String) : List String := (Stretch.ofText text).filterMap Stretch.title?

end PageGrep
