/-
# Matching pages

A program is asked of a page from its first step on.  A selecting step holds if the
steps after it hold of some member it selects.  Plain matching asks no more than one
step after a selecting one; chained matching asks every step, and a selecting step
further on goes back to the page.

How a pattern is looked for in a text does not matter to any of this, so it is left open
until the end, where the search for patterns comes in.  A search may break down, and then
no step is asked any more; the first member of which the steps hold ends the asking, so a
search further on is never tried.
-/
import PageGrep.Program.Basic

namespace PageGrep

def Collection.members (c : Collection) (page : Page) : List Member :=
  match c with
  | story => page.story
  | journal => page.journal

/-- The members that a step selects. -/
def Collection.select (c : Collection) (kind : String) (page : Page) : List Member :=
  (c.members page).filter fun member => kind == "" || member.kind == kind

section Asking

variable {m : Type → Type} [Monad m] (look : Pattern → String → m Bool)

/-- Asks the steps from a part on. -/
def askPart (page : Page) (chained : Bool) : Part → Program → m Bool
  | _, [] => pure true
  | _, .select c kind :: rest =>
    if chained then
      (c.select kind page).anyM fun member => askPart page chained (.member member) rest
    else pure false
  | part, .test s pattern :: rest => do
    if ← look pattern (s.read part) then
      if chained then askPart page chained part rest else pure true
    else pure false

/-- Asks a program of a page. -/
def askPage (page : Page) (program : Program) (chained : Bool) : m Bool :=
  match program with
  | .select c kind :: rest =>
    (c.select kind page).anyM fun member => askPart look page chained (.member member) rest
  | program => askPart look page chained (.page page) program

end Asking

/-- Whether a program holds of a page, if no search breaks down on the way. -/
def matchPage (page : Page) (program : Program) (chained : Bool) :
    Except Pattern.Breakdown Bool :=
  askPage Pattern.search page program chained

/-! ## Looking that always gives an answer -/

/-- A way to look for patterns in texts that always gives an answer. -/
abbrev Finder := Pattern → String → Bool

/-- Whether the steps hold from a part on. -/
def matchPart (find : Finder) (page : Page) (chained : Bool) (part : Part) (program : Program) :
    Bool :=
  Id.run (askPart find page chained part program)

/-- Whether a program holds of a page when patterns are looked for in some way. -/
def matchPageBy (find : Finder) (page : Page) (program : Program) (chained : Bool) : Bool :=
  Id.run (askPage find page program chained)

end PageGrep
