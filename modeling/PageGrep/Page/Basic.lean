/-
# Pages

A page has a story and a journal of what made it.  The members of both are entries, which
have a type and a few optional texts; a member may carry another that it is about, as the
actions of a journal do.  Everything that came from a server also keeps the object it was
read from.
-/
import PageGrep.Json.Basic

namespace PageGrep

/-- The fields of an object as it was received; empty for what was built here. -/
abbrev Payload := List (String × Json)

/-- What a member of a story or a journal says. -/
structure Entry where
  kind : String
  text : Option String := none
  title : Option String := none
  site : Option String := none
  id : Option String := none
  otherName : Option String := none
  payload : Payload := []
deriving Repr, Inhabited

/-- A member of a story or a journal: an entry, and the member that it is about. -/
structure Member extends Entry where
  item : Option Member := none
deriving Repr, Inhabited

/-- A page. -/
structure Page where
  slug : String
  title : String
  story : List Member := []
  journal : List Member := []
  payload : Payload := []
deriving Repr, Inhabited

/-- A place of a site's directory. -/
structure PageRef where
  slug : String
  title : Option String := none
  date : Option Int := none
deriving Repr, DecidableEq, Inhabited

/-- A page that matched. -/
structure Hit where
  slug : String
  title : String
  storyCount : Int
deriving Repr, DecidableEq, Inhabited

def Page.hit (p : Page) : Hit := ⟨p.slug, p.title, p.story.length⟩

/-- How a hit is referred to in results. -/
def Hit.reference (h : Hit) : String :=
  "[[" ++ h.title ++ "]] (" ++ toString h.storyCount ++ ")"

/-- What a test can be asked of. -/
inductive Part where
  | page (p : Page)
  | member (m : Member)
deriving Repr, Inhabited

end PageGrep
