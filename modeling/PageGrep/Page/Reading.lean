/-
# Reading pages

Pages and sitemaps are read leniently: members that are no objects are left out, and
values where a text belongs are taken by their form within running text.  Only a page
that is no object and a sitemap that is no list are refused.
-/
import PageGrep.Json.Printer
import PageGrep.Page.Basic

namespace PageGrep

/-! ## Texts -/

/-- The text that a value stands for; null, lists and objects stand for none. -/
def Json.asText? : Json → Option String
  | .null | .arr _ | .obj _ => none
  | value => some value.shown

def Json.textField? (value : Json) (name : String) : Option String := (value.field name).asText?

/-! ## Members -/

def Entry.ofFields (fields : Payload) : Entry :=
  let value := Json.obj fields
  { kind := (value.textField? "type").getD ""
    text := value.textField? "text"
    title := value.textField? "title"
    site := value.textField? "site"
    id := value.textField? "id"
    otherName := value.textField? "alias"
    payload := fields }

/-- The member of a story that a value holds, if it is an object. -/
def Member.ofEntry? : Json → Option Member
  | .obj fields => some { Entry.ofFields fields with }
  | _ => none

/-- The member of a journal that a value holds, if it is an object: it may be about one of
a story. -/
def Member.ofAction? : Json → Option Member
  | .obj fields =>
    some { Entry.ofFields fields with item := ofEntry? (Json.field (.obj fields) "item") }
  | _ => none

/-! ## Pages and sitemaps -/

/-- Why what was received is no page or no sitemap. -/
inductive Malformed where
  | page (slug : String)
  | sitemap
deriving DecidableEq, Repr

def Malformed.message : Malformed → String
  | page slug => "page payload for " ++ slug ++ " must be an object"
  | sitemap => "sitemap payload must be a list"

/-- The page that a value holds; without a title it is called by its slug. -/
def Page.ofJson (slug : String) : Json → Except Malformed Page
  | .obj fields =>
    let value := Json.obj fields
    let title := (value.textField? "title").getD ""
    .ok
      { slug := slug
        title := if title == "" then slug else title
        story := (value.field "story").items.filterMap Member.ofEntry?
        journal := (value.field "journal").items.filterMap Member.ofAction?
        payload := fields }
  | _ => .error (.page slug)

/-- Why a member of a sitemap is no place. -/
inductive Skipped where
  | notAnObject
  | missingSlug
deriving DecidableEq, Repr

def Skipped.message : Skipped → String
  | notAnObject => "not an object"
  | missingSlug => "missing slug"

def PageRef.ofJson (place : Json) : Except Skipped PageRef :=
  match place with
  | .obj _ =>
    match (place.textField? "slug").getD "" with
    | "" => .error .missingSlug
    | slug => .ok ⟨slug, place.textField? "title", (place.field "date").int?⟩
  | _ => .error .notAnObject

/-- A directory of pages as it was read: a place or a reason for each member. -/
abbrev Directory := List (Except Skipped PageRef)

def Directory.ofJson : Json → Except Malformed Directory
  | .arr places => .ok (places.map PageRef.ofJson)
  | _ => .error .sitemap

def Directory.refs (d : Directory) : List PageRef := d.filterMap Except.toOption

/-- The members left out, each with its number and the reason. -/
def Directory.skipped (d : Directory) : List (Nat × Skipped) :=
  d.zipIdx.filterMap fun (place, index) =>
    match place with
    | .error reason => some (index, reason)
    | .ok _ => none

end PageGrep
