/-
# What a test reads

A test reads one of the texts of a part of a page, or the whole part in the page
format: as it was received or, for a part built here, by its fields, those without a
value left out.
-/
import PageGrep.Json.Printer
import PageGrep.Page.Basic

namespace PageGrep

/-- A text that parts of a page carry. -/
inductive Field where
  | text
  | title
  | site
  | id
  | otherName
deriving DecidableEq, Repr

namespace Field

/-- Every field, in the order in which an entry keeps them. -/
def all : List Field := [text, title, site, id, otherName]

def name : Field → String
  | text => "text"
  | title => "title"
  | site => "site"
  | id => "id"
  | otherName => "alias"

def ofEntry (e : Entry) : Field → Option String
  | text => e.text
  | title => e.title
  | site => e.site
  | id => e.id
  | otherName => e.otherName

/-- The text of an entry, the empty one for none. -/
def inEntry (f : Field) (e : Entry) : String := (f.ofEntry e).getD ""

/-- The text of a part.  A page has its title only; a member without the text has that of
the member it is about, which is asked for its own only. -/
def read (f : Field) : Part → String
  | .page p => if f = title then p.title else ""
  | .member m =>
    let own := f.inEntry m.toEntry
    if own == "" then (m.item.map fun item => f.inEntry item.toEntry).getD "" else own

end Field

/-! ## Whole parts -/

def Entry.texts (e : Entry) : Payload :=
  Field.all.filterMap fun f => (f.ofEntry e).map fun s => (f.name, .str s)

mutual

def Member.fields : Member → Payload
  | ⟨e, item⟩ =>
    if e.payload.isEmpty then ("type", .str e.kind) :: (e.texts ++ itemFields item)
    else e.payload

def itemFields : Option Member → Payload
  | none => []
  | some item => [("item", .obj item.fields)]

end

def Page.fields (p : Page) : Payload :=
  if p.payload.isEmpty then
    [("slug", .str p.slug), ("title", .str p.title),
      ("story", .arr (p.story.map fun m => .obj m.fields)),
      ("journal", .arr (p.journal.map fun m => .obj m.fields))]
  else p.payload

def Part.fields : Part → Payload
  | page p => p.fields
  | member m => m.fields

/-- A part in the page format. -/
def Part.jsonText (part : Part) : String := (Json.obj part.fields).text 1

end PageGrep
