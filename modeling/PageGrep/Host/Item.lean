/-
# Grep items on a page

A host shows pages, and an item of a page may hold a program as its text.  The host asks
for the panel of the item, lets it search, and opens the pages that results refer to,
the first beside the page it comes from and the others on their own.
-/
import PageGrep.Report.Panel
import PageGrep.Json.Printer
import PageGrep.Program.Compiled
import PageGrep.Search.Run

namespace PageGrep

def itemName : String := "grep"

/-- Why nothing can be done with an item. -/
inductive ItemError where
  | notAnObject (value : Json)
  | halt (halt : Halt)
deriving Repr

def Json.kindName : Json → String
  | .null => "NoneType"
  | .bool _ => "bool"
  | .int _ => "int"
  | .float _ => "float"
  | .str _ => "str"
  | .arr _ => "list"
  | .obj _ => "dict"

def ItemError.message : ItemError → String
  | notAnObject value => "'" ++ value.kindName ++ "' object has no attribute 'get'"
  | halt h => h.message

/-- Whether a value counts as nothing where a text belongs. -/
def Json.isBlank : Json → Bool
  | .null | .bool false | .int 0 | .str "" | .arr [] | .obj [] => true
  | .float x => x.isZero
  | _ => false

namespace Item

def text (item : Json) : Except ItemError String :=
  match item with
  | .obj _ =>
    let value := item.field "text"
    .ok (if value.isBlank then "" else value.shown)
  | _ => .error (.notAnObject item)

def compiled (engine : Pattern.Engine) (item : Json) : Except ItemError Compiled := do
  (compile engine (← text item)).mapError .halt

def panel (engine : Pattern.Engine) (item : Json) : Except ItemError String :=
  (compiled engine item).map fun c => PageGrep.panel c.listing (Compiled.caption c.errors) []

/-- What is logged of an item that is not searched for. -/
def refusal (errors : Nat) : Record :=
  ⟨.info, "Grep item not run: " ++ toString errors ++ " compile errors"⟩

/-- Searches for an item unless its program has faulty lines: the run, and whether there
was a search. -/
def find (engine : Pattern.Engine) (item : Json) (search : Search) (source : Source)
    (arrange : List PageRef → List PageRef) (cancelAfter : Option Nat) :
    Except ItemError (Run × Bool) :=
  (compiled engine item).map fun c =>
    if c.errors == 0 then (search.run source c.program arrange cancelAfter, true)
    else ({ events := [.log (refusal c.errors)] }, false)

end Item

/-! ## Opening pages -/

/-- The pages to open, each with the page to open it beside: the origin for the first,
none for the others. -/
def openAll {α : Type} (origin : Option α) : List String → List (String × Option α)
  | [] => []
  | title :: rest => (title, origin) :: rest.map fun title => (title, none)

/-- The pages to open for results: every title that they refer to, in order. -/
def openResults {α : Type} (origin : Option α) (results : List String) :
    List (String × Option α) :=
  openAll origin (results.flatMap linkTitles)

end PageGrep
