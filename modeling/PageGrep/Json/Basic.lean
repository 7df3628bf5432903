/-
# Values of the page format

Pages, sitemaps and stored results are values of the data format of the web: null,
truth values, numbers, texts, lists and objects.  Whole numbers of any size are kept
apart from numbers of the binary format.  An object keeps its fields in the order in
which their names first came; a name given again replaces the value and keeps its
place (`Fields.put`).
-/
import PageGrep.Number.Shortest

namespace PageGrep

/-- A value of the data format. -/
inductive Json where
  | null
  | bool (value : Bool)
  | int (value : Int)
  | float (value : Binary64)
  | str (value : String)
  | arr (items : List Json)
  | obj (fields : List (String × Json))
deriving Repr, Inhabited

namespace Json

/-! ## Fields of an object -/

def lookup? {α : Type} (name : String) : List (String × α) → Option α
  | [] => none
  | (key, value) :: rest => if key == name then some value else lookup? name rest

/-- Puts a value under a name: in place if the name is there, else at the end. -/
def put {α : Type} (name : String) (value : α) : List (String × α) → List (String × α)
  | [] => [(name, value)]
  | (key, old) :: rest =>
    if key == name then (key, value) :: rest else (key, old) :: put name value rest

/-- The object with the given fields, names given again replacing what they had. -/
def ofFields (fields : List (String × Json)) : Json :=
  .obj (fields.foldl (fun done field => put field.1 field.2 done) [])

/-- The value of a field, null if there is none or the value is no object. -/
def field (value : Json) (name : String) : Json :=
  match value with
  | .obj fields => (lookup? name fields).getD .null
  | _ => .null

/-- The value of a field; nothing for null. -/
def field? (value : Json) (name : String) : Option Json :=
  match value.field name with
  | .null => none
  | found => some found

/-- The text, if the value is one. -/
def str? : Json → Option String
  | .str s => some s
  | _ => none

/-- The items of a list; other values have none. -/
def items : Json → List Json
  | .arr items => items
  | _ => []

/-- The truth value, if the value is one. -/
def bool? : Json → Option Bool
  | .bool b => some b
  | _ => none

/-- The whole number, if the value is one. -/
def int? : Json → Option Int
  | .int i => some i
  | _ => none

end Json

end PageGrep
