/-
# Paths

A path leads from the working directory, or from the root if it starts with a slash, down
through the names between its slashes.  Empty names and single dots are left out; two dots
go up and are kept.  Just two slashes at the front are told apart from one.
-/
import PageGrep.Text.Lines

namespace PageGrep

/-- A path: the slashes at its front (none, one or two) and its names. -/
structure Path where
  slashes : Nat := 0
  names : List String := []
deriving DecidableEq, Repr, Inhabited

namespace Path

/-- The slashes that count at the front of a text: three or more are as one. -/
def frontSlashes (cs : List Char) : Nat :=
  match (cs.takeWhile (· == '/')).length with
  | 0 => 0
  | 2 => 2
  | _ => 1

/-- Whether a name leads anywhere from the place it is read at. -/
def isStep (name : List Char) : Bool := !(name.isEmpty || name == ['.'])

/-- The names between the slashes of a text that lead anywhere. -/
def stepsOf (cs : List Char) : List String :=
  ((Text.cutAt '/' cs).filter isStep).map String.ofList

def ofText (s : String) : Path := ⟨frontSlashes s.toList, stepsOf s.toList⟩

/-- The text of a path; the empty path is a single dot. -/
def text (p : Path) : String :=
  match p.slashes, p.names with
  | 0, [] => "."
  | n, names => String.ofList (List.replicate n '/') ++ "/".intercalate names

def isAbsolute (p : Path) : Bool := p.slashes != 0

/-- What a text leads to from a path; a text that starts at the root leaves the path. -/
def join (p : Path) (s : String) : Path :=
  let further := ofText s
  if further.isAbsolute then further else { p with names := p.names ++ further.names }

end Path

/-! ## Paths as they are given -/

/-- Whether a text spells a path that can only be a directory: it ends in a slash or in a
name that is a single dot. -/
def endsInDirectory (s : String) : Bool :=
  match (Text.cutAt '/' s.toList).getLast? with
  | some [] => s != ""
  | some ['.'] => true
  | _ => false

end PageGrep
