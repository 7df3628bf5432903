/-
# Patterns

A pattern describes texts; a search asks whether some part of a text is described.
Patterns are read with case ignored and with lines as units.  A search that comes to a garbled
match breaks down and gives no answer.
-/
import PageGrep.Pattern.Reader
import PageGrep.Pattern.Search

namespace PageGrep

/-- A pattern: how it is written, the nodes it stands for, the set that the first
character of a match must be of, the least number of characters of a match, and the
number of groups. -/
structure Pattern where
  source : String
  nodes : List Pattern.Node
  first? : Option Pattern.Class
  least : Nat
  groups : Nat
deriving Repr

namespace Pattern

/-- The settings that every pattern starts with. -/
def Settings.standard : Settings := { Settings.none with ignoreCase := true, multiline := true }

/-- The settings in force once the whole pattern is read: all characters unless the
pattern chooses basic Latin. -/
def Settings.final (s : Settings) : Settings := if s.ascii then s else { s with unicode := true }

/-- The pattern that a text writes, or why it is refused. -/
def compile (engine : Engine) (source : String) : Except Error Pattern := do
  let parsed ← read engine .standard source
  let settings := parsed.settings.final
  let nodes ← Node.checkLooks engine (← Node.ofTrees engine parsed.groups settings parsed.parts)
  return ⟨source, nodes, firstSet? settings settings parsed.parts,
    (seqWidth engine parsed.groups parsed.parts).least, parsed.groups.size⟩

/-- What comes of looking for the pattern in a text. -/
def find (p : Pattern) (text : String) : Finding :=
  findIn p.groups p.least p.first? p.nodes (text.toList.map Char.toNat).toArray

/-- Whether the pattern describes some part of a text. -/
def search (p : Pattern) (text : String) : Except Breakdown Bool :=
  match p.find text with
  | .absent => .ok false
  | .present => .ok true
  | .garbled => .error .garbled

end Pattern

end PageGrep
