/-
# The value of a settings file

Each node has the value that its tag says.  A mapping takes in the pairs of the mappings
it merges, before its own; of two pairs with the same key the later one counts.

A file may hold more than one fault.  A scalar is valued where it is met; a list, a set or
a mapping is only noted there, and its parts are met once all that was noted before has
had its turn.  The first fault on this way is told.  So the parts of a node are not looked
at before the node itself is known, and a node may hold itself.

What a node is worth is kept by its place, and written out to a value at the end
(`Document.value`).  A node that holds itself has no end to write out: it is followed for more
levels than settings are read from, and then left empty.  Whether settings laid over others come to
an end is therefore seen from the places of the nodes and not from the value
(`Document.isEndless`).
-/
import PageGrep.Yaml.Node
import PageGrep.Yaml.Spelling

namespace PageGrep.Yaml

/-- What a node is worth: a value of its own, or values of other nodes put together.  A
value that equals no other, not even one written the same, is `single`. -/
inductive Worth where
  | plain (v : Value) (single : Bool)
  | list (items : List Nat)
  | couples (pairs : List (Nat × Nat))
  | set (keys : List Nat)
  | map (pairs : List (Nat × Nat))
deriving Repr

/-- The state of valuing: the nodes, what each is worth as far as that is known, and the
places of those noted, the last first. -/
structure Valuation where
  nodes : Array Node
  worths : Array (Option Worth)
  noted : List Nat

abbrev Valuing (α : Type) := StateT Valuation (Except Fault) α

namespace Valuing

def malformed {α : Type} : Valuing α := throw .malformed

def nodeAt (place : Nat) : Valuing Node := do
  match (← get).nodes[place]? with
  | some node => return node
  | none => malformed

def pairsAt (place : Nat) : Valuing (List (Nat × Nat)) := do
  match ← nodeAt place with
  | .mapping _ pairs => return pairs
  | _ => malformed

/-- What the node at a place is worth, if that is known. -/
def worthAt (place : Nat) : Valuing (Option Worth) := do
  return (← get).worths.getD place none

def change (place : Nat) (f : Node → Node) : Valuing Unit :=
  modify fun s => { s with nodes := s.nodes.modify place f }

def setPairs (place : Nat) (pairs : List (Nat × Nat)) : Valuing Unit :=
  change place fun node => .mapping node.tag pairs

def setWorth (place : Nat) (worth : Worth) : Valuing Unit :=
  modify fun s => { s with worths := s.worths.setIfInBounds place (some worth) }

/-! ## Scalars -/

/-- The text of a node where a scalar is wanted: that of the scalar itself or of the value
that a mapping names as its own. -/
def textAt : (fuel : Nat) → (place : Nat) → Valuing String
  | 0, _ => malformed
  | fuel + 1, place => do
    match ← nodeAt place with
    | .scalar _ text => return text
    | .sequence _ _ => malformed
    | .mapping _ pairs =>
      match ← pairs.findM? fun (key, _) => return (← nodeAt key).tag == .value with
      | some (_, value) => textAt fuel value
      | none => malformed

/-- What a node with the tag of a scalar is worth.  A date is read from the scalar itself
only. -/
def scalarWorth (place : Nat) : Valuing Worth := do
  let text ← textAt ((← get).nodes.size + 1) place
  let tag ← match ← nodeAt place with
    | .mapping .timestamp _ => throw .notAText
    | node => pure node.tag
  let v ← scalarValue tag text
  return .plain v (v.isNaN && !spellsNaN text)

/-! ## Meeting nodes -/

/-- What a list, a set or a mapping is worth before its parts are known. -/
def hollow : Tag → Worth
  | .map => .map []
  | .set => .set []
  | .omap | .pairs => .couples []
  | _ => .list []

/-- Meets a node: values it if it is a scalar and notes it if not, but only the first
time. -/
def meet (place : Nat) : Valuing Unit := do
  if (← worthAt place).isSome then return
  let tag := (← nodeAt place).tag
  if tag.isCollective then
    setWorth place (hollow tag)
    modify fun s => { s with noted := place :: s.noted }
  else setWorth place (← scalarWorth place)

/-! ## Merging -/

/-- The pairs that a node gives to the mapping that merges it, of several mappings those
of the last first; `nested` merges what they merge themselves. -/
def mergedPairs (nested : Nat → Valuing Unit) (place : Nat) : Valuing (List (Nat × Nat)) := do
  match ← nodeAt place with
  | .scalar _ _ => malformed
  | .mapping _ _ =>
    nested place
    pairsAt place
  | .sequence _ items =>
    let lists ← items.mapM fun item => do
      nested item
      pairsAt item
    return lists.reverse.flatten

/-- Takes the signs for merging out of a mapping, from the pair of a number on, and puts
the pairs merged, `so` far others, before its own.  A key that is the sign for the value
itself becomes a text. -/
def flattenFrom (nested : Nat → Valuing Unit) (place : Nat) (so : List (Nat × Nat)) (index : Nat) :
    (steps : Nat) → Valuing Unit
  | 0 => do setPairs place (so ++ (← pairsAt place))
  | steps + 1 => do
    match (← pairsAt place)[index]? with
    | none => setPairs place (so ++ (← pairsAt place))
    | some (key, value) =>
      match (← nodeAt key).tag with
      | .merge =>
        setPairs place ((← pairsAt place).eraseIdx index)
        let more ← mergedPairs nested value
        flattenFrom nested place (so ++ more) index steps
      | .value =>
        change key (Node.withTag .str)
        flattenFrom nested place so (index + 1) steps
      | _ => flattenFrom nested place so (index + 1) steps

/-- Merges what a mapping merges.  Each nested merging has taken a sign out before. -/
def flatten : (fuel : Nat) → (place : Nat) → Valuing Unit
  | 0, _ => malformed
  | fuel + 1, place => do flattenFrom (flatten fuel) place [] 0 (← pairsAt place).length

/-! ## Filling -/

/-- Whether two keys are the same: they are one node, or their values are equal. -/
def sameKey (worths : Array (Option Worth)) (a b : Nat) : Bool :=
  a == b ||
    match worths.getD a none, worths.getD b none with
    | some (.plain v single), some (.plain w single') => !single && !single' && v.sameKey w
    | _, _ => false

/-- Puts a value under a key: in place if the key is there, else at the end. -/
def putPair (worths : Array (Option Worth)) (key value : Nat) : List (Nat × Nat) → List (Nat × Nat)
  | [] => [(key, value)]
  | (k, old) :: rest =>
    if sameKey worths k key then (k, value) :: rest
    else (k, old) :: putPair worths key value rest

/-- Meets the pairs of a mapping, of which each key must have a value of its own. -/
def entries (so : List (Nat × Nat)) : List (Nat × Nat) → Valuing (List (Nat × Nat))
  | [] => return so
  | (key, value) :: rest => do
    meet key
    if let some (.plain _ _) ← worthAt key then pure () else malformed
    meet value
    entries (putPair (← get).worths key value so) rest

/-- Meets the parts of a mapping that has one pair. -/
def couple (place : Nat) : Valuing (Nat × Nat) := do
  match ← nodeAt place with
  | .mapping _ [(key, value)] =>
    meet key
    meet value
    return (key, value)
  | _ => malformed

/-- Meets the parts of what was noted at a place; `limit` bounds how often merging can be
nested. -/
def fill (limit place : Nat) : Valuing Unit := do
  match ← nodeAt place with
  | .sequence .seq items =>
    items.forM meet
    setWorth place (.list items)
  | .sequence .omap items | .sequence .pairs items =>
    setWorth place (.couples (← items.mapM couple))
  | .mapping .map _ =>
    flatten limit place
    setWorth place (.map (← entries [] (← pairsAt place)))
  | .mapping .set _ =>
    flatten limit place
    setWorth place (.set ((← entries [] (← pairsAt place)).map Prod.fst))
  | _ => malformed

/-- Fills all that was noted, and what is noted on the way.  A node is noted at most once,
so there are no more rounds than nodes. -/
def fillAll (limit : Nat) : (rounds : Nat) → Valuing Unit
  | 0 => return
  | rounds + 1 => do
    let places := (← get).noted.reverse
    if !places.isEmpty then
      modify fun s => { s with noted := [] }
      places.forM (fill limit)
      fillAll limit rounds

end Valuing

/-! ## Writing out -/

/-- The value of a node as far as it is written out, and whether that is all of it. -/
structure Written where
  value : Value
  whole : Bool

namespace Worth

/-- The value of a node before its parts are written out. -/
def outline : Worth → Written
  | plain v _ => ⟨v, true⟩
  | list _ | couples _ => ⟨.list [], false⟩
  | set _ => ⟨.set [], false⟩
  | map _ => ⟨.map [], false⟩

/-- The value of a node of which the parts are written out. -/
def write (parts : Array Written) (worth : Worth) : Written :=
  let part := fun place => parts.getD place ⟨.null, true⟩
  let both := fun (a, b) => ((part a).value, (part b).value)
  let wholeBoth := fun (a, b) => (part a).whole && (part b).whole
  match worth with
  | plain v _ => ⟨v, true⟩
  | list items => ⟨.list (items.map fun i => (part i).value), items.all fun i => (part i).whole⟩
  | couples pairs =>
    ⟨.list (pairs.map fun p => .couple (both p).1 (both p).2), pairs.all wholeBoth⟩
  | set keys => ⟨.set (keys.map fun k => (part k).value), keys.all fun k => (part k).whole⟩
  | map pairs => ⟨.map (pairs.map both), pairs.all wholeBoth⟩

end Worth

/-- The value of a node, with one more level written out in each round until it is
whole. -/
def writeOut (worths : Array Worth) (root : Nat) : (rounds : Nat) → Array Written → Value
  | 0, written => (written.getD root ⟨.null, true⟩).value
  | rounds + 1, written =>
    match written[root]? with
    | some ⟨value, true⟩ => value
    | _ => writeOut worths root rounds (worths.map (Worth.write written))

/-- The levels that are written out of a node that holds itself, beyond the number of
nodes.  Settings are read from three. -/
def furtherLevels : Nat := 8

namespace Graph

def pairCount (g : Graph) : Nat :=
  g.nodes.foldl (fun so node =>
    match node with
    | .mapping _ pairs => so + pairs.length
    | _ => so) 0

def worths (g : Graph) : Except Fault (Array Worth) := do
  let start : Valuation := ⟨g.nodes, Array.replicate g.nodes.size none, []⟩
  let valuing : Valuing Unit := do
    Valuing.meet g.root
    Valuing.fillAll (g.pairCount + 1) (g.nodes.size + 1)
  let ((), done) ← valuing.run start
  return done.worths.map fun worth => worth.getD (.plain .null false)

end Graph

/-- A document: what each of its nodes is worth, and the place of the outermost one. -/
structure Document where
  worths : Array Worth
  root : Nat

namespace Document

/-- The document of a text that has none. -/
def none : Document := ⟨#[], 0⟩

/-- The value of the outermost node. -/
def value (d : Document) : Value :=
  writeOut d.worths d.root (d.worths.size + furtherLevels) (d.worths.map Worth.outline)

/-- The document that a text writes. -/
def ofText (text : String) : Except Fault Document := do
  match ← graph text with
  | some g => return ⟨← g.worths, g.root⟩
  | Option.none => return .none

/-! ## Two documents side by side

Where both have a mapping, the mappings that the two have under the same keys are side by side in
turn.  There may be no end to that, since a mapping may hold itself. -/

def pairsAt (d : Document) (place : Nat) : List (Nat × Nat) :=
  match d.worths[place]? with
  | some (.map pairs) => pairs
  | _ => []

/-- Whether a key of one document is the same as a key of another. -/
def sameKey (lower upper : Document) (a b : Nat) : Bool :=
  match lower.worths[a]?, upper.worths[b]? with
  | some (.plain v single), some (.plain w single') => !single && !single' && v.sameKey w
  | _, _ => false

/-- The places side by side in two mappings: those of the values under the same keys. -/
def beside (lower upper : Document) (places : Nat × Nat) : List (Nat × Nat) :=
  (upper.pairsAt places.2).filterMap fun (key, value) =>
    ((lower.pairsAt places.1).find? fun (k, _) => lower.sameKey upper k key).map fun (_, v) =>
      (v, value)

/-- The places side by side so many levels further in. -/
def besideAfter (lower upper : Document) : (levels : Nat) → List (Nat × Nat) → List (Nat × Nat)
  | 0, places => places
  | n + 1, places =>
    if places.isEmpty then []
    else besideAfter lower upper n (places.flatMap (beside lower upper)).eraseDups

/-- Whether there is no end to what is side by side: there is something at a level with more
levels above it than there are pairs of mappings. -/
def isEndless (lower upper : Document) : Bool :=
  let levels := lower.worths.size * upper.worths.size + 1
  !(besideAfter lower upper levels [(lower.root, upper.root)]).isEmpty

end Document

/-- The value of a text; nothing without a document. -/
def load (text : String) : Except Fault Value := (Document.ofText text).map Document.value

end PageGrep.Yaml
