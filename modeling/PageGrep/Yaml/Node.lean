/-
# The nodes of a settings file

Tokens are put together to scalars, lists and mappings, each with its tag.  An anchor
names a node, and an alias stands for the node named, also within that node itself; so
nodes have places, and a list or a mapping tells the places of its parts.  What has no tag
gets one by its place and, if it is a scalar without quotes, by its text.

Tokens are asked for one by one.  A rule broken by the tokens so far is told before a
fault of the text after them.
-/
import PageGrep.Yaml.Tag

namespace PageGrep.Yaml

/-- A node; the parts of a list or a mapping are told by their places. -/
inductive Node where
  | scalar (tag : Tag) (text : String)
  | sequence (tag : Tag) (items : List Nat)
  | mapping (tag : Tag) (pairs : List (Nat × Nat))
deriving Repr

namespace Node

def tag : Node → Tag
  | scalar tag _ | sequence tag _ | mapping tag _ => tag

def withTag (tag : Tag) : Node → Node
  | scalar _ text => scalar tag text
  | sequence _ items => sequence tag items
  | mapping _ pairs => mapping tag pairs

end Node

/-- The nodes of a document by their places, and the place of the outermost. -/
structure Graph where
  nodes : Array Node
  root : Nat
deriving Repr

/-- The state while nodes are put together: the tokens ahead and the fault after them, the
abbreviations of tags, the places that anchors name, and the nodes so far. -/
structure Builder where
  ahead : List Token
  fault : Option Fault
  handles : List (String × String) := []
  anchors : List (String × Nat) := []
  nodes : Array Node := #[]

abbrev Build (α : Type) := StateT Builder (Except Fault) α

namespace Build

def malformed {α : Type} : Build α := throw .malformed

/-- The token ahead; nothing at the end of the text. -/
def peek : Build (Option Token) := do
  let s ← get
  match s.ahead, s.fault with
  | [], some fault => throw fault
  | ahead, _ => return ahead.head?

def skip : Build Unit := modify fun s => { s with ahead := s.ahead.drop 1 }

def accept (t : Token) : Build Bool := do
  if (← peek) == some t then
    skip
    return true
  else return false

def expect (t : Token) : Build Unit := do
  if !(← accept t) then malformed

def nextIn (ts : List Token) : Build Bool := do
  return ((← peek).map ts.contains).getD false

/-! ## Anchors and tags -/

def standardHandles : List (String × String) := [("!", "!"), ("!!", Tag.common)]

/-- A tag as it is written: a handle, if any, and what follows it. -/
abbrev WrittenTag := Option String × String

def expand : WrittenTag → Build String
  | (none, rest) => return rest
  | (some handle, rest) => do
    match (← get).handles.find? (·.1 == handle) with
    | some (_, lead) => return lead ++ rest
    | none => malformed

/-- The tag that is ahead, if there is one. -/
def takeTag : Build (Option WrittenTag) := do
  match ← peek with
  | some (.tag handle rest) =>
    skip
    return some (handle, rest)
  | _ => return none

/-- The anchor that is ahead, if there is one. -/
def takeAnchor : Build (Option String) := do
  match ← peek with
  | some (.anchor name) =>
    skip
    return some name
  | _ => return none

/-- The anchor and the tag before a node, in either order. -/
def takeProperties : Build (Option String × Option WrittenTag) := do
  match ← takeAnchor with
  | some anchor => return (some anchor, ← takeTag)
  | none =>
    match ← takeTag with
    | some tag => return (← takeAnchor, some tag)
    | none => return (none, none)

/-! ## Places -/

/-- Gives a node a place, which its anchor names if it has one.  The name must be new. -/
def add (anchor : Option String) (n : Node) : Build Nat := do
  let place := (← get).nodes.size
  if let some name := anchor then
    if (← get).anchors.any (·.1 == name) then malformed
    modify fun s => { s with anchors := (name, place) :: s.anchors }
  modify fun s => { s with nodes := s.nodes.push n }
  return place

def put (place : Nat) (n : Node) : Build Unit :=
  modify fun s => { s with nodes := s.nodes.setIfInBounds place n }

def aliased (name : String) : Build Nat := do
  match (← get).anchors.find? (·.1 == name) with
  | some (_, place) => return place
  | none => malformed

def empty : Build Nat := add none (.scalar (Tag.ofText "") "")

/-- A list, whose place is known before its items are. -/
def sequence (anchor tag : Option String) (items : Build (List Nat)) : Build Nat := do
  let place ← add anchor (.sequence (.ofSequence tag) [])
  put place (.sequence (.ofSequence tag) (← items))
  return place

/-- A mapping, whose place is known before its pairs are. -/
def mapping (anchor tag : Option String) (pairs : Build (List (Nat × Nat))) : Build Nat := do
  let place ← add anchor (.mapping (.ofMapping tag) [])
  put place (.mapping (.ofMapping tag) (← pairs))
  return place

/-! ## Nodes -/

mutual

/-- The place of a node.  Outside of brackets it may be a block; after a key or a value a
list need not be indented. -/
def node (block loose : Bool) : (fuel : Nat) → Build Nat
  | 0 => malformed
  | fuel + 1 => do
    match ← peek with
    | some (.reference name) =>
      skip
      aliased name
    | _ =>
      let (anchor, written) ← takeProperties
      let tag ← written.mapM expand
      content block loose anchor tag fuel

/-- What comes after the anchor and the tag of a node; with one of them it may be
missing. -/
def content (block loose : Bool) (anchor tag : Option String) : (fuel : Nat) → Build Nat
  | 0 => malformed
  | fuel + 1 => do
    let ahead ← peek
    if loose && ahead == some .entry then sequence anchor tag (looseEntries fuel)
    else
      match ahead with
      | some (.scalar text plain) =>
        skip
        add anchor (.scalar (.ofScalar tag plain text) text)
      | some .openBracket =>
        skip
        sequence anchor tag (bracketItems true fuel)
      | some .openBrace =>
        skip
        mapping anchor tag (bracePairs true fuel)
      | _ =>
        if block && ahead == some .sequenceStart then
          skip
          sequence anchor tag (blockEntries fuel)
        else if block && ahead == some .mappingStart then
          skip
          mapping anchor tag (blockPairs fuel)
        else if anchor.isSome || tag.isSome then add anchor (.scalar (.ofScalar tag true "") "")
        else malformed

/-- A node, or an empty scalar if one of some tokens is ahead. -/
def nodeUnless (stops : List Token) (block loose : Bool) : (fuel : Nat) → Build Nat
  | 0 => malformed
  | fuel + 1 => do
    if ← nextIn stops then empty else node block loose fuel

def blockEntries : (fuel : Nat) → Build (List Nat)
  | 0 => malformed
  | fuel + 1 => do
    if ← accept .entry then
      let item ← nodeUnless [.entry, .blockEnd] true false fuel
      return item :: (← blockEntries fuel)
    expect .blockEnd
    return []

/-- The entries of a list that is not indented. -/
def looseEntries : (fuel : Nat) → Build (List Nat)
  | 0 => malformed
  | fuel + 1 => do
    if ← accept .entry then
      let item ← nodeUnless [.entry, .key, .value, .blockEnd] true false fuel
      return item :: (← looseEntries fuel)
    return []

/-- The value after a key, an empty scalar if there is none. -/
def valueUnless (stops : List Token) (block : Bool) : (fuel : Nat) → Build Nat
  | 0 => malformed
  | fuel + 1 => do
    if ← accept .value then nodeUnless stops block block fuel else empty

def blockPairs : (fuel : Nat) → Build (List (Nat × Nat))
  | 0 => malformed
  | fuel + 1 => do
    let stops := [Token.key, .value, .blockEnd]
    if ← accept .key then
      let key ← nodeUnless stops true true fuel
      let value ← valueUnless stops true fuel
      return (key, value) :: (← blockPairs fuel)
    expect .blockEnd
    return []

/-- The items of a list in brackets; a key in it makes a mapping of one pair. -/
def bracketItems (first : Bool) : (fuel : Nat) → Build (List Nat)
  | 0 => malformed
  | fuel + 1 => do
    if ← accept .closeBracket then return []
    if !first then expect .comma
    if ← accept .closeBracket then return []
    let item ←
      if ← nextIn [.key] then mapping none none (bracketPair fuel) else node false false fuel
    return item :: (← bracketItems false fuel)

def bracketPair : (fuel : Nat) → Build (List (Nat × Nat))
  | 0 => malformed
  | fuel + 1 => do
    skip
    let key ← nodeUnless [.value, .comma, .closeBracket] false false fuel
    let value ← valueUnless [.comma, .closeBracket] false fuel
    return [(key, value)]

/-- The pairs of a mapping in braces; without a sign for it a key has no value. -/
def bracePairs (first : Bool) : (fuel : Nat) → Build (List (Nat × Nat))
  | 0 => malformed
  | fuel + 1 => do
    if ← accept .closeBrace then return []
    if !first then expect .comma
    if ← accept .closeBrace then return []
    let pair ←
      if ← accept .key then do
        let key ← nodeUnless [.value, .comma, .closeBrace] false false fuel
        let value ← valueUnless [.comma, .closeBrace] false fuel
        pure (key, value)
      else do
        let key ← node false false fuel
        pure (key, ← empty)
    return pair :: (← bracePairs false fuel)

end

/-! ## Documents -/

/-- The directives of a document: at most one version, which must be of the first kind,
and abbreviations that differ. -/
def directives (versioned : Bool) : (fuel : Nat) → Build Unit
  | 0 => malformed
  | fuel + 1 => do
    match ← peek with
    | some (.version major _) =>
      if versioned || major != 1 then malformed
      skip
      directives true fuel
    | some (.shorthand handle lead) =>
      if (← get).handles.any (·.1 == handle) then malformed
      skip
      modify fun s => { s with handles := (handle, lead) :: s.handles }
      directives versioned fuel
    | some .otherDirective =>
      skip
      directives versioned fuel
    | _ => modify fun s => { s with handles := s.handles ++ standardHandles }

def atDirective : Build Bool := do
  match ← peek with
  | some (.version _ _) | some (.shorthand _ _) | some .otherDirective => return true
  | _ => return false

/-- The outermost node of a document that starts with directives or with its sign. -/
def explicitDocument (fuel : Nat) : Build Nat := do
  directives false fuel
  expect .documentStart
  if (← peek).isNone || (← atDirective) || (← nextIn [.documentStart, .documentEnd]) then empty
  else node true false fuel

def skipEnds : (fuel : Nat) → Build Unit
  | 0 => return
  | fuel + 1 => do if ← accept .documentEnd then skipEnds fuel

/-- Refuses another document after the first; its directives are looked at before. -/
def expectEnd (fuel : Nat) : Build Unit := do
  skipEnds fuel
  if (← peek).isSome then
    modify fun s => { s with handles := [] }
    directives false fuel
    malformed

/-- The nodes of the only document, if there is one. -/
def document (fuel : Nat) : Build (Option Graph) := do
  if (← peek).isNone then return none
  let root ←
    if (← atDirective) || (← nextIn [.documentStart]) then explicitDocument fuel
    else do
      modify fun s => { s with handles := standardHandles }
      node true false fuel
  expectEnd fuel
  return some ⟨(← get).nodes, root⟩

end Build

/-- The nodes of a text, if it holds a document. -/
def graph (text : String) : Except Fault (Option Graph) := do
  let ⟨ready, fault⟩ := tokens text
  (·.1) <$> (Build.document (4 * ready.length + 8)).run { ahead := ready, fault := fault }

end PageGrep.Yaml
