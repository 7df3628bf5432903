/-
# Patterns as they are matched

A node is a part of a pattern with the settings in force worked into it: each place
that takes a character has its class, and each condition on a place its final form.  A
repetition of one character is a run of a class.  `Node.ofTrees` works the settings in,
and refuses look-behinds that go back too far or whose width is not fixed.
-/
import PageGrep.Pattern.Class
import PageGrep.Pattern.Error
import PageGrep.Pattern.Width

namespace PageGrep.Pattern

/-- A condition on a place between characters, in its final form. -/
inductive Condition where
  | textStart
  | textEnd
  | lastLineEnd
  | lineStart
  | lineEnd
  | wordEdge (ascii negated : Bool)
deriving DecidableEq, Repr

/-- A part of a pattern in its final form.  `rewinds` tells where a possessive repetition goes on
from, and means nothing to the others (`Engine.rewinds`). -/
inductive Node where
  | one (c : Class)
  | condition (c : Condition)
  | again (folding : Folding) (group : Nat)
  | capture (group : Nat) (body : List Node)
  | atomic (body : List Node)
  | branch (alternatives : List (List Node))
  | run (greed : Greed) (least : Nat) (most : Option Nat) (c : Class)
  | repeated (greed : Greed) (rewinds : Bool) (least : Nat) (most : Option Nat) (body : List Node)
  | look (positive : Bool) (back : Nat) (body : List Node)
  | choice (group : Nat) (matched unmatched : List Node)
deriving Repr, Inhabited

def Condition.ofPlace (settings : Settings) : Place → Condition
  | .textStart => .textStart
  | .textEnd => .textEnd
  | .lineStart => if settings.multiline then .lineStart else .textStart
  | .lineEnd => if settings.multiline then .lineEnd else .lastLineEnd
  | .wordEdge => .wordEdge (!settings.unicode) false
  | .noWordEdge => .wordEdge (!settings.unicode) true

def Node.ofLeaf (settings : Settings) : Leaf → Node
  | .one code => .one (.ofCode settings false code)
  | .notOne code => .one (.ofCode settings true code)
  | .any => .one (.ofAny settings)
  | .set negated members => .one (.ofSet settings negated members)
  | .place p => .condition (.ofPlace settings p)
  | .again group => .again settings.folding group

def Node.class? : Node → Option Class
  | .one c => some c
  | _ => none

/-- The class of a sequence that is one leaf taking one character, within groups that
capture nothing or outside of any. -/
def Class.ofTrees? (settings : Settings) : List Tree → Option Class
  | [.leaf l] => (Node.ofLeaf settings l).class?
  | [.group none on off body] => Class.ofTrees? (settings.inside on off) body
  | _ => none

/-- The greatest number that stands for how far a look goes back. -/
def farthestLook : Nat := 4294967295

/-- How far a look goes back: not at all ahead, else by the fixed width of its body. -/
def lookBack (engine : Engine) (groups : Array (Option Width)) (ahead : Bool) (body : List Tree) :
    Except Error Nat :=
  if ahead then .ok 0
  else
    let width := seqWidth engine groups body
    if farthestLook < width.least then .error .lookBehindTooFar
    else if width.least ≠ width.greatest then .error .lookBehindWidth
    else .ok width.least

mutual

/-- The final form of a part; a group that only switches settings leaves its body. -/
def Node.ofTree (engine : Engine) (groups : Array (Option Width)) (settings : Settings) :
    Tree → Except Error (List Node)
  | .leaf l => .ok [.ofLeaf settings l]
  | .group number on off body => do
    let body ← Node.ofTrees engine groups (settings.inside on off) body
    match number with
    | some number => return [.capture number body]
    | none => return body
  | .atomic body => do return [.atomic (← Node.ofTrees engine groups settings body)]
  | .branch alternatives => do
    return [.branch (← Node.ofBranches engine groups settings alternatives)]
  | .repeated greed least most body => do
    if settings.plain then throw (.repeatInPlain greed)
    match Class.ofTrees? settings body with
    | some c => return [.run greed least most c]
    | none =>
      return [.repeated greed engine.rewinds least most
        (← Node.ofTrees engine groups settings body)]
  | .look ahead positive body => do
    let back ← lookBack engine groups ahead body
    return [.look positive back (← Node.ofTrees engine groups settings body)]
  | .choice group matched unmatched => do
    let matched ← Node.ofTrees engine groups settings matched
    return [.choice group matched (← Node.ofTrees engine groups settings unmatched)]

def Node.ofTrees (engine : Engine) (groups : Array (Option Width)) (settings : Settings) :
    List Tree → Except Error (List Node)
  | [] => .ok []
  | part :: rest => do
    let nodes ← Node.ofTree engine groups settings part
    return nodes ++ (← Node.ofTrees engine groups settings rest)

def Node.ofBranches (engine : Engine) (groups : Array (Option Width)) (settings : Settings) :
    List (List Tree) → Except Error (List (List Node))
  | [] => .ok []
  | parts :: rest => do
    let nodes ← Node.ofTrees engine groups settings parts
    return nodes :: (← Node.ofBranches engine groups settings rest)

end

/-! ## How far a look goes back -/

mutual

/-- The farthest that a look in a node goes back. -/
def Node.farthest : Node → Nat
  | .look _ back body => max back (Node.farthestAll body)
  | .capture _ body | .atomic body | .repeated _ _ _ _ body => Node.farthestAll body
  | .branch alternatives => Node.farthestAny alternatives
  | .choice _ matched unmatched => max (Node.farthestAll matched) (Node.farthestAll unmatched)
  | .one _ | .condition _ | .again _ _ | .run _ _ _ _ => 0

def Node.farthestAll : List Node → Nat
  | [] => 0
  | node :: nodes => max node.farthest (Node.farthestAll nodes)

/-- The farthest that a look in some alternative goes back. -/
def Node.farthestAny : List (List Node) → Nat
  | [] => 0
  | nodes :: others => max (Node.farthestAll nodes) (Node.farthestAny others)

end

/-- The nodes, unless a look in them goes back as far as the engine does not allow. -/
def Node.checkLooks (engine : Engine) (nodes : List Node) : Except Error (List Node) :=
  if engine.lookLimit?.any (· ≤ Node.farthestAll nodes) then .error (.excessive .lookBehindTooLong)
  else .ok nodes

/-! ## The first set -/

/-- Whether letters of two cases matter to a member of a set, so that it does not tell
where a match may start. -/
def Folding.mindsCase (folding : Folding) : Member → Bool
  | .one code => folding.cased code
  | member => Class.casedMember folding member

/-- The set that the first character of a match must be of, if the pattern starts with a
set.  Its kinds are taken as the settings of the whole pattern say, also where a group
around the set says otherwise. -/
def firstSet? (whole settings : Settings) : List Tree → Option Class
  | .leaf (.set negated members) :: _ =>
    if members.any settings.folding.mindsCase then none
    else some ⟨.exact, negated, members.flatMap (Class.plainMember (!whole.unicode))⟩
  | .group _ on off body :: _ => firstSet? whole (settings.inside on off) body
  | _ => none

end PageGrep.Pattern
