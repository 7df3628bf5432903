/-
# Patterns as they are written

A pattern is a sequence of parts.  A part that stands for one place of the text, or for
none, is a leaf; the others hold sequences of their own.  What a letter matches depends
on the settings in force where it stands, so a tree keeps letters as they are written
and groups keep the settings that they switch.
-/

namespace PageGrep.Pattern

/-! ## Settings -/

/-- The settings of a pattern.  `ascii` and `unicode` choose between the classes of
basic Latin and those of all characters. -/
structure Settings where
  ignoreCase : Bool
  multiline : Bool
  dotAll : Bool
  verbose : Bool
  ascii : Bool
  unicode : Bool
  plain : Bool
deriving DecidableEq, Repr

namespace Settings

def none : Settings := ⟨false, false, false, false, false, false, false⟩

def union (a b : Settings) : Settings :=
  ⟨a.ignoreCase || b.ignoreCase, a.multiline || b.multiline, a.dotAll || b.dotAll,
    a.verbose || b.verbose, a.ascii || b.ascii, a.unicode || b.unicode, a.plain || b.plain⟩

def common (a b : Settings) : Settings :=
  ⟨a.ignoreCase && b.ignoreCase, a.multiline && b.multiline, a.dotAll && b.dotAll,
    a.verbose && b.verbose, a.ascii && b.ascii, a.unicode && b.unicode, a.plain && b.plain⟩

/-- The settings of the first without those of the second. -/
def without (a b : Settings) : Settings :=
  ⟨a.ignoreCase && !b.ignoreCase, a.multiline && !b.multiline, a.dotAll && !b.dotAll,
    a.verbose && !b.verbose, a.ascii && !b.ascii, a.unicode && !b.unicode, a.plain && !b.plain⟩

/-- Whether a choice of character classes is among the settings. -/
def choosesClasses (a : Settings) : Bool := a.ascii || a.unicode

/-- The settings inside a group that switches some on and some off; a new choice of
character classes replaces the one in force. -/
def inside (outer on off : Settings) : Settings :=
  let base := if on.choosesClasses then { outer with ascii := false, unicode := false } else outer
  (base.union on).without off

def ofLetter? (c : Char) : Option Settings :=
  if c == 'i' then some { none with ignoreCase := true }
  else if c == 'm' then some { none with multiline := true }
  else if c == 's' then some { none with dotAll := true }
  else if c == 'x' then some { none with verbose := true }
  else if c == 'a' then some { none with ascii := true }
  else if c == 'u' then some { none with unicode := true }
  else if c == 't' then some { none with plain := true }
  else Option.none

end Settings

/-! ## Leaves -/

/-- Kinds of characters that have a name. -/
inductive Kind where
  | digit
  | space
  | word
deriving DecidableEq, Repr

/-- A member of a set: a code point, a range with both its ends, or a kind or its
complement. -/
inductive Member where
  | one (code : Nat)
  | range (low high : Nat)
  | kind (k : Kind) (negated : Bool)
deriving DecidableEq, Repr

/-- A condition on a place between characters. -/
inductive Place where
  | textStart
  | textEnd
  | lineStart
  | lineEnd
  | wordEdge
  | noWordEdge
deriving DecidableEq, Repr

/-- A part that holds no other. -/
inductive Leaf where
  | one (code : Nat)
  | notOne (code : Nat)
  | any
  | set (negated : Bool) (members : List Member)
  | place (p : Place)
  | again (group : Nat)
deriving DecidableEq, Repr

/-! ## Trees -/

/-- How a repetition chooses its count: the most first, the least first, or the most
and no other. -/
inductive Greed where
  | greedy
  | reluctant
  | possessive
deriving DecidableEq, Repr

/-- A part of a pattern.  `most` is absent where a repetition has no upper bound; a
choice on a group goes one way if the group has matched and the other way if not. -/
inductive Tree where
  | leaf (l : Leaf)
  | group (number : Option Nat) (on off : Settings) (body : List Tree)
  | atomic (body : List Tree)
  | branch (alternatives : List (List Tree))
  | repeated (greed : Greed) (least : Nat) (most : Option Nat) (body : List Tree)
  | look (ahead positive : Bool) (body : List Tree)
  | choice (group : Nat) (matched unmatched : List Tree)
deriving Repr, Inhabited

namespace Tree

/-- The body of a group that neither captures nor switches settings. -/
def plainBody? : Tree → Option (List Tree)
  | .group none on off body =>
    if on = Settings.none && off = Settings.none then some body else none
  | _ => none

/-- The leaf, if the part is one. -/
def leaf? : Tree → Option Leaf
  | .leaf l => some l
  | _ => none

/-- The sequence with the bodies of plain groups in their place. -/
def splice (parts : List Tree) : List Tree :=
  parts.flatMap fun part => part.plainBody?.getD [part]

end Tree

end PageGrep.Pattern
