/-
# How much text a part takes

The least and the greatest number of characters that a part can match.  They are cut off at
bounds of the engine that no text reaches.  A look-behind needs the two to agree.
-/
import PageGrep.Pattern.Engine
import PageGrep.Pattern.Tree

namespace PageGrep.Pattern

/-- The least and the greatest number of characters. -/
structure Width where
  least : Nat
  greatest : Nat
deriving DecidableEq, Repr

namespace Width

def add (a b : Width) : Width := ⟨a.least + b.least, a.greatest + b.greatest⟩

def either (a b : Width) : Width := ⟨min a.least b.least, max a.greatest b.greatest⟩

def cut (engine : Engine) (a : Width) : Width :=
  ⟨min a.least engine.leastLimit, min a.greatest engine.greatestLimit⟩

/-- The width of a part repeated `least` to `most` times. -/
def times (engine : Engine) (least : Nat) (most : Option Nat) (a : Width) : Width :=
  ⟨a.least * least, a.greatest * most.getD engine.greatestLimit⟩

end Width

/-- The width of a leaf, given the widths of the groups closed so far. -/
def Leaf.width (groups : Array (Option Width)) : Leaf → Width
  | .place _ => ⟨0, 0⟩
  | .again group => (groups.getD group none).getD ⟨0, 0⟩
  | _ => ⟨1, 1⟩

mutual

def Tree.width (engine : Engine) (groups : Array (Option Width)) : Tree → Width
  | .leaf l => l.width groups
  | .group _ _ _ body => seqWidth engine groups body
  | .atomic body => seqWidth engine groups body
  | .branch alternatives => branchWidth engine groups ⟨engine.leastLimit, 0⟩ alternatives
  | .repeated _ least most body => (seqWidth engine groups body).times engine least most
  | .look _ _ _ => ⟨0, 0⟩
  | .choice _ matched unmatched =>
    (seqWidth engine groups matched).either (seqWidth engine groups unmatched)

def seqWidth (engine : Engine) (groups : Array (Option Width)) : List Tree → Width
  | [] => ⟨0, 0⟩
  | part :: rest => ((part.width engine groups).add (seqWidth engine groups rest)).cut engine

/-- The width of one of several sequences, `so` being that of the ones before. -/
def branchWidth (engine : Engine) (groups : Array (Option Width)) (so : Width) :
    List (List Tree) → Width
  | [] => so
  | first :: others => branchWidth engine groups (so.either (seqWidth engine groups first)) others

end

end PageGrep.Pattern
