/-
# Programs as they are compiled

A program text is compiled line by line, and what came of each line is kept.  The steps,
the problems and the listing are all views of these lines: the steps in order, one
problem for each faulty line with the line's number from one, and one piece of markup
for each line, faulty ones marked and told why.
-/
import PageGrep.Program.Line
import PageGrep.Text.Lines
import PageGrep.Text.Markup

namespace PageGrep

/-- A faulty line: its number from one, its text and what is wrong with it. -/
structure Problem where
  number : Nat
  line : String
  fault : Fault
deriving DecidableEq, Repr

/-- A line and what it came to. -/
structure CompiledLine where
  line : String
  outcome : Line.Outcome
deriving Repr

/-- A compiled program text. -/
structure Compiled where
  lines : List CompiledLine
deriving Repr

namespace CompiledLine

def ofLine (engine : Pattern.Engine) (line : String) : Except Halt CompiledLine :=
  (Line.compile engine line).map fun outcome => ⟨line, outcome⟩

def step? (l : CompiledLine) : Option Step :=
  match l.outcome with
  | .step s => some s
  | _ => none

def fault? (l : CompiledLine) : Option Fault :=
  match l.outcome with
  | .fault f => some f
  | _ => none

/-- How a faulty line looks. -/
def faultStyle : String := "background-color:#fdd;width:100%;"

/-- The mark before a faulty line, which tells the fault. -/
def faultMark (f : Fault) : String :=
  "<span style=\"" ++ faultStyle ++ "\" title=\"" ++ Text.escapeAttribute f.message ++ "\">"

def piece (l : CompiledLine) : String :=
  match l.fault? with
  | some f => faultMark f ++ Text.escape l.line ++ "</span>"
  | none => Text.escape l.line

end CompiledLine

namespace Compiled

def lineBreak : String := "<br>"

def program (c : Compiled) : Program := c.lines.filterMap CompiledLine.step?

def listing (c : Compiled) : String := lineBreak.intercalate (c.lines.map CompiledLine.piece)

/-- The problems of lines that are numbered from `first` on. -/
def problemsFrom (first : Nat) : List CompiledLine → List Problem
  | [] => []
  | l :: rest =>
    (l.fault?.map fun f => ⟨first, l.line, f⟩).toList ++ problemsFrom (first + 1) rest

def problems (c : Compiled) : List Problem := problemsFrom 1 c.lines

def errors (c : Compiled) : Nat := c.problems.length

/-- What stands in a caption for a number of faulty lines. -/
def caption (errors : Int) : String :=
  if errors = 0 then "ready" else toString errors ++ " errors"

end Compiled

/-- Compiles a program text. -/
def compile (engine : Pattern.Engine) (source : String) : Except Halt Compiled :=
  ((Text.lines source).mapM (CompiledLine.ofLine engine)).map Compiled.mk

end PageGrep
