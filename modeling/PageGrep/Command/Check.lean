/-
# Checking a program

A check compiles a program and logs each of its problems, in the order of the lines, and
then how many steps and problems there are.
-/
import PageGrep.Log.Level
import PageGrep.Program.Compiled

namespace PageGrep

def Problem.note (problem : Problem) : Record :=
  ⟨.error, "line " ++ toString problem.number ++ ": " ++ problem.fault.message ++ "  | "
    ++ problem.line⟩

namespace Compiled

def problemNotes (c : Compiled) : List Record := c.problems.map Problem.note

def summaryNote (c : Compiled) : Record :=
  ⟨.info, "Compiled " ++ toString c.program.length ++ " steps, " ++ toString c.errors
    ++ " errors"⟩

end Compiled

/-- What a check logs, and how many faulty lines it counts. -/
structure Checked where
  log : List Record
  errors : Nat
deriving DecidableEq, Repr

/-- Checks a program text. -/
def check (engine : Pattern.Engine) (source : String) : Except Halt Checked :=
  (compile engine source).map fun c => ⟨c.problemNotes ++ [c.summaryNote], c.errors⟩

end PageGrep
