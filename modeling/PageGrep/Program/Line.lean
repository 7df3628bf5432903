/-
# Lines of a program

A line is blanks, a word, blanks and an argument.  The word says what the step does; a
selecting step takes a type of small letters, a testing step a pattern.  A line without
a word holds no step.
-/
import PageGrep.Program.Basic
import PageGrep.Text.Blank

namespace PageGrep

/-- Why a line holds no valid step. -/
inductive Fault where
  | unknownCommand (word : String)
  | notAType (argument : String)
  | badPattern (argument : String) (error : Pattern.Error)
deriving DecidableEq, Repr

def Fault.message : Fault → String
  | unknownCommand word => "don't know '" ++ word ++ "' command"
  | notAType argument => "expecting type for '" ++ argument ++ "'"
  | badPattern argument error =>
    "bad pattern '" ++ argument ++ "': " ++ error.message argument

/-- What ends the reading of a program, where a fault would only mark its line: a line
that is none, and a pattern that asks for too much. -/
inductive Halt where
  | notALine (line : String)
  | excessive (excess : Pattern.Excess)
deriving DecidableEq, Repr

def Halt.message : Halt → String
  | notALine line => "line pattern failed on " ++ Text.quoted line
  | excessive excess => excess.message

namespace Line

def skipBlanks (cs : List Char) : List Char := cs.dropWhile fun c => Text.isBlank c.toNat

def word (cs : List Char) : List Char := cs.takeWhile fun c => Text.isWord c.toNat

def skipWord (cs : List Char) : List Char := cs.dropWhile fun c => Text.isWord c.toNat

/-- The argument: what remains, without a line feed at its end.  A line feed anywhere
else makes it none. -/
def argument? (cs : List Char) : Option (List Char) :=
  let body := if cs.getLast? == some '\n' then cs.dropLast else cs
  if body.contains '\n' then none else some body

/-- The word and the argument of a line. -/
def split? (line : String) : Option (String × String) :=
  let fromWord := skipBlanks line.toList
  (argument? (skipBlanks (skipWord fromWord))).map fun argument =>
    (String.ofList (word fromWord), String.ofList argument)

def isType (argument : String) : Bool :=
  argument.toList.all fun c => 'a'.toNat ≤ c.toNat && c.toNat ≤ 'z'.toNat

/-- What a line comes to. -/
inductive Outcome where
  | nothing
  | step (s : Step)
  | fault (f : Fault)
deriving Repr

def ofPattern (engine : Pattern.Engine) (subject : Subject) (argument : String) :
    Except Halt Outcome :=
  match Pattern.compile engine argument with
  | .ok pattern => .ok (.step (.test subject pattern))
  | .error (.excessive excess) => .error (.excessive excess)
  | .error error => .ok (.fault (.badPattern argument error))

def ofParts (engine : Pattern.Engine) (word argument : String) : Except Halt Outcome :=
  if word == "" then .ok .nothing
  else
    match Op.ofName? word with
    | none => .ok (.fault (.unknownCommand word))
    | some (.select c) =>
      if isType argument then .ok (.step (.select c argument))
      else .ok (.fault (.notAType argument))
    | some (.test subject) => ofPattern engine subject argument

/-- What a line comes to. -/
def compile (engine : Pattern.Engine) (line : String) : Except Halt Outcome :=
  match split? line with
  | some (word, argument) => ofParts engine word argument
  | none => .error (.notALine line)

end Line

end PageGrep
