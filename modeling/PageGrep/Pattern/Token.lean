/-
# The signs of a pattern

A pattern is read sign by sign; a sign is one character, or a backslash with the
character after it.  The reader looks one sign ahead, so a backslash that ends the
pattern is refused as soon as it comes next.
-/
import PageGrep.Pattern.Error
import PageGrep.Pattern.Width

namespace PageGrep.Pattern

/-- One sign of a pattern and the position of its first character. -/
structure Token where
  start : Nat
  escaped : Bool
  char : Char
deriving DecidableEq, Repr

namespace Token

def size (t : Token) : Nat := if t.escaped then 2 else 1

def text (t : Token) : String :=
  if t.escaped then String.ofList ['\\', t.char] else String.singleton t.char

/-- Whether the sign is the character `c`. -/
def isChar (t : Token) (c : Char) : Bool := !t.escaped && t.char == c

def satisfies (t : Token) (p : Char → Bool) : Bool := !t.escaped && p t.char

/-- The signs of a text that starts at `position`, and whether a backslash is left over
at its end. -/
def split (position : Nat) : List Char → List Token × Bool
  | [] => ([], false)
  | ['\\'] => ([], true)
  | '\\' :: c :: rest =>
    let (tokens, dangling) := split (position + 2) rest
    (⟨position, true, c⟩ :: tokens, dangling)
  | c :: rest =>
    let (tokens, dangling) := split (position + 1) rest
    (⟨position, false, c⟩ :: tokens, dangling)

end Token

/-! ## The state of a reader -/

/-- What a reader knows: the engine it reads for, the signs ahead, the global settings, and of the
groups their widths once closed, their names, the number open before the outermost look-behind,
and the choices made on groups that may be missing. -/
structure Progress where
  engine : Engine
  ahead : List Token
  dangling : Bool
  size : Nat
  settings : Settings
  groups : Array (Option Width)
  names : List (String × Nat)
  behind : Option Nat
  choices : List (Nat × Nat)

abbrev Read (α : Type) := StateT Progress (Except Error) α

namespace Read

def peek : Read (Option Token) := do return (← get).ahead.head?

def position : Read Nat := do
  let now ← get
  return (now.ahead.head?.map Token.start).getD now.size

/-- Refuses the pattern, `back` characters before the next sign. -/
def refuse {α : Type} (cause : Cause) (back : Nat) : Read α := do
  throw (.broken cause ((← position) - back))

def refuseAt {α : Type} (cause : Cause) (place : Nat) : Read α := throw (.broken cause place)

/-- Makes `tokens` the signs ahead. -/
def proceed (tokens : List Token) : Read Unit := do
  let now ← get
  if tokens.isEmpty && now.dangling then throw (.broken .escapeAtEnd (now.size - 1))
  set { now with ahead := tokens }

def next : Read (Option Token) := do
  match (← get).ahead with
  | [] => return none
  | t :: rest =>
    proceed rest
    return some t

/-- Takes the next sign if it is the character `c`. -/
def accept (c : Char) : Read Bool := do
  match (← get).ahead with
  | t :: rest =>
    if t.isChar c then
      proceed rest
      return true
    else return false
  | [] => return false

def nextIs (p : Char → Bool) : Read Bool := do
  return ((← peek).map fun t => t.satisfies p).getD false

/-- Takes characters of a class, at most so many. -/
def takeWhile (p : Char → Bool) : (most : Nat) → Read (List Char)
  | 0 => return []
  | n + 1 => do
    match (← get).ahead with
    | t :: rest =>
      if t.satisfies p then
        proceed rest
        return t.char :: (← takeWhile p n)
      else return []
    | [] => return []

def takeAll (p : Char → Bool) : Read (List Char) := do takeWhile p (← get).ahead.length

/-- Takes the signs up to a closing character, which is taken too. -/
def nameFrom (closing : Char) (what : String) (so : List Char) : (fuel : Nat) → Read String
  | 0 => refuse (.missingName what) 0
  | fuel + 1 => do
    match ← next with
    | none =>
      if so.isEmpty then refuse (.missingName what) 0
      else refuse (.unterminatedName closing) so.length
    | some t =>
      if t.isChar closing then
        if so.isEmpty then refuse (.missingName what) 1 else return String.ofList so
      else nameFrom closing what (so ++ t.text.toList) fuel

def name (closing : Char) (what : String) : Read String := do
  nameFrom closing what [] ((← get).ahead.length + 1)

/-! ## Groups -/

def isClosed (number : Nat) : Read Bool := do return ((← get).groups.getD number none).isSome

/-- Refuses a reference within a look-behind to a group that is open or part of it. -/
def checkBehind (number : Nat) : Read Unit := do
  match (← get).behind with
  | none => return
  | some bound =>
    if !(← isClosed number) then refuse .openGroup 0
    else if bound ≤ number then refuse .sameLookBehind 0

/-- Opens a group and gives its number. -/
def openGroup (called : Option String) : Read Nat := do
  let now ← get
  let number := now.groups.size
  set { now with groups := now.groups.push none }
  match called with
  | none => return number
  | some name =>
    match now.names.find? (·.1 == name) with
    | some (_, former) => refuse (.repeatedGroupName name number former) (name.length + 1)
    | none =>
      modify fun now => { now with names := now.names ++ [(name, number)] }
      return number

/-- Closes a group, whose width is known from then on. -/
def closeGroup (number : Nat) (body : List Tree) : Read Unit :=
  modify fun now =>
    let width := seqWidth now.engine now.groups body
    { now with groups := now.groups.setIfInBounds number (some width) }

end Read

end PageGrep.Pattern
