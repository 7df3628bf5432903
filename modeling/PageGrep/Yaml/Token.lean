/-
# Tokens of a settings file

The signs that a settings file is made of, the faults that reading one can end with,
and the state of the reader that cuts a text into tokens: where it stands, how deep in
brackets, and how far the lines are indented.
-/
import PageGrep.Text.Numeral
import PageGrep.Text.Quoted

namespace PageGrep.Yaml

/-- A sign of a settings file.  A tag is a handle, if any, and what follows it; a scalar
tells whether it was written without quotes. -/
inductive Token where
  | version (major minor : Nat)
  | shorthand (handle lead : String)
  | otherDirective
  | documentStart
  | documentEnd
  | sequenceStart
  | mappingStart
  | blockEnd
  | openBracket
  | closeBracket
  | openBrace
  | closeBrace
  | entry
  | comma
  | key
  | value
  | reference (name : String)
  | anchor (name : String)
  | tag (handle : Option String) (rest : String)
  | scalar (text : String) (plain : Bool)
deriving DecidableEq, Repr

/-- Parts of a date or a time that have a range. -/
inductive DatePart where
  | year
  | month
  | day
  | hour
  | minute
  | second
deriving DecidableEq, Repr

/-- Why a settings file cannot be read: it breaks the rules of the format, or a scalar
is not what its tag says. -/
inductive Fault where
  | malformed
  | codeOutOfRange
  | codeTooLarge
  | noDigits
  | notWhole (base : Nat) (text : String)
  | notANumber (text : String)
  | notATruth (text : String)
  | notATime
  | outOfRange (part : DatePart) (value : Int)
  | offsetTooLarge (minutes : Int)
  | tooManyDigits (count : Nat)
  | weightTooLarge
  | notAText
deriving DecidableEq, Repr

def DatePart.message : DatePart → Int → String
  | year, value => "year " ++ toString value ++ " is out of range"
  | month, _ => "month must be in 1..12"
  | day, _ => "day is out of range for month"
  | hour, _ => "hour must be in 0..23"
  | minute, _ => "minute must be in 0..59"
  | second, _ => "second must be in 0..59"

/-- A span of minutes as days and seconds, of which the seconds are not negative. -/
def spanText (minutes : Int) : String :=
  let days := minutes.fdiv 1440
  let seconds := minutes.fmod 1440 * 60
  let parts :=
    (if days != 0 then ["days=" ++ toString days] else [])
      ++ if seconds != 0 then ["seconds=" ++ toString seconds] else []
  "datetime.timedelta(" ++ ", ".intercalate parts ++ ")"

/-- The most characters of a quoted text that a fault shows. -/
def quotedLimit : Nat := 200

def Fault.message : Fault → String
  | malformed => "malformed settings"
  | codeOutOfRange => "chr() arg not in range(0x110000)"
  | codeTooLarge => "Python int too large to convert to C int"
  | noDigits => "string index out of range"
  | notWhole base text =>
    "invalid literal for int() with base " ++ toString base ++ ": "
      ++ String.ofList ((Text.quoted text).toList.take quotedLimit)
  | notANumber text => "could not convert string to float: " ++ Text.quoted text
  | notATruth text => Text.quoted text
  | notATime => "'NoneType' object has no attribute 'groupdict'"
  | outOfRange part value => part.message value
  | offsetTooLarge minutes =>
    "offset must be a timedelta strictly between -timedelta(hours=24) and timedelta(hours=24), not "
      ++ spanText minutes ++ "."
  | tooManyDigits count => Text.Numeral.tooManyDigitsMessage count
  | weightTooLarge => "int too large to convert to float"
  | notAText => "expected string or bytes-like object, got 'list'"

/-! ## Characters -/

def isBreak (c : Char) : Bool :=
  c == '\n' || c == '\r' || c == '\x85' || c == '\u2028' || c == '\u2029'

/-- Whether nothing or the end of a line is ahead. -/
def endsLine (ahead : Option Char) : Bool := (ahead.map isBreak).getD true

/-- Whether nothing, a space or the end of a line is ahead. -/
def endsWord (ahead : Option Char) : Bool := endsLine ahead || ahead == some ' '

/-- Whether nothing, a space, a tab or the end of a line is ahead. -/
def endsText (ahead : Option Char) : Bool := endsWord ahead || ahead == some '\t'

def isNameChar (c : Char) : Bool :=
  ('0' ≤ c && c ≤ '9') || ('A' ≤ c && c ≤ 'Z') || ('a' ≤ c && c ≤ 'z') || c == '-' || c == '_'

/-- Whether a character may stand in a file at all. -/
def isPrintable (c : Char) : Bool :=
  let n := c.toNat
  n == 9 || n == 10 || n == 13 || (0x20 ≤ n && n ≤ 0x7E) || n == 0x85 || (0xA0 ≤ n && n ≤ 0xD7FF)
    || (0xE000 ≤ n && n ≤ 0xFFFD) || 0x10000 ≤ n

/-! ## The state of the reader -/

/-- A place where a key may have started: the number of tokens before it, whether there
must be a key, and the place. -/
structure PossibleKey where
  number : Nat
  required : Bool
  index : Nat
  line : Nat
  column : Nat
deriving Repr

/-- The state: the characters ahead, the place they start at, the depth in brackets, the
indentation and those outside of it, the tokens so far with the last first, their number,
whether a key may start here, and for each depth the place of a possible key. -/
structure Lexer where
  ahead : List Char
  index : Nat := 0
  line : Nat := 0
  column : Nat := 0
  depth : Nat := 0
  indent : Int := -1
  outer : List Int := []
  tokens : List Token := []
  count : Nat := 0
  keyAllowed : Bool := true
  keys : List (Nat × PossibleKey) := []

/-- Puts a token before the one of a number, or after all. -/
def Lexer.insert (number : Nat) (t : Token) (s : Lexer) : Lexer :=
  let after := s.count - number
  { s with tokens := s.tokens.take after ++ t :: s.tokens.drop after, count := s.count + 1 }

def Lexer.push (t : Token) (s : Lexer) : Lexer := s.insert s.count t

abbrev Scan (α : Type) := StateT Lexer (Except Fault) α

namespace Scan

/-- The character ahead, `offset` places on. -/
def peekAt (offset : Nat) : Scan (Option Char) := do return (← get).ahead[offset]?

def peek : Scan (Option Char) := do return (← get).ahead.head?

def nextIs (c : Char) : Scan Bool := do return (← peek) == some c

def malformed {α : Type} : Scan α := throw .malformed

def advance (s : Lexer) : Lexer :=
  match s.ahead with
  | [] => s
  | c :: rest =>
    let moved := { s with ahead := rest, index := s.index + 1 }
    if c == '\r' && rest.head? == some '\n' then { moved with column := s.column + 1 }
    else if isBreak c then { moved with line := s.line + 1, column := 0 }
    else if c == '\uFEFF' then moved
    else { moved with column := s.column + 1 }

def forward : (count : Nat) → Scan Unit
  | 0 => return
  | n + 1 => do
    modify advance
    forward n

def takeWhile (p : Char → Bool) : Scan (List Char) := do
  let taken := (← get).ahead.takeWhile p
  forward taken.length
  return taken

def skipSpaces : Scan Unit := do discard <| takeWhile (· == ' ')

def skipComment : Scan Unit := do
  if ← nextIs '#' then discard <| takeWhile fun c => !isBreak c

/-- Takes the end of a line, as the character that it stands for. -/
def lineBreak : Scan (List Char) := do
  match (← get).ahead with
  | '\r' :: '\n' :: _ =>
    forward 2
    return ['\n']
  | c :: _ =>
    if c == '\u2028' || c == '\u2029' then
      forward 1
      return [c]
    else if isBreak c then
      forward 1
      return ['\n']
    else return []
  | [] => return []

/-- Passes the rest of a line that may hold a comment and nothing else. -/
def restOfLine : Scan Unit := do
  skipSpaces
  skipComment
  if !endsLine (← peek) then malformed
  discard lineBreak

/-- Whether the three signs that start or end a document are next. -/
def atMarker : Scan Bool := do
  let ahead := (← get).ahead
  let three := ahead.take 3
  return (three == ['-', '-', '-'] || three == ['.', '.', '.']) && endsText ahead[3]?

/-- A bound for the steps that the characters ahead allow. -/
def room : Scan Nat := do return (← get).ahead.length + 1

end Scan

end PageGrep.Yaml
