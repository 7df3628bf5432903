/-
# Scalars, names and directives

How the longer tokens of a settings file are read: texts within quotes, without quotes
and as indented blocks, names of anchors, tags, and directives.
-/
import PageGrep.Json.Parser
import PageGrep.Text.Utf8
import PageGrep.Yaml.Token

namespace PageGrep.Yaml

open Scan

/-! ## Directives -/

def scanNumber : Scan Nat := do
  let digits ← takeWhile Json.isDecimal
  if digits.isEmpty then malformed
  if Text.Numeral.digitLimit < digits.length then throw (.tooManyDigits digits.length)
  return Json.decimalValue digits

def scanVersion : Scan Token := do
  skipSpaces
  let major ← scanNumber
  if !(← nextIs '.') then malformed
  forward 1
  let minor ← scanNumber
  if !endsWord (← peek) then malformed
  return .version major minor

def scanOctet : Scan UInt8 := do
  match (← get).ahead with
  | a :: b :: _ =>
    match Json.hexValue? a, Json.hexValue? b with
    | some high, some low =>
      forward 2
      return UInt8.ofNat (high * 16 + low)
    | _, _ => malformed
  | _ => malformed

def scanOctets : (fuel : Nat) → Scan (List UInt8)
  | 0 => return []
  | fuel + 1 => do
    if ← nextIs '%' then
      forward 1
      let octet ← scanOctet
      return octet :: (← scanOctets fuel)
    else return []

/-- Whether a character may stand in the rest of a tag. -/
def isTagChar (c : Char) : Bool :=
  isNameChar c || ";/?:@&=+$,.!~*'()[]".toList.contains c

/-- The rest of a tag, in pieces. -/
def scanTagPieces : (fuel : Nat) → Scan (List Char)
  | 0 => return []
  | fuel + 1 => do
    let piece ← takeWhile isTagChar
    if ← nextIs '%' then
      match Text.Utf8.decode (← scanOctets (← room)) with
      | .ok s => return piece ++ s.toList ++ (← scanTagPieces fuel)
      | .error _ => malformed
    else return piece

/-- The rest of a tag, at least one character. -/
def scanTagRest : Scan String := do
  if !(((← peek).map fun c => isTagChar c || c == '%').getD false) then malformed
  return String.ofList (← scanTagPieces (← room))

/-- The handle of a tag: one exclamation mark, or a name between two. -/
def scanTagHandle : Scan String := do
  if !(← nextIs '!') then malformed
  forward 1
  if ← nextIs ' ' then return "!"
  let name ← takeWhile isNameChar
  if !(← nextIs '!') then malformed
  forward 1
  return String.ofList ('!' :: (name ++ ['!']))

/-- The tags that a directive abbreviates. -/
def scanShorthand : Scan Token := do
  skipSpaces
  let handle ← scanTagHandle
  if !(← nextIs ' ') then malformed
  skipSpaces
  let lead ← scanTagRest
  if !endsWord (← peek) then malformed
  return .shorthand handle lead

/-- A directive, from its percent sign on. -/
def scanDirective : Scan Token := do
  forward 1
  let name ← takeWhile isNameChar
  if name.isEmpty || !endsWord (← peek) then malformed
  let token ←
    if name == "YAML".toList then scanVersion
    else if name == "TAG".toList then scanShorthand
    else do
      discard <| takeWhile fun c => !isBreak c
      pure Token.otherDirective
  restOfLine
  return token

/-! ## Names and tags -/

/-- The name of an anchor, from its sign on. -/
def scanName : Scan String := do
  forward 1
  let name ← takeWhile isNameChar
  let ahead ← peek
  let closed := endsText ahead || (ahead.map fun c => "?:,]\x7d%@`".toList.contains c).getD false
  if name.isEmpty || !closed then malformed
  return String.ofList name

/-- Whether an exclamation mark comes before the word ends. -/
def hasHandle (cs : List Char) : Bool :=
  (cs.takeWhile fun c => !endsWord (some c)).contains '!'

/-- A tag, from its exclamation mark on. -/
def scanTag : Scan Token := do
  let following ← peekAt 1
  let token ←
    if following == some '<' then do
      forward 2
      let rest ← scanTagRest
      if !(← nextIs '>') then malformed
      forward 1
      pure (Token.tag none rest)
    else if endsText following then do
      forward 1
      pure (Token.tag none "!")
    else if hasHandle ((← get).ahead.drop 1) then do
      let handle ← scanTagHandle
      pure (Token.tag (some handle) (← scanTagRest))
    else do
      forward 1
      pure (Token.tag (some "!") (← scanTagRest))
  if !endsWord (← peek) then malformed
  return token

/-! ## Blocks -/

/-- What to do with the line ends at the end of a block. -/
inductive Chomp where
  | clip
  | strip
  | keep
deriving DecidableEq, Repr

/-- The sign for what to do with the last line ends. -/
def scanChomp : Scan Chomp := do
  if ← nextIs '+' then
    forward 1
    return .keep
  else if ← nextIs '-' then
    forward 1
    return .strip
  else return .clip

def scanIncrement : Scan (Option Nat) := do
  match ← peek with
  | some c =>
    if Json.isDecimal c then
      if c == '0' then malformed
      forward 1
      return some (c.toNat - 48)
    else return none
  | none => return none

/-- The signs after the one that starts a block, in either order. -/
def scanBlockHeader : Scan (Chomp × Option Nat) := do
  let first ← scanChomp
  let increment ← scanIncrement
  let chomp ← if first == .clip && increment.isSome then scanChomp else pure first
  if !endsWord (← peek) then malformed
  return (chomp, increment)

/-- The empty lines before a block, and the deepest column reached in them. -/
def scanIndentation (deepest : Nat) : (fuel : Nat) → Scan (List Char × Nat)
  | 0 => return ([], deepest)
  | fuel + 1 => do
    if ← nextIs ' ' then
      forward 1
      scanIndentation (max deepest (← get).column) fuel
    else
      match ← lineBreak with
      | [] => return ([], deepest)
      | ending =>
        let (endings, deepest) ← scanIndentation deepest fuel
        return (ending ++ endings, deepest)

def indentTo (column : Nat) : Scan Unit := do
  let s ← get
  forward ((s.ahead.take (column - s.column)).takeWhile (· == ' ')).length

/-- The empty lines within a block, and the indentation of the line after them. -/
def scanEmptyLines (column : Nat) : (fuel : Nat) → Scan (List Char)
  | 0 => return []
  | fuel + 1 => do
    indentTo column
    match ← lineBreak with
    | [] => return []
    | ending => return ending ++ (← scanEmptyLines column fuel)

def atBlockLine (column : Nat) : Scan Bool := do
  return (← get).column == column && (← peek).isSome

def atBlank : Scan Bool := do
  let ahead ← peek
  return ahead == some ' ' || ahead == some '\t'

/-- The lines of a block: its text, its last line end, and the empty lines after it.
Folding joins two lines that both start with no blank. -/
def scanBlockLines (folded : Bool) (column : Nat) :
    (fuel : Nat) → Scan (List Char × List Char × List Char)
  | 0 => return ([], [], [])
  | fuel + 1 => do
    let flush := !(← atBlank)
    let line ← takeWhile fun c => !isBreak c
    let ending ← lineBreak
    let empty ← scanEmptyLines column (← room)
    if ← atBlockLine column then
      let joins := folded && ending == ['\n'] && flush && !(← atBlank)
      let between := if joins then (if empty.isEmpty then [' '] else []) else ending
      let (more, last, after) ← scanBlockLines folded column fuel
      return (line ++ between ++ empty ++ more, last, after)
    else return (line, ending, empty)

/-- A block, from the sign that starts it on. -/
def scanBlock (folded : Bool) : Scan Token := do
  forward 1
  let (chomp, increment) ← scanBlockHeader
  restOfLine
  let least := (max ((← get).indent + 1) 1).toNat
  let (empty, column) ←
    match increment with
    | none => do
      let (empty, deepest) ← scanIndentation 0 (← room)
      pure (empty, max least deepest)
    | some n => do
      let column := least + n - 1
      pure (← scanEmptyLines column (← room), column)
  let (text, ending, after) ←
    if ← atBlockLine column then do
      let (text, ending, after) ← scanBlockLines folded column (← room)
      pure (empty ++ text, ending, after)
    else pure ([], [], empty)
  let tail :=
    match chomp with
    | .strip => []
    | .clip => ending
    | .keep => ending ++ after
  return .scalar (String.ofList (text ++ tail)) false

/-! ## Quoted texts -/

def escapeOf? (c : Char) : Option Char :=
  let table : List (Char × Char) :=
    [('0', '\x00'), ('a', '\x07'), ('b', '\x08'), ('t', '\t'), ('\t', '\t'), ('n', '\n'),
      ('v', '\x0b'), ('f', '\x0c'), ('r', '\r'), ('e', '\x1b'), (' ', ' '), ('"', '"'),
      ('\\', '\\'), ('/', '/'), ('N', '\x85'), ('_', '\xa0'), ('L', '\u2028'), ('P', '\u2029')]
  (table.find? (·.1 == c)).map Prod.snd

/-- How many digits the code has that a character after a backslash announces. -/
def codeLength? (c : Char) : Option Nat :=
  if c == 'x' then some 2 else if c == 'u' then some 4 else if c == 'U' then some 8 else none

/-- The number that hexadecimal digits spell, if all are such. -/
def hexNumber? (digits : List Char) : Option Nat :=
  digits.foldl (fun so c => so.bind fun n => (Json.hexValue? c).map (n * 16 + ·)) (some 0)

/-- A character given by its code of so many digits. -/
def scanCode (count : Nat) : Scan Char := do
  let digits := (← get).ahead.take count
  match hexNumber? digits with
  | some n =>
    if digits.length < count then malformed
    else if 0x80000000 ≤ n then throw .codeTooLarge
    else if 0x110000 ≤ n then throw .codeOutOfRange
    else
      forward count
      return Json.codeChar n
  | none => malformed

/-- The empty lines within a quoted text, in which no document may start or end. -/
def scanQuotedBreaks : (fuel : Nat) → Scan (List Char)
  | 0 => return []
  | fuel + 1 => do
    if ← atMarker then malformed
    discard <| takeWhile fun c => c == ' ' || c == '\t'
    match ← lineBreak with
    | [] => return []
    | ending => return ending ++ (← scanQuotedBreaks fuel)

/-- What a backslash and the characters after it stand for. -/
def scanEscape : Scan (List Char) := do
  forward 1
  match ← peek with
  | none => malformed
  | some c =>
    if let some x := escapeOf? c then
      forward 1
      return [x]
    else if let some count := codeLength? c then
      forward 1
      return [← scanCode count]
    else if isBreak c then
      discard lineBreak
      scanQuotedBreaks (← room)
    else malformed

/-- Characters of a quoted text up to a blank, a line end or the closing quote. -/
def scanQuotedWord (double : Bool) : (fuel : Nat) → Scan (List Char)
  | 0 => return []
  | fuel + 1 => do
    match (← get).ahead with
    | [] => return []
    | c :: rest =>
      if endsText (some c) then return []
      else if double && c == '\\' then
        let piece ← scanEscape
        return piece ++ (← scanQuotedWord double fuel)
      else if double && c == '"' then return []
      else if !double && c == '\'' then
        if rest.head? == some '\'' then
          forward 2
          return '\'' :: (← scanQuotedWord double fuel)
        else return []
      else
        forward 1
        return c :: (← scanQuotedWord double fuel)

/-- The blanks and line ends within a quoted text: one line end is a space, of several
the first is dropped. -/
def scanQuotedBlanks : Scan (List Char) := do
  let blanks ← takeWhile fun c => c == ' ' || c == '\t'
  if (← peek).isNone then malformed
  match ← lineBreak with
  | [] => return blanks
  | ending =>
    let more ← scanQuotedBreaks (← room)
    if ending != ['\n'] then return ending ++ more
    else if more.isEmpty then return [' ']
    else return more

/-- The rest of a quoted text, up to the closing quote. -/
def scanQuotedRest (double : Bool) : (fuel : Nat) → Scan (List Char)
  | 0 => malformed
  | fuel + 1 => do
    if ← nextIs (if double then '"' else '\'') then
      forward 1
      return []
    else
      let blanks ← scanQuotedBlanks
      let word ← scanQuotedWord double (← room)
      return blanks ++ word ++ (← scanQuotedRest double fuel)

/-- A quoted text, from its quote on. -/
def scanQuoted (double : Bool) : Scan Token := do
  forward 1
  let word ← scanQuotedWord double (← room)
  return .scalar (String.ofList (word ++ (← scanQuotedRest double (← room)))) false

/-! ## Texts without quotes -/

/-- Whether a text without quotes ends before a character; within brackets more
characters end it. -/
def endsPlain (inBrackets : Bool) (c : Char) (following : Option Char) : Bool :=
  endsText (some c)
    || (c == ':' && (endsText following
      || (inBrackets && (following.map fun x => ",[]\x7b\x7d".toList.contains x).getD false)))
    || (inBrackets && ",?[]\x7b\x7d".toList.contains c)

/-- The characters of a text without quotes up to where it may end. -/
def plainWord (inBrackets : Bool) : List Char → List Char
  | [] => []
  | c :: rest =>
    if endsPlain inBrackets c rest.head? then [] else c :: plainWord inBrackets rest

/-- The empty lines within a text without quotes; nothing if a document starts or ends
after one. -/
def scanPlainBreaks : (fuel : Nat) → Scan (Option (List Char))
  | 0 => return some []
  | fuel + 1 => do
    skipSpaces
    match ← lineBreak with
    | [] => return some []
    | ending =>
      if ← atMarker then return none
      return (← scanPlainBreaks fuel).map (ending ++ ·)

/-- The spaces and line ends within a text without quotes, which ends if they are
none. -/
def scanPlainSpaces : Scan (List Char) := do
  let spaces ← takeWhile (· == ' ')
  match ← lineBreak with
  | [] => return spaces
  | ending =>
    modify fun s => { s with keyAllowed := true }
    if ← atMarker then return []
    match ← scanPlainBreaks (← room) with
    | none => return []
    | some more =>
      if ending != ['\n'] then return ending ++ more
      else if more.isEmpty then return [' ']
      else return more

/-- A text without quotes; `spaces` come before the next word, if there is one. -/
def scanPlainWords (indent : Int) (spaces : List Char) : (fuel : Nat) → Scan (List Char)
  | 0 => return []
  | fuel + 1 => do
    let s ← get
    let word := if s.ahead.head? == some '#' then [] else plainWord (s.depth != 0) s.ahead
    if word.isEmpty then return []
    modify fun s => { s with keyAllowed := false }
    forward word.length
    let next ← scanPlainSpaces
    let s ← get
    let stops := next.isEmpty || s.ahead.head? == some '#'
      || (s.depth == 0 && (s.column : Int) < indent)
    if stops then return spaces ++ word
    else return spaces ++ word ++ (← scanPlainWords indent next fuel)

def scanPlain : Scan Token := do
  let indent := (← get).indent + 1
  return .scalar (String.ofList (← scanPlainWords indent [] (← room))) true

end PageGrep.Yaml
