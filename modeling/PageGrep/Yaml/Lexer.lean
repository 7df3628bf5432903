/-
# Cutting a settings file into tokens

Indentation becomes tokens of its own: a list or a mapping starts where a line is
indented more than the ones around it, and ends where one is indented less.  A key
needs no sign before it; its place is remembered until a colon shows that it was one,
and then the sign for it is put there.

A text may break the rules somewhere.  The tokens before that place count all the same,
but for those that could still have turned out to come after a sign for a key.
-/
import PageGrep.Yaml.Scalar

namespace PageGrep.Yaml

open Scan

/-! ## Tokens and indentation -/

def push (t : Token) : Scan Unit := modify (Lexer.push t)

def pushSign (t : Token) : Scan Unit := do
  forward 1
  push t

/-- Ends every list and mapping that is indented more than a column. -/
def unwindTo (column : Int) : (outer : List Int) → Scan Unit
  | [] => return
  | level :: outer => do
    if column < (← get).indent then
      modify fun s => { s.push .blockEnd with indent := level, outer := outer }
      unwindTo column outer

/-- The same, unless within brackets. -/
def unwind (column : Int) : Scan Unit := do
  let s ← get
  if s.depth == 0 then unwindTo column s.outer

/-- Starts a list or a mapping at a column if it is indented more than what is around it;
its token goes before the token of a number. -/
def indentAt (column number : Nat) (t : Token) : Scan Unit :=
  modify fun s =>
    if s.depth == 0 && s.indent < (column : Int) then
      { s.insert number t with outer := s.indent :: s.outer, indent := (column : Int) }
    else s

/-! ## Possible keys -/

/-- Forgets the place of a possible key, which must not have been a required one. -/
def dropKey : Scan Unit := do
  let s ← get
  match s.keys.find? (·.1 == s.depth) with
  | some (_, k) =>
    if k.required then malformed
    set { s with keys := s.keys.filter (·.1 != s.depth) }
  | none => return

/-- Remembers this place as that of a possible key. -/
def saveKey : Scan Unit := do
  if (← get).keyAllowed then
    dropKey
    modify fun s =>
      let required := s.depth == 0 && s.indent == (s.column : Int)
      { s with keys := (s.depth, ⟨s.count, required, s.index, s.line, s.column⟩) :: s.keys }

/-- The greatest number of characters of a key that has no sign. -/
def keyLimit : Nat := 1024

/-- Whether a place is too far behind to be that of a key. -/
def PossibleKey.isStale (k : PossibleKey) (s : Lexer) : Bool :=
  k.line != s.line || keyLimit < s.index - k.index

/-- Forgets the places that are too far behind. -/
def dropStaleKeys : Scan Unit := do
  let s ← get
  if s.keys.any fun (_, k) => k.isStale s && k.required then malformed
  set { s with keys := s.keys.filter fun (_, k) => !k.isStale s }

def allowKey (allowed : Bool) : Scan Unit := modify fun s => { s with keyAllowed := allowed }

/-! ## Tokens of each kind -/

/-- Passes spaces, comments and line ends; a new line may start with a key. -/
def toNextToken : (fuel : Nat) → Scan Unit
  | 0 => return
  | fuel + 1 => do
    skipSpaces
    skipComment
    if (← lineBreak).isEmpty then return
    if (← get).depth == 0 then allowKey true
    toNextToken fuel

/-- Ends all blocks before a directive, the sign of a document or the end. -/
def closeBlocks : Scan Unit := do
  unwind (-1)
  dropKey
  allowKey false

def fetchOpening (t : Token) : Scan Unit := do
  saveKey
  modify fun s => { s with depth := s.depth + 1 }
  allowKey true
  pushSign t

def fetchClosing (t : Token) : Scan Unit := do
  dropKey
  modify fun s => { s with depth := s.depth - 1 }
  allowKey false
  pushSign t

def fetchEntry : Scan Unit := do
  let s ← get
  if s.depth == 0 then
    if !s.keyAllowed then malformed
    indentAt s.column s.count .sequenceStart
  allowKey true
  dropKey
  pushSign .entry

def fetchKey : Scan Unit := do
  let s ← get
  if s.depth == 0 then
    if !s.keyAllowed then malformed
    indentAt s.column s.count .mappingStart
  allowKey (s.depth == 0)
  dropKey
  pushSign .key

/-- The sign of a value, after a key without a sign or with one. -/
def fetchValue : Scan Unit := do
  let s ← get
  match s.keys.find? (·.1 == s.depth) with
  | some (_, k) =>
    set { s.insert k.number .key with keys := s.keys.filter (·.1 != s.depth) }
    indentAt k.column k.number .mappingStart
    allowKey false
  | none =>
    if s.depth == 0 then
      if !s.keyAllowed then malformed
      indentAt s.column s.count .mappingStart
    allowKey (s.depth == 0)
    dropKey
  pushSign .value

def fetchKeyable (scan : Scan Token) : Scan Unit := do
  saveKey
  allowKey false
  push (← scan)

def fetchBlock (folded : Bool) : Scan Unit := do
  allowKey true
  dropKey
  push (← scanBlock folded)

def fetchDirective : Scan Unit := do
  closeBlocks
  push (← scanDirective)

def fetchMarker (t : Token) : Scan Unit := do
  closeBlocks
  forward 3
  push t

/-- Whether a text without quotes may start with a character. -/
def startsPlain (inBrackets : Bool) (c : Char) (following : Option Char) : Bool :=
  !(endsText (some c) || "-?:,[]\x7b\x7d#&*!|>'\"%@`".toList.contains c)
    || (!endsText following && (c == '-' || (!inBrackets && (c == '?' || c == ':'))))

def fetchFrom (c : Char) (following : Option Char) (s : Lexer) (marker : Bool) : Scan Unit :=
  let inBrackets := s.depth != 0
  if c == '%' && s.column == 0 then fetchDirective
  else if c == '-' && s.column == 0 && marker then fetchMarker .documentStart
  else if c == '.' && s.column == 0 && marker then fetchMarker .documentEnd
  else if c == '[' then fetchOpening .openBracket
  else if c == '\x7b' then fetchOpening .openBrace
  else if c == ']' then fetchClosing .closeBracket
  else if c == '\x7d' then fetchClosing .closeBrace
  else if c == ',' then do
    allowKey true
    dropKey
    pushSign .comma
  else if c == '-' && endsText following then fetchEntry
  else if c == '?' && (inBrackets || endsText following) then fetchKey
  else if c == ':' && (inBrackets || endsText following) then fetchValue
  else if c == '*' then fetchKeyable (Token.reference <$> scanName)
  else if c == '&' then fetchKeyable (Token.anchor <$> scanName)
  else if c == '!' then fetchKeyable scanTag
  else if c == '|' && !inBrackets then fetchBlock false
  else if c == '>' && !inBrackets then fetchBlock true
  else if c == '\'' then fetchKeyable (scanQuoted false)
  else if c == '"' then fetchKeyable (scanQuoted true)
  else if startsPlain inBrackets c following then fetchKeyable scanPlain
  else malformed

/-- Cuts what comes next; tells whether the text is at its end. -/
def fetchNext : Scan Bool := do
  toNextToken (← room)
  dropStaleKeys
  let s ← get
  unwind s.column
  match s.ahead with
  | [] =>
    closeBlocks
    return true
  | c :: rest =>
    fetchFrom c rest.head? s (← atMarker)
    return false

/-- The tokens of a text up to a place where it breaks the rules, or all of them. -/
structure Tokens where
  ready : List Token
  fault : Option Fault

/-- The tokens that nothing can be put before any more. -/
def Lexer.ready (s : Lexer) : List Token :=
  let held := (s.keys.filter fun (_, k) => !k.isStale s).map fun (_, k) => k.number
  s.tokens.reverse.take (held.foldl min s.count)

/-- Tokens up to the end of the text; each takes at least one character. -/
def fetchAll : (fuel : Nat) → Lexer → Tokens
  | 0, s => ⟨s.ready, some .malformed⟩
  | fuel + 1, s =>
    match fetchNext.run s with
    | .error fault => ⟨s.ready, some fault⟩
    | .ok (true, done) => ⟨done.tokens.reverse, none⟩
    | .ok (false, now) => fetchAll fuel now

/-- The tokens of a text; some characters may not stand in it at all. -/
def tokens (text : String) : Tokens :=
  let cs := text.toList
  if cs.all isPrintable then
    let start : Lexer := { ahead := cs }
    fetchAll (cs.length + 1) (if cs.head? == some '\uFEFF' then Scan.advance start else start)
  else ⟨[], some .malformed⟩

end PageGrep.Yaml
