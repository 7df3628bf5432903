/-
# Escapes

What a backslash and the character after it stand for, within a set and outside of one:
a kind of characters, a place, a character by its code or its name, or the text that an
earlier group has matched.
-/
import PageGrep.Pattern.Token
import PageGrep.Text.Numeral
import PageGrep.Text.CharacterName

namespace PageGrep.Pattern

def digitsValue (base : Nat) (digits : List Char) : Nat :=
  digits.foldl (fun n c => n * base + (Text.Numeral.digit? base c).getD 0) 0

def isOctal (c : Char) : Bool := '0'.toNat ≤ c.toNat && c.toNat ≤ '7'.toNat

def isDecimal (c : Char) : Bool := Text.isBasicDigit c.toNat

def isHex (c : Char) : Bool :=
  isDecimal c || ('a'.toNat ≤ c.toNat && c.toNat ≤ 'f'.toNat)
    || ('A'.toNat ≤ c.toNat && c.toNat ≤ 'F'.toNat)

def kindOf? (c : Char) : Option Member :=
  if c == 'd' then some (.kind .digit false)
  else if c == 'D' then some (.kind .digit true)
  else if c == 's' then some (.kind .space false)
  else if c == 'S' then some (.kind .space true)
  else if c == 'w' then some (.kind .word false)
  else if c == 'W' then some (.kind .word true)
  else none

def placeOf? (c : Char) : Option Place :=
  if c == 'A' then some .textStart
  else if c == 'b' then some .wordEdge
  else if c == 'B' then some .noWordEdge
  else if c == 'Z' then some .textEnd
  else none

def controlOf? (c : Char) : Option Nat :=
  if c == 'a' then some 7
  else if c == 'b' then some 8
  else if c == 'f' then some 12
  else if c == 'n' then some 10
  else if c == 'r' then some 13
  else if c == 't' then some 9
  else if c == 'v' then some 11
  else if c == '\\' then some 92
  else none

/-- Refuses an escape that was just taken. -/
def refuseEscape {α : Type} (cause : String → Cause) (escape : String) : Read α :=
  Read.refuse (cause escape) escape.length

/-- Codes from this one on are beyond what a code can be counted in. -/
def codeLimit : Nat := 2147483648

/-- Takes the code of `\x`, `\u` and `\U`: exactly `count` hexadecimal digits. -/
def hexEscape (c : Char) (count : Nat) : Read Nat := do
  let digits ← Read.takeWhile isHex count
  let escape := String.ofList ('\\' :: c :: digits)
  if digits.length != count then refuseEscape .incompleteEscape escape
  let code := digitsValue 16 digits
  if codeLimit ≤ code then throw (.excessive .codeTooLarge)
  if 0x110000 ≤ code then refuseEscape .badEscape escape
  return code

/-- Takes the name of `\N` and gives the character's code. -/
def nameEscape : Read Nat := do
  if !(← Read.accept '\x7b') then Read.refuse .missingBrace 0
  let name ← Read.name '\x7d' "character name"
  match Text.namedCharacter? name with
  | some code => return code
  | none => Read.refuse (.unknownCharacter name) (name.length + 4)

/-- The code of a character that is given by digits or by its name; nothing for other
escapes. -/
def codeEscape (c : Char) : Read (Option Nat) := do
  if c == 'x' then return some (← hexEscape c 2)
  else if c == 'u' then return some (← hexEscape c 4)
  else if c == 'U' then return some (← hexEscape c 8)
  else if c == 'N' then return some (← nameEscape)
  else return none

/-- A character that stands for itself after a backslash: anything but a basic letter
or digit. -/
def plainEscape (c : Char) : Read Nat := do
  if Text.isBasicLetter c.toNat || isDecimal c then
    refuseEscape .badEscape (String.ofList ['\\', c])
  else return c.toNat

/-- The code of octal digits, which must not exceed the range of one octet. -/
def octalEscape (digits : List Char) : Read Nat := do
  let code := digitsValue 8 digits
  if 0o377 < code then refuseEscape .octalTooLarge (String.ofList ('\\' :: digits))
  return code

/-- What an escape stands for within a set. -/
def memberEscape (c : Char) : Read Member := do
  if let some code := controlOf? c then return .one code
  if let some kind := kindOf? c then return kind
  if let some code ← codeEscape c then return .one code
  if isOctal c then
    return .one (← octalEscape (c :: (← Read.takeWhile isOctal 2)))
  else return .one (← plainEscape c)

def groupEscape (digits : List Char) : Read Leaf := do
  let number := digitsValue 10 digits
  if (← get).groups.size ≤ number then Read.refuse (.noSuchGroup number) digits.length
  if !(← Read.isClosed number) then Read.refuse .openGroup (digits.length + 1)
  Read.checkBehind number
  return .again number

/-- What an escape with a digit other than zero stands for: with three octal digits a
character, else a group. -/
def digitEscape (c : Char) : Read Leaf := do
  match ← Read.takeWhile isDecimal 1 with
  | [] => groupEscape [c]
  | d :: _ =>
    if isOctal c && isOctal d then
      match ← Read.takeWhile isOctal 1 with
      | [] => groupEscape [c, d]
      | e :: _ => return .one (← octalEscape [c, d, e])
    else groupEscape [c, d]

/-- What an escape stands for outside of sets. -/
def leafEscape (c : Char) : Read Leaf := do
  if let some place := placeOf? c then return .place place
  if let some kind := kindOf? c then return .set false [kind]
  if let some code := controlOf? c then return .one code
  if let some code ← codeEscape c then return .one code
  if c == '0' then
    return .one (digitsValue 8 (← Read.takeWhile isOctal 2))
  else if isDecimal c then digitEscape c
  else return .one (← plainEscape c)

end PageGrep.Pattern
