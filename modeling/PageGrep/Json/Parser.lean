/-
# Reading a value

`Json.parse` reads the whole of a text as one value.  Every reader below takes the
characters still to be read and gives back a value with the characters that follow it;
a fault carries the characters from the place it is about on, and `Json.parse` turns
their number into a position.  Spaces between the parts are the space, the tab and the
two line characters.  Words for numbers that are not finite are read, and the fractional
or exponential form of a number makes it one of the binary format; a whole number of too
many digits is refused.
-/
import PageGrep.Json.Basic
import PageGrep.Text.Numeral

namespace PageGrep.Json

/-- What a text does wrong. -/
inductive Fault where
  | byteOrderMark
  | noValue
  | noName
  | noColon
  | noComma
  | unterminated
  | control
  | badEscape
  | badCode
  | extraData
  | tooManyDigits (count : Nat)
deriving DecidableEq, Repr

def Fault.message : Fault → String
  | byteOrderMark => "Unexpected UTF-8 BOM (decode using utf-8-sig)"
  | noValue => "Expecting value"
  | noName => "Expecting property name enclosed in double quotes"
  | noColon => "Expecting ':' delimiter"
  | noComma => "Expecting ',' delimiter"
  | unterminated => "Unterminated string starting at"
  | control => "Invalid control character at"
  | badEscape => "Invalid \\escape"
  | badCode => "Invalid \\uXXXX escape"
  | extraData => "Extra data"
  | tooManyDigits count => Text.Numeral.tooManyDigitsMessage count

/-- A fault and its place: the position, and the line and column it falls in, both from
one. -/
structure ParseError where
  fault : Fault
  position : Nat
  line : Nat
  column : Nat
deriving DecidableEq, Repr

/-- Whether a fault is one of the form of a text; a number that is too long is none. -/
def Fault.isFormal : Fault → Bool
  | tooManyDigits _ => false
  | _ => true

/-- The wording of a fault, with its place if it is one of form. -/
def ParseError.message (e : ParseError) : String :=
  if e.fault.isFormal then
    e.fault.message ++ ": line " ++ toString e.line ++ " column " ++ toString e.column
      ++ " (char " ++ toString e.position ++ ")"
  else e.fault.message

def ParseError.place (fault : Fault) (text : List Char) (position : Nat) : ParseError :=
  let before := text.take position
  ⟨fault, position, before.count '\n' + 1, (before.reverse.takeWhile (· != '\n')).length + 1⟩

/-- What a reader gives: a value and the characters after it, or a fault and the
characters from its place on. -/
abbrev Reading (α : Type) := Except (Fault × List Char) (α × List Char)

/-! ## Spaces -/

/-- Whether a character may stand between the parts of a value. -/
def isSpace (c : Char) : Bool := c == ' ' || c == '\t' || c == '\n' || c == '\r'

def skipSpace (cs : List Char) : List Char := cs.dropWhile isSpace

/-! ## Texts -/

def hexValue? (c : Char) : Option Nat :=
  let n := c.toNat
  if 48 ≤ n && n ≤ 57 then some (n - 48)
  else if 97 ≤ n && n ≤ 102 then some (n - 87)
  else if 65 ≤ n && n ≤ 70 then some (n - 55)
  else none

/-- The number that four hexadecimal digits spell. -/
def hex4? (a b c d : Char) : Option Nat :=
  match hexValue? a, hexValue? b, hexValue? c, hexValue? d with
  | some a, some b, some c, some d => some (((a * 16 + b) * 16 + c) * 16 + d)
  | _, _, _, _ => none

/-- The character that a letter after the backslash stands for. -/
def escaped? (c : Char) : Option Char :=
  if c == '"' || c == '\\' || c == '/' then some c
  else if c == 'b' then some '\x08'
  else if c == 'f' then some '\x0c'
  else if c == 'n' then some '\n'
  else if c == 'r' then some '\r'
  else if c == 't' then some '\t'
  else none

def isHighHalf (n : Nat) : Bool := 0xD800 ≤ n && n ≤ 0xDBFF

def isLowHalf (n : Nat) : Bool := 0xDC00 ≤ n && n ≤ 0xDFFF

/-- The character of a code point; half of a pair alone reads as the replacement
character. -/
def codeChar (n : Nat) : Char := if 0xD800 ≤ n && n ≤ 0xDFFF then '\uFFFD' else Char.ofNat n

/-- Reads a character given by its code, from the `u` on: four hexadecimal digits, which
must not be the end of the text, or two such codes that make a pair. -/
def readCode (cs : List Char) : Reading Char :=
  match cs with
  | _ :: a :: b :: c :: d :: rest@(_ :: _) =>
    match hex4? a b c d with
    | none => .error (.badCode, cs)
    | some high =>
      match rest with
      | '\\' :: low@('u' :: a :: b :: c :: d :: after@(_ :: _)) =>
        if isHighHalf high then
          match hex4? a b c d with
          | none => .error (.badCode, low)
          | some second =>
            if isLowHalf second then
              .ok (Char.ofNat (0x10000 + (high - 0xD800) * 0x400 + (second - 0xDC00)), after)
            else .ok (codeChar high, rest)
        else .ok (codeChar high, rest)
      | _ => .ok (codeChar high, rest)
  | _ => .error (.badCode, cs)

/-- Reads the characters of a text up to the closing quote, which is dropped.  `start`
is the text from its opening quote on. -/
def readChars (start : List Char) : (fuel : Nat) → List Char → Reading (List Char)
  | 0, _ | _, [] => .error (.unterminated, start)
  | fuel + 1, c :: rest =>
    if c == '"' then .ok ([], rest)
    else if c == '\\' then
      match rest with
      | [] => .error (.unterminated, start)
      | e :: after =>
        let one : Reading Char :=
          if e == 'u' then readCode rest
          else
            match escaped? e with
            | some x => .ok (x, after)
            | none => .error (.badEscape, c :: rest)
        match one with
        | .error f => .error f
        | .ok (x, after) => (readChars start fuel after).map fun (xs, rest) => (x :: xs, rest)
    else if c.toNat < 0x20 then .error (.control, c :: rest)
    else (readChars start fuel rest).map fun (xs, rest) => (c :: xs, rest)

def readString (cs : List Char) : Reading String :=
  (readChars cs cs.length (cs.drop 1)).map fun (xs, rest) => (String.ofList xs, rest)

/-! ## Numbers -/

def isDecimal (c : Char) : Bool := Text.isBasicDigit c.toNat

def decimalValue (digits : List Char) : Nat :=
  digits.foldl (fun n c => n * 10 + (c.toNat - 48)) 0

/-- The digits after a point, if a point with a digit comes next. -/
def readFraction (cs : List Char) : List Char × List Char :=
  match cs with
  | '.' :: rest@(c :: _) =>
    if isDecimal c then (rest.takeWhile isDecimal, rest.dropWhile isDecimal) else ([], cs)
  | _ => ([], cs)

/-- The power of ten, if an exponent with a digit comes next. -/
def readExponent (cs : List Char) : Option Int × List Char :=
  match cs with
  | c :: rest =>
    if c == 'e' || c == 'E' then
      let (negative, digits) :=
        match rest with
        | '-' :: after => (true, after)
        | '+' :: after => (false, after)
        | _ => (false, rest)
      let power := digits.takeWhile isDecimal
      if power.isEmpty then (none, cs)
      else
        let size : Int := decimalValue power
        (some (if negative then -size else size), digits.dropWhile isDecimal)
    else (none, cs)
  | [] => (none, cs)

/-- The whole part of a number: a single zero, or digits that do not start with one. -/
def readWhole (cs : List Char) : Option (List Char × List Char) :=
  match cs with
  | '0' :: rest => some (['0'], rest)
  | c :: _ =>
    if isDecimal c then some (cs.takeWhile isDecimal, cs.dropWhile isDecimal) else none
  | [] => none

/-- Reads a number; the fault, if there is none, is at its first character. -/
def readNumber (cs : List Char) : Reading Json :=
  let (negative, unsigned) :=
    match cs with
    | '-' :: rest => (true, rest)
    | _ => (false, cs)
  match readWhole unsigned with
  | none => .error (.noValue, cs)
  | some (whole, rest) =>
    let (fraction, rest) := readFraction rest
    let (power, rest) := readExponent rest
    if fraction.isEmpty && power.isNone then
      if Text.Numeral.digitLimit < whole.length then .error (.tooManyDigits whole.length, cs)
      else
        let size : Int := decimalValue whole
        .ok (.int (if negative then -size else size), rest)
    else
      let digits := decimalValue (whole ++ fraction)
      .ok (.float (.ofDecimal negative digits (power.getD 0 - fraction.length)), rest)

/-! ## Values -/

def words : List (String × Json) :=
  [("null", .null), ("true", .bool true), ("false", .bool false), ("NaN", .float .nan),
    ("Infinity", .float (.infinite false)), ("-Infinity", .float (.infinite true))]

/-- The first of the words that the text starts with, and what follows it. -/
def readWord? (cs : List Char) : Option (Json × List Char) :=
  words.findSome? fun (word, value) =>
    if word.toList.isPrefixOf cs then some (value, cs.drop word.length) else none

mutual

/-- Reads one value; spaces before it are not skipped. -/
def readValue : (fuel : Nat) → List Char → Reading Json
  | 0, cs => .error (.noValue, cs)
  | fuel + 1, cs =>
    match cs with
    | '"' :: _ => (readString cs).map fun (s, rest) => (.str s, rest)
    | '[' :: rest =>
      match skipSpace rest with
      | ']' :: rest => .ok (.arr [], rest)
      | rest => (readItems fuel rest).map fun (items, rest) => (.arr items, rest)
    | '{' :: rest =>
      match skipSpace rest with
      | '}' :: rest => .ok (.obj [], rest)
      | rest => (readFields fuel rest).map fun (fields, rest) => (ofFields fields, rest)
    | _ =>
      match readWord? cs with
      | some found => .ok found
      | none => readNumber cs

/-- Reads the items of a list, from the first on, and the closing bracket. -/
def readItems : (fuel : Nat) → List Char → Reading (List Json)
  | 0, cs => .error (.noValue, cs)
  | fuel + 1, cs =>
    match readValue fuel cs with
    | .error f => .error f
    | .ok (value, rest) =>
      match skipSpace rest with
      | ']' :: rest => .ok ([value], rest)
      | ',' :: rest =>
        (readItems fuel (skipSpace rest)).map fun (items, rest) => (value :: items, rest)
      | rest => .error (.noComma, rest)

/-- Reads the fields of an object, from the first on, and the closing brace. -/
def readFields : (fuel : Nat) → List Char → Reading (List (String × Json))
  | 0, cs => .error (.noName, cs)
  | fuel + 1, cs =>
    match cs with
    | '"' :: _ =>
      match readString cs with
      | .error f => .error f
      | .ok (name, rest) =>
        match skipSpace rest with
        | ':' :: rest =>
          match readValue fuel (skipSpace rest) with
          | .error f => .error f
          | .ok (value, rest) =>
            match skipSpace rest with
            | '}' :: rest => .ok ([(name, value)], rest)
            | ',' :: rest =>
              (readFields fuel (skipSpace rest)).map fun (fields, rest) =>
                ((name, value) :: fields, rest)
            | rest => .error (.noComma, rest)
        | rest => .error (.noColon, rest)
    | _ => .error (.noName, cs)

end

/-- Reads a text as one value with nothing but spaces around it.  Every second reader
on the way uses a character, so the fuel suffices. -/
def parseChars (cs : List Char) : Except (Fault × List Char) Json :=
  match cs with
  | '\uFEFF' :: _ => .error (.byteOrderMark, cs)
  | _ =>
    match readValue (2 * cs.length + 2) (skipSpace cs) with
    | .error f => .error f
    | .ok (value, rest) =>
      match skipSpace rest with
      | [] => .ok value
      | rest => .error (.extraData, rest)

/-- Reads a text as one value. -/
def parse (s : String) : Except ParseError Json :=
  let cs := s.toList
  match parseChars cs with
  | .ok value => .ok value
  | .error (fault, rest) => .error (.place fault cs (cs.length - rest.length))

end PageGrep.Json
