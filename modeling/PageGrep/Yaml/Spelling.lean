/-
# What scalars spell

Each tag of a scalar has a reading of its text: a truth value, a whole number or one of
the binary format in several notations, a date or a time, or octets written with a
character for six bits each.
-/
import PageGrep.Config.Value
import PageGrep.Number.Reading
import PageGrep.Text.Case
import PageGrep.Text.Lines
import PageGrep.Yaml.Tag

namespace PageGrep.Yaml

/-! ## Numbers -/

def withoutUnderscores (s : String) : String := String.ofList (s.toList.filter (· != '_'))

/-- Whether a number starts with a minus, and what follows the sign. -/
def takeSign (s : String) : Except Fault (Bool × List Char) :=
  match s.toList with
  | [] => throw .noDigits
  | '-' :: rest => .ok (true, rest)
  | '+' :: rest => .ok (false, rest)
  | cs => .ok (false, cs)

def wholeOf (base : Nat) (cs : List Char) : Except Fault Int :=
  match Text.numeralIn base (String.ofList cs) with
  | .ok i => .ok i
  | .error (.tooManyDigits count) => throw (.tooManyDigits count)
  | .error .malformed => throw (.notWhole base (String.ofList cs))

/-- The number whose digits in base sixty stand between colons. -/
def sixtiesOf (cs : List Char) : Except Fault Int := do
  let digits ← (Text.cutAt ':' cs).mapM (wholeOf 10)
  return digits.foldl (fun n d => n * 60 + d) 0

/-- The size of a whole number, by the form of its text. -/
def sizeOf (cs : List Char) : Except Fault Int :=
  match cs with
  | ['0'] => .ok 0
  | '0' :: 'b' :: rest => wholeOf 2 rest
  | '0' :: 'x' :: rest => wholeOf 16 rest
  | '0' :: _ => wholeOf 8 cs
  | [] => throw .noDigits
  | _ => if cs.contains ':' then sixtiesOf cs else wholeOf 10 cs

def intOf (s : String) : Except Fault Int := do
  let (negative, cs) ← takeSign (withoutUnderscores s)
  let size ← sizeOf cs
  return if negative then -size else size

def numberOf (cs : List Char) : Except Fault Binary64 :=
  match Binary64.ofText? (String.ofList cs) with
  | some x => .ok x
  | none => throw (.notANumber (String.ofList cs))

/-- The number whose digits in base sixty, the last first, are given; `weight` is that of
the next one, which must be within the range of the binary format, and `so` the sum of
those before. -/
def sixtiesSum (weight : Nat) (so : Binary64) : List Binary64 → Except Fault Binary64
  | [] => .ok so
  | d :: ds =>
    match Binary64.ofInt? weight with
    | some w => sixtiesSum (weight * 60) (so.add (d.mul w)) ds
    | none => .error .weightTooLarge

/-- The number of the binary format that a scalar spells. -/
def floatOf (s : String) : Except Fault Binary64 := do
  let (negative, cs) ← takeSign (Text.lowerText (withoutUnderscores s))
  if String.ofList cs == ".nan" then return .nan
  let size ←
    if String.ofList cs == ".inf" then pure (Binary64.infinite false)
    else if cs.contains ':' then do
      let digits ← (Text.cutAt ':' cs).mapM numberOf
      sixtiesSum 1 .zero digits.reverse
    else numberOf cs
  return if negative then size.neg else size

/-- Whether a scalar is the word for what is not a number. -/
def spellsNaN (s : String) : Bool :=
  match takeSign (Text.lowerText (withoutUnderscores s)) with
  | .ok (_, cs) => String.ofList cs == ".nan"
  | .error _ => false

def boolOf (s : String) : Except Fault Bool :=
  let word := Text.lowerText s
  if ["yes", "true", "on"].contains word then .ok true
  else if ["no", "false", "off"].contains word then .ok false
  else throw (.notATruth word)

def stampOf (s : String) : Except Fault Value := do
  match Stamp.ofChars? (Tag.withoutLastBreak s.toList) with
  | none => throw .notATime
  | some stamp =>
    match stamp.clock with
    | none =>
      stamp.checkDate
      return .date stamp.year stamp.month stamp.day
    | some clock =>
      Stamp.checkOffset clock
      stamp.checkDate
      Stamp.checkClock clock
      return .time (stamp.moment clock) clock.offset.isSome

/-! ## Octets -/

def sixBits? (c : Char) : Option Nat :=
  let n := c.toNat
  if 65 ≤ n && n ≤ 90 then some (n - 65)
  else if 97 ≤ n && n ≤ 122 then some (n - 71)
  else if 48 ≤ n && n ≤ 57 then some (n + 4)
  else if c == '+' then some 62
  else if c == '/' then some 63
  else none

/-- The octets that groups of six bits spell.  `held` are those of the group of four
that is not whole yet, `pads` the padding signs since the last six bits; other
characters are skipped. -/
def octetsFrom (held : List Nat) (pads : Nat) : List Char → Except Fault (List UInt8)
  | [] => if held.isEmpty then .ok [] else throw .malformed
  | c :: rest =>
    if c == '=' then
      match held with
      | [a, b] =>
        if 1 ≤ pads then return [UInt8.ofNat (a * 4 + b / 16)]
        else octetsFrom held (pads + 1) rest
      | [a, b, d] => return [UInt8.ofNat (a * 4 + b / 16), UInt8.ofNat (b % 16 * 16 + d / 4)]
      | _ => octetsFrom held pads rest
    else
      match sixBits? c, held with
      | none, _ => octetsFrom held pads rest
      | some e, [a, b, d] => do
        let octets ← octetsFrom [] 0 rest
        return [UInt8.ofNat (a * 4 + b / 16), UInt8.ofNat (b % 16 * 16 + d / 4),
          UInt8.ofNat (d % 4 * 64 + e)] ++ octets
      | some e, _ => octetsFrom (held ++ [e]) 0 rest

def octetsOf (s : String) : Except Fault (List UInt8) :=
  if s.toList.all fun c => c.toNat < 128 then octetsFrom [] 0 s.toList else throw .malformed

/-! ## All tags -/

/-- Whether a tag is one of a list, a set or a mapping. -/
def Tag.isCollective : Tag → Bool
  | seq | omap | pairs | set | map => true
  | _ => false

/-- The value of a scalar with a tag. -/
def scalarValue (tag : Tag) (s : String) : Except Fault Value :=
  match tag with
  | .null => .ok .null
  | .bool => Value.bool <$> boolOf s
  | .int => Value.int <$> intOf s
  | .float => Value.float <$> floatOf s
  | .binary => Value.octets <$> octetsOf s
  | .timestamp => stampOf s
  | .str => .ok (.str s)
  | _ => throw .malformed

end PageGrep.Yaml
