/-
# Whole numbers in running text

`numeral` reads a whole number the lenient way: blanks around it, a sign, the decimal
digits of any script and single underscores between digits are all allowed.
`numeralIn` is the same for a base, with letters for the digits from ten on and the
sign of the base before them if it is wanted.  A text of too many digits is refused,
unless its base is a power of two.
-/
import PageGrep.Text.Blank
import PageGrep.Text.Letter

namespace PageGrep.Text

namespace Numeral

/-- Why a text spells no whole number. -/
inductive Fault where
  | malformed
  | tooManyDigits (count : Nat)
deriving DecidableEq, Repr

/-- The most digits that are read. -/
def digitLimit : Nat := 4300

def tooManyDigitsMessage (count : Nat) : String :=
  "Exceeds the limit (" ++ toString digitLimit
    ++ " digits) for integer string conversion: value has " ++ toString count
    ++ " digits; use sys.set_int_max_str_digits() to increase the limit"

/-- Whether `c` may stand around a number: the blanks of basic Latin are only those that
move the print position. -/
def isBlank (c : Char) : Bool :=
  if c.toNat < 128 then isBasicBlank c.toNat else Text.isBlank c.toNat

def trim (cs : List Char) : List Char := Trim.dropRight isBlank (cs.dropWhile isBlank)

/-- The value of a digit of any script, or of a letter from ten on. -/
def digit? (base : Nat) (c : Char) : Option Nat :=
  let n := c.toNat
  let value? :=
    if 97 ≤ n && n ≤ 122 then some (n - 87)
    else if 65 ≤ n && n ≤ 90 then some (n - 55)
    else digitValue? n
  value?.filter (· < base)

/-- Whether a text is digits with single underscores between them, at least one. -/
def isSeparated (base : Nat) : List Char → Bool
  | [] => false
  | [c] => (digit? base c).isSome
  | c :: '_' :: rest => (digit? base c).isSome && isSeparated base rest
  | c :: rest => (digit? base c).isSome && isSeparated base rest

def value (base : Nat) (cs : List Char) : Nat :=
  (cs.filterMap (digit? base)).foldl (fun n d => n * base + d) 0

def isLimited (base : Nat) : Bool := base != 2 && base != 8 && base != 16

/-- Reads digits to the end, at least one.  Their number is looked at first, up to what
is no digit. -/
def unsigned (base : Nat) (cs : List Char) : Except Fault Nat :=
  let front := cs.takeWhile fun c => c == '_' || (digit? base c).isSome
  let count := front.countP (· != '_')
  if isLimited base && isSeparated base front && digitLimit < count then
    .error (.tooManyDigits count)
  else if isSeparated base cs then .ok (value base cs)
  else .error .malformed

/-- The letter that may announce a base after a zero. -/
def baseLetter? (base : Nat) : Option Char :=
  if base == 2 then some 'b' else if base == 8 then some 'o'
  else if base == 16 then some 'x' else none

/-- Passes the sign of a base, if it is there, and one underscore after it. -/
def pastBase (base : Nat) (cs : List Char) : List Char :=
  match cs with
  | '0' :: c :: rest =>
    if some c.toLower == baseLetter? base then
      match rest with
      | '_' :: rest => rest
      | rest => rest
    else cs
  | cs => cs

/-- Reads a number with the sign of its base or without. -/
def announced (base : Nat) (cs : List Char) : Except Fault Nat := unsigned base (pastBase base cs)

end Numeral

def numeralIn (base : Nat) (s : String) : Except Numeral.Fault Int :=
  match Numeral.trim s.toList with
  | '-' :: rest => (Numeral.announced base rest).map fun n => -(n : Int)
  | '+' :: rest => (Numeral.announced base rest).map fun n => (n : Int)
  | cs => (Numeral.announced base cs).map fun n => (n : Int)

/-- The whole number that a text spells in decimal digits. -/
def numeral (s : String) : Except Numeral.Fault Int := numeralIn 10 s

end PageGrep.Text
