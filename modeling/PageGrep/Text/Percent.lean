/-
# Names within an address

A name is put into an address octet by octet: letters and digits of the basic Latin
alphabet, `_`, `.`, `-`, `~` and the path separator stand for themselves, every other
octet of the UTF-8 form is written as `%` and two hexadecimal digits.
-/
import PageGrep.Text.Letter
import PageGrep.Text.Utf8

namespace PageGrep.Text

namespace Percent

/-- Whether an octet stands for itself. -/
def isPlain (n : Nat) : Bool :=
  isBasicLetter n || isBasicDigit n || n == 95 || n == 46 || n == 45 || n == 126 || n == 47

/-- The capital hexadecimal digit of a value below sixteen. -/
def hexCapital (n : Nat) : Char := Char.ofNat (if n < 10 then 48 + n else 55 + n)

def octet (b : UInt8) : List Char :=
  let n := b.toNat
  if isPlain n then [Char.ofNat n] else ['%', hexCapital (n / 16), hexCapital (n % 16)]

end Percent

/-- The name as it stands within an address. -/
def percentEncode (s : String) : String :=
  String.ofList ((Utf8.encode s).flatMap Percent.octet)

end PageGrep.Text
