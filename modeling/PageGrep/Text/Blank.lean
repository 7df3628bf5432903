/-
# Blanks

The characters that separate words and that trimming removes: the separators of
Unicode together with the control characters that move the print position.
-/
import PageGrep.Text.CodeSet

namespace PageGrep.Text

/-- Where the set of blanks changes. -/
def blankBoundaries : Array Nat := #[
  9, 14, 28, 33, 133, 134, 160, 161, 5760, 5761, 8192, 8203, 8232, 8234, 8239, 8240, 8287, 8288,
  12288, 12289]

/-- Whether `c` separates words. -/
def isBlank (c : Nat) : Bool := inside blankBoundaries c

/-- Blanks within the first 128 code points: tab to carriage return, and space. -/
def isBasicBlank (c : Nat) : Bool := (9 ≤ c && c ≤ 13) || c == 32

namespace Trim

def dropRight (p : Char → Bool) (cs : List Char) : List Char :=
  (cs.reverse.dropWhile p).reverse

end Trim

def trim (s : String) : String :=
  String.ofList (Trim.dropRight (fun c => isBlank c.toNat)
    (s.toList.dropWhile fun c => isBlank c.toNat))

/-- Drops every `c` at the end. -/
def trimRightOf (c : Char) (s : String) : String :=
  String.ofList (Trim.dropRight (· == c) s.toList)

/-- Whether nothing but blanks is in the text. -/
def isBlankText (s : String) : Bool := s.toList.all fun c => isBlank c.toNat

end PageGrep.Text
