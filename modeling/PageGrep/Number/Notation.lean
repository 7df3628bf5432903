/-
# Notations with given places

A number of the binary format may be written with a given number of digits: so many
places after the point (`fixedText`), so many places after the first digit and a power of
ten (`powerText`), or so many digits in whichever of the two suits the size of the number
(`suitedText`).  The digits are those of the exact value, rounded to the nearest, a tie to
the even digit.  These functions write sizes; signs and words are added by `Notation.text`.
-/
import PageGrep.Number.Shortest

namespace PageGrep

/-- A notation for numbers of the binary format. -/
inductive Notation where
  | fixed
  | power
  | suited
deriving DecidableEq, Repr

namespace Notation

def zeros (count : Nat) : List Char := List.replicate count '0'

/-- The decimal digits of a number, with zeros before them up to a count. -/
def digits (count n : Nat) : List Char :=
  let ds := (Nat.repr n).toList
  zeros (count - ds.length) ++ ds

/-- A point and the digits after it; without digits there is no point unless it is to be
kept. -/
def afterPoint (keepPoint : Bool) (ds : List Char) : List Char :=
  if ds.isEmpty && !keepPoint then [] else '.' :: ds

/-- The fraction `num / den` with so many places after the point. -/
def fixedText (keepPoint : Bool) (places num den : Nat) : List Char :=
  let ds := digits (places + 1) (Binary64.roundDiv (num * Nat.pow 10 places) den)
  ds.take (ds.length - places) ++ afterPoint keepPoint (ds.drop (ds.length - places))

/-- The fraction `num / den` rounded to `count` digits: these, and the power of ten of the
first of them. -/
def leading (count num den : Nat) : List Char × Int :=
  if num = 0 then (zeros count, 0)
  else
    let tens := Binary64.floorLog10 num den
    let (n, d) := Binary64.unscale10 num den (tens + 1 - count)
    let rounded := Binary64.roundDiv n d
    if rounded = Nat.pow 10 count then (digits count (rounded / 10), tens + 1)
    else (digits count rounded, tens)

/-- A power of ten after the letter for it: its sign and two digits or more. -/
def powerPart (capital : Bool) (tens : Int) : List Char :=
  (if capital then 'E' else 'e') :: (if tens < 0 then '-' else '+') :: digits 2 tens.natAbs

/-- Digits of which the first stands before the point, and the power of ten of that one. -/
def withPower (keepPoint capital : Bool) (ds : List Char) (tens : Int) : List Char :=
  ds.take 1 ++ afterPoint keepPoint (ds.drop 1) ++ powerPart capital tens

/-- The fraction `num / den` with so many places after its first digit. -/
def powerText (keepPoint capital : Bool) (places num den : Nat) : List Char :=
  let (ds, tens) := leading (places + 1) num den
  withPower keepPoint capital ds tens

/-- Digits without zeros at the end, unless these are to be kept. -/
def trimmed (keep : Bool) (ds : List Char) : List Char :=
  if keep then ds else (ds.reverse.dropWhile (· == '0')).reverse

/-- The fraction `num / den` with so many digits, at least one: with a power of ten if it
is below one ten-thousandth or has more digits before the point.  Zeros at the end are
dropped unless the point is to be kept. -/
def suitedText (keepPoint capital : Bool) (count num den : Nat) : List Char :=
  let count := max count 1
  let (ds, tens) := leading count num den
  if tens < -4 || (count : Int) ≤ tens then
    withPower keepPoint capital (ds.take 1 ++ trimmed keepPoint (ds.drop 1)) tens
  else if 0 ≤ tens then
    ds.take (tens.toNat + 1) ++ afterPoint keepPoint (trimmed keepPoint (ds.drop (tens.toNat + 1)))
  else
    '0' :: afterPoint keepPoint (trimmed keepPoint (zeros (-tens - 1).toNat ++ ds))

/-- A number in a notation, with a minus if it has one; what is not finite is a word. -/
def text (n : Notation) (keepPoint capital : Bool) (places : Nat) (x : Binary64) : List Char :=
  let sign := if x.isNegative then ['-'] else []
  match x.fraction? with
  | some (_, num, den) =>
    sign ++
      match n with
      | fixed => fixedText keepPoint places num den
      | power => powerText keepPoint capital places num den
      | suited => suitedText keepPoint capital places num den
  | none =>
    let word := if x == .nan then "nan" else "inf"
    sign ++ if capital then word.toList.map Char.toUpper else word.toList

end Notation

end PageGrep
