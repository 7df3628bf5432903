/-
# Shortest decimals

`shortest` gives, for a positive finite number of the 64-bit format, the decimal with
the fewest digits among those that round back to the number, and of these the
nearest.  A grid of decimals with a given number of digits has a point in the
interval of reals that round to the number only if one of the number's two
neighbours on that grid lies in it, so the two neighbours are all that is tested.
-/
import PageGrep.Number.Binary64

namespace PageGrep

/-- The decimal `digits * 10 ^ exponent`. -/
structure Decimal where
  digits : Nat
  exponent : Int
deriving DecidableEq, Repr, Inhabited

def Decimal.strip : (fuel : Nat) → Decimal → Decimal
  | 0, d => d
  | fuel + 1, d =>
    if d.digits != 0 && d.digits % 10 == 0 then strip fuel ⟨d.digits / 10, d.exponent + 1⟩ else d

namespace Binary64

/-- The fraction `num / den` divided by `10 ^ power`, as a fraction. -/
def unscale10 (num den : Nat) (power : Int) : Nat × Nat :=
  if 0 ≤ power then (num, den * Nat.pow 10 power.toNat)
  else (num * Nat.pow 10 (-power).toNat, den)

/-- The greatest `k`, from `guess` on and at most `fuel` above it, with
`10 ^ k ≤ num / den`. -/
def floorLog10From (num den : Nat) : (fuel : Nat) → (guess : Int) → Int
  | 0, guess => guess
  | fuel + 1, guess =>
    let (n, d) := unscale10 num den (guess + 1)
    if d ≤ n then floorLog10From num den fuel (guess + 1) else guess

/-- The greatest `k` with `10 ^ k ≤ num / den`. -/
def floorLog10 (num den : Nat) : Int :=
  floorLog10From num den 4 (floorLog2 num den * 30103 / 100000 - 2)

/-- The point of the grid with unit `10 ^ power` that rounds back to
`mantissa * 2 ^ exponent` and is nearest to it. -/
def gridPoint? (mantissa : Nat) (exponent power : Int) : Option Nat :=
  let m := mantissa
  -- Four times the number, and the ends of its interval, in units of `2 ^ (exponent - 2)`.
  let low := if m = Nat.pow 2 52 && -1074 < exponent then 4 * m - 1 else 4 * m - 2
  let high := 4 * m + 2
  let (unitNum, unitDen) :=
    let (n, d) := scale 1 1 (2 - exponent)
    if 0 ≤ power then (n * Nat.pow 10 power.toNat, d) else (n, d * Nat.pow 10 (-power).toNat)
  let within (k : Nat) : Bool :=
    let point := k * unitNum
    if m % 2 == 0 then low * unitDen ≤ point && point ≤ high * unitDen
    else low * unitDen < point && point < high * unitDen
  let below := 4 * m * unitDen / unitNum
  let gapBelow := 4 * m * unitDen - below * unitNum
  let gapAbove := (below + 1) * unitNum - 4 * m * unitDen
  match within below, within (below + 1) with
  | false, false => none
  | true, false => some below
  | false, true => some (below + 1)
  | true, true =>
    if gapBelow < gapAbove || (gapBelow == gapAbove && below % 2 == 0) then some below
    else some (below + 1)

/-- The first hit on the grids of `count`, `count + 1`, … digits. -/
def firstHit (mantissa : Nat) (exponent top : Int) : (fuel count : Nat) → Option Decimal
  | 0, _ => none
  | fuel + 1, count =>
    let power := top + 1 - count
    match gridPoint? mantissa exponent power with
    | some k => some ⟨k, power⟩
    | none => firstHit mantissa exponent top fuel (count + 1)

/-- The shortest decimal that rounds back to `mantissa * 2 ^ exponent`.  Seventeen
digits always suffice; a hit on the next power of ten ends in a zero, which is
dropped. -/
def shortest (mantissa : Nat) (exponent : Int) : Decimal :=
  let (num, den) := scale mantissa 1 exponent
  ((firstHit mantissa exponent (floorLog10 num den) 17 1).getD ⟨0, 0⟩).strip 17

end Binary64

/-! ## Text -/

namespace Decimal

/-- The written form of a positive decimal: positional while the point falls within
sixteen places after the first digit or three zeros before it, and always with a
digit on both sides of the point; otherwise with a power of ten of two digits or
more and its sign. -/
def text (d : Decimal) : String :=
  let digits := (Nat.repr d.digits).toList
  let point : Int := digits.length + d.exponent
  let zeros (n : Int) : List Char := List.replicate n.toNat '0'
  if 0 < point && point ≤ 16 then
    if digits.length ≤ point then
      String.ofList (digits ++ zeros (point - digits.length) ++ ['.', '0'])
    else
      String.ofList (digits.take point.toNat ++ ['.'] ++ digits.drop point.toNat)
  else if -4 < point && point ≤ 0 then
    String.ofList (['0', '.'] ++ zeros (-point) ++ digits)
  else
    let power := (Nat.repr (point - 1).natAbs).toList
    let padded := zeros (2 - power.length) ++ power
    let fraction := if digits.length ≤ 1 then [] else '.' :: digits.drop 1
    String.ofList
      (digits.take 1 ++ fraction ++ ['e', if point - 1 < 0 then '-' else '+'] ++ padded)

end Decimal

namespace Binary64

/-- The written form of a number: the shortest decimal that reads back, and words for
what is not finite. -/
def text : Binary64 → String
  | nan => "nan"
  | infinite negative => if negative then "-inf" else "inf"
  | finite negative mantissa exponent =>
    let size := if mantissa = 0 then "0.0" else (shortest mantissa exponent).text
    if negative then "-" ++ size else size

end Binary64

end PageGrep
