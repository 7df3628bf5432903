/-
# Binary floating-point numbers of 64 bits

A number is kept as what it stands for: not a number, an infinity, or a signed
`mantissa * 2 ^ exponent`.  Every finite result is the exact one, rounded to the
nearest number of the format, a tie to the even mantissa (`round`); so arithmetic
is done on fractions and never on approximations.
-/

namespace PageGrep

/-- A number of the 64-bit binary format.  `round` gives finite numbers in their
canonical form: a mantissa of 53 bits, or the least exponent, `-1074`. -/
inductive Binary64 where
  | nan
  | infinite (negative : Bool)
  | finite (negative : Bool) (mantissa : Nat) (exponent : Int)
deriving DecidableEq, Repr, Inhabited

namespace Binary64

/-! ## Rounding -/

/-- The quotient rounded to the nearest whole number, a tie to the even one. -/
def roundDiv (num den : Nat) : Nat :=
  let q := num / den
  let r := num % den
  if 2 * r < den then q
  else if den < 2 * r then q + 1
  else if q % 2 == 0 then q else q + 1

/-- The fraction `num / den` scaled by `2 ^ shift`, as a fraction. -/
def scale (num den : Nat) (shift : Int) : Nat × Nat :=
  if 0 ≤ shift then (num * Nat.pow 2 shift.toNat, den) else (num, den * Nat.pow 2 (-shift).toNat)

/-- The greatest `k` with `2 ^ k ≤ num / den`, for positive `num` and `den`. -/
def floorLog2 (num den : Nat) : Int :=
  let k : Int := (num.log2 : Int) - den.log2
  let (n, d) := scale num den (-k)
  if d ≤ n then k else k - 1

/-- The number nearest to the fraction `num / den`. -/
def round (negative : Bool) (num den : Nat) : Binary64 :=
  if num = 0 then finite negative 0 (-1074)
  else
    let exponent := max (floorLog2 num den - 52) (-1074)
    let (n, d) := scale num den (-exponent)
    let mantissa := roundDiv n d
    let (mantissa, exponent) :=
      if mantissa = Nat.pow 2 53 then (Nat.pow 2 52, exponent + 1) else (mantissa, exponent)
    if 971 < exponent then infinite negative else finite negative mantissa exponent

/-- The number nearest to `digits * 10 ^ exponent`.  Exponents that leave the range
of the format whatever the digits are answered without raising the power. -/
def ofDecimal (negative : Bool) (digits : Nat) (exponent : Int) : Binary64 :=
  if digits = 0 then finite negative 0 (-1074)
  else if 310 < exponent then infinite negative
  else if exponent < -(400 + digits.log2 : Int) then finite negative 0 (-1074)
  else if 0 ≤ exponent then round negative (digits * Nat.pow 10 exponent.toNat) 1
  else round negative digits (Nat.pow 10 (-exponent).toNat)

/-- The number nearest to a whole number. -/
def ofInt (i : Int) : Binary64 := round (decide (i < 0)) i.natAbs 1

/-- The number nearest to a whole number, or nothing beyond the range of the format. -/
def ofInt? (i : Int) : Option Binary64 :=
  match ofInt i with
  | infinite _ => none
  | x => some x

/-! ## Values -/

def zero : Binary64 := finite false 0 (-1074)

/-- The value as a sign and a fraction; infinities and not-a-number have none. -/
def fraction? : Binary64 → Option (Bool × Nat × Nat)
  | finite negative mantissa exponent => some (negative, scale mantissa 1 exponent)
  | _ => none

/-- The value, if it is a whole number. -/
def toInt? (x : Binary64) : Option Int :=
  match x.fraction? with
  | some (negative, num, den) =>
    if num % den = 0 then
      some (if negative then -((num / den : Nat) : Int) else ((num / den : Nat) : Int))
    else none
  | none => none

/-- The value without its fraction, if the number is finite. -/
def truncate? (x : Binary64) : Option Int :=
  x.fraction?.map fun (negative, num, den) =>
    if negative then -((num / den : Nat) : Int) else ((num / den : Nat) : Int)

/-- Whether the number compares at or below zero; not-a-number does not. -/
def atMostZero : Binary64 → Bool
  | nan => false
  | infinite negative => negative
  | finite negative mantissa _ => negative || mantissa == 0

def isZero : Binary64 → Bool
  | finite _ mantissa _ => mantissa == 0
  | _ => false

/-! ## Arithmetic -/

def neg : Binary64 → Binary64
  | nan => nan
  | infinite negative => infinite (!negative)
  | finite negative mantissa exponent => finite (!negative) mantissa exponent

def isNegative : Binary64 → Bool
  | nan => false
  | infinite negative => negative
  | finite negative _ _ => negative

def mul (x y : Binary64) : Binary64 :=
  let negative := x.isNegative != y.isNegative
  match x.fraction?, y.fraction? with
  | some (_, a, b), some (_, c, d) => round negative (a * c) (b * d)
  | _, _ =>
    if x == nan || y == nan || x.isZero || y.isZero then nan else infinite negative

/-- The sum; two zeros, or a number and its opposite, give a positive zero unless
both signs are minus. -/
def add (x y : Binary64) : Binary64 :=
  match x.fraction?, y.fraction? with
  | some (s, a, b), some (t, c, d) =>
    let signed (negative : Bool) (n : Nat) : Int := if negative then -(n : Int) else n
    let sum := signed s (a * d) + signed t (c * b)
    if sum = 0 then finite (s && t) 0 (-1074)
    else round (decide (sum < 0)) sum.natAbs (b * d)
  | _, _ =>
    match x, y with
    | nan, _ | _, nan => nan
    | infinite s, infinite t => if s == t then infinite s else nan
    | infinite s, _ => infinite s
    | _, z => z

end Binary64

end PageGrep
