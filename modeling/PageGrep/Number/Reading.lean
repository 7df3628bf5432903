/-
# Numbers in running text

`Binary64.ofText?` reads a number the lenient way: blanks around it, a sign, digits of
any script with single underscores between them, a point with digits on one side at
least, and an exponent; or one of the words for what is not finite, in any case.
-/
import PageGrep.Number.Binary64
import PageGrep.Text.Numeral

namespace PageGrep.Binary64

def takeDigits : List Char → List Nat × List Char
  | [] => ([], [])
  | c :: '_' :: e :: rest =>
    match Text.Numeral.digit? 10 c with
    | none => ([], c :: '_' :: e :: rest)
    | some d =>
      if (Text.Numeral.digit? 10 e).isSome then
        let (ds, tail) := takeDigits (e :: rest)
        (d :: ds, tail)
      else ([d], '_' :: e :: rest)
  | c :: rest =>
    match Text.Numeral.digit? 10 c with
    | none => ([], c :: rest)
    | some d =>
      let (ds, tail) := takeDigits rest
      (d :: ds, tail)

def digitsValue (digits : List Nat) : Nat := digits.foldl (fun n d => n * 10 + d) 0

/-- The power of ten of an exponent, which is all that may be left. -/
def powerOf? : List Char → Option Int
  | [] => some 0
  | c :: rest =>
    if c != 'e' && c != 'E' then none
    else
      let (negative, rest) :=
        match rest with
        | '-' :: after => (true, after)
        | '+' :: after => (false, after)
        | _ => (false, rest)
      match takeDigits rest with
      | (d :: ds, []) =>
        let size : Int := digitsValue (d :: ds)
        some (if negative then -size else size)
      | _ => none

def unsignedOf? (negative : Bool) (cs : List Char) : Option Binary64 :=
  let word := String.ofList (cs.map Char.toLower)
  if word == "inf" || word == "infinity" then some (infinite negative)
  else if word == "nan" then some nan
  else
    let (whole, rest) := takeDigits cs
    let (fraction, rest) :=
      match rest with
      | '.' :: after => takeDigits after
      | _ => ([], rest)
    if whole.isEmpty && fraction.isEmpty then none
    else
      (powerOf? rest).map fun power =>
        ofDecimal negative (digitsValue (whole ++ fraction)) (power - fraction.length)

/-- The number that a text spells. -/
def ofText? (s : String) : Option Binary64 :=
  match Text.Numeral.trim s.toList with
  | '-' :: rest => unsignedOf? true rest
  | '+' :: rest => unsignedOf? false rest
  | cs => unsignedOf? false cs

end PageGrep.Binary64
