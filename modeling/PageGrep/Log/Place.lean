/-
# Places of a template

A place starts with a percent sign and ends with a letter for what stands there.  Between
them come a name within parentheses, flags, a width and a precision, each of which may be
missing; an asterisk for one of the last two takes it from the values.

A value that stands at a place has a text, of which the sign and the sign of the base are
told apart since zeros go between them and the digits.
-/
import PageGrep.Json.Printer
import PageGrep.Number.Notation

namespace PageGrep.Template

/-- A width or a precision: none, a number, or the next of the values. -/
inductive Amount where
  | none
  | fixed (n : Nat)
  | given
deriving DecidableEq, Repr

/-- What may be asked of the text at a place: to stand on the left, to show a plus or a
blank where no minus is, the other form of a number, and zeros before it. -/
structure Flags where
  left : Bool := false
  plus : Bool := false
  blank : Bool := false
  other : Bool := false
  zeros : Bool := false
deriving DecidableEq, Repr

/-- A place as it is written. -/
structure Place where
  name : Option String
  flags : Flags
  width : Amount
  precision : Amount
  kind : Char
deriving DecidableEq, Repr

/-! ## Reading a place -/

/-- The name up to the parenthesis that closes it, `depth` others being open within. -/
def takeName (depth : Nat) : List Char → Option (List Char × List Char)
  | [] => none
  | ')' :: rest =>
    match depth with
    | 0 => some ([], rest)
    | depth + 1 => (takeName depth rest).map fun (name, rest) => (')' :: name, rest)
  | c :: rest =>
    (takeName (if c == '(' then depth + 1 else depth) rest).map fun (name, rest) =>
      (c :: name, rest)

def takeFlags (so : Flags) : List Char → Flags × List Char
  | [] => (so, [])
  | c :: rest =>
    if c == '-' then takeFlags { so with left := true } rest
    else if c == '+' then takeFlags { so with plus := true } rest
    else if c == ' ' then takeFlags { so with blank := true } rest
    else if c == '#' then takeFlags { so with other := true } rest
    else if c == '0' then takeFlags { so with zeros := true } rest
    else (so, c :: rest)

def isDigit (c : Char) : Bool := '0'.toNat ≤ c.toNat && c.toNat ≤ '9'.toNat

def numberOf (ds : List Char) : Nat := ds.foldl (fun n c => n * 10 + (c.toNat - '0'.toNat)) 0

/-- Widths and precisions from this one on are refused. -/
def amountLimit : Nat := 2147483648

/-- The amount that comes next; without digits there is none. -/
def takeAmount (cs : List Char) : Option (Amount × List Char) :=
  match cs with
  | '*' :: rest => some (.given, rest)
  | cs =>
    let ds := cs.takeWhile isDigit
    if ds.isEmpty then some (.none, cs)
    else if amountLimit ≤ numberOf ds then none
    else some (.fixed (numberOf ds), cs.drop ds.length)

/-- The precision, which follows a point; a point alone stands for none of it. -/
def takePrecision : List Char → Option (Amount × List Char)
  | '.' :: rest =>
    (takeAmount rest).map fun (amount, rest) =>
      (if amount = .none then .fixed 0 else amount, rest)
  | cs => some (.none, cs)

/-- Passes a letter for the length of a number, which says nothing here. -/
def pastLength : List Char → List Char
  | c :: rest => if c == 'h' || c == 'l' || c == 'L' then rest else c :: rest
  | [] => []

def takePlace (cs : List Char) : Option (Place × List Char) := do
  let (name, cs) ←
    match cs with
    | '(' :: rest => (takeName 0 rest).map fun (name, rest) => (some (String.ofList name), rest)
    | cs => some (none, cs)
  let (flags, cs) := takeFlags {} cs
  let (width, cs) ← takeAmount cs
  let (precision, cs) ← takePrecision cs
  match pastLength cs with
  | kind :: rest => some (⟨name, flags, width, precision, kind⟩, rest)
  | [] => none

/-! ## Texts of values -/

/-- The text of a value: a sign or none, the sign of a base, and the rest.  Only numbers
have a sign of which they know. -/
structure Piece where
  signed : Bool
  sign : List Char
  base : List Char
  body : List Char
deriving DecidableEq, Repr

def Piece.ofText (cs : List Char) : Piece := ⟨false, [], [], cs⟩

/-- A text with the characters beyond the first 128 written by their codes. -/
def inBasic (s : String) : List Char :=
  s.toList.flatMap fun c =>
    if c.toNat < 0x80 then [c]
    else if c.toNat < 0x100 then '\\' :: 'x' :: Text.Quoted.hexDigits 2 c.toNat
    else if c.toNat < 0x10000 then '\\' :: 'u' :: Text.Quoted.hexDigits 4 c.toNat
    else '\\' :: 'U' :: Text.Quoted.hexDigits 8 c.toNat

/-- The whole number of a value that is a number or a truth value; one of the binary
format counts without its fraction, unless whole numbers only are wanted. -/
def wholeOf? (strict : Bool) : Json → Option Int
  | .int i => some i
  | .bool b => some (if b then 1 else 0)
  | .float x => if strict then none else x.truncate?
  | _ => none

/-- The number of the binary format of a value that is a number or a truth value. -/
def binaryOf? : Json → Option Binary64
  | .float x => some x
  | .int i => Binary64.ofInt? i
  | .bool b => some (.ofInt (if b then 1 else 0))
  | _ => none

/-- The character of a value: the only one of a text, or the one of a code. -/
def charOf? : Json → Option Char
  | .str s =>
    match s.toList with
    | [c] => some c
    | _ => none
  | value => do
    let code ← wholeOf? true value
    if h : code.toNat.isValidChar then
      if 0 ≤ code then some (Char.ofNatAux code.toNat h) else none
    else none

/-- A whole number in a base, with the sign of the base if it is wanted and at least so
many digits. -/
def wholePiece (base : Nat) (mark : Option Char) (capital : Bool) (least : Nat) (i : Int) : Piece :=
  let ds := Nat.toDigits base i.natAbs
  let ds := List.replicate (least - ds.length) '0' ++ ds
  let lead := (mark.map fun c => ['0', c]).getD []
  let raise := fun cs : List Char => if capital then cs.map Char.toUpper else cs
  ⟨true, if i < 0 then ['-'] else [], raise lead, raise ds⟩

def binaryPiece (n : Notation) (capital : Bool) (flags : Flags) (precision : Option Nat)
    (x : Binary64) : Piece :=
  match n.text flags.other capital (precision.getD 6) x with
  | '-' :: rest => ⟨true, ['-'], [], rest⟩
  | cs => ⟨true, [], [], cs⟩

def piece? (kind : Char) (flags : Flags) (precision : Option Nat) (value : Json) : Option Piece :=
  let cut := fun cs : List Char => Piece.ofText (precision.elim cs cs.take)
  let whole := fun (strict : Bool) (base : Nat) (capital : Bool) =>
    (wholeOf? strict value).map
      (wholePiece base (if strict && flags.other then some kind else none) capital
        (precision.getD 0))
  let binary := fun (n : Notation) (capital : Bool) =>
    (binaryOf? value).map (binaryPiece n capital flags precision)
  match kind with
  | 's' => some (cut value.shown.toList)
  | 'r' => some (cut value.shownInside.toList)
  | 'a' => some (cut (inBasic value.shownInside))
  | 'd' | 'i' | 'u' => whole false 10 false
  | 'o' => whole true 8 false
  | 'x' => whole true 16 false
  | 'X' => whole true 16 true
  | 'e' => binary .power false
  | 'E' => binary .power true
  | 'f' => binary .fixed false
  | 'F' => binary .fixed true
  | 'g' => binary .suited false
  | 'G' => binary .suited true
  | 'c' => (charOf? value).map fun c => Piece.ofText [c]
  | _ => none

/-! ## Laying out -/

def Piece.shownSign (p : Piece) (flags : Flags) : List Char :=
  if !p.signed || !p.sign.isEmpty then p.sign
  else if flags.plus then ['+']
  else if flags.blank then [' ']
  else []

/-- The text as wide as is asked: blanks before it, or after it if it is to stand on the
left, or zeros after the signs of a number. -/
def Piece.laidOut (p : Piece) (flags : Flags) (width : Nat) : List Char :=
  let signs := p.shownSign flags ++ p.base
  let room := width - (signs.length + p.body.length)
  if flags.left then signs ++ p.body ++ List.replicate room ' '
  else if flags.zeros && p.signed then signs ++ List.replicate room '0' ++ p.body
  else List.replicate room ' ' ++ signs ++ p.body

end PageGrep.Template
