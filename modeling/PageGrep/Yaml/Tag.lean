/-
# Tags

The tag of a node says what its text or its parts mean.  A scalar without quotes and
without a tag gets one by its form: a truth value, a number, nothing, a date or a time,
the signs for merging and for the value itself, or else a text.
-/
import PageGrep.Yaml.Lexer
import PageGrep.Yaml.Stamp

namespace PageGrep.Yaml

/-- What a node means. -/
inductive Tag where
  | null
  | bool
  | int
  | float
  | binary
  | timestamp
  | omap
  | pairs
  | set
  | str
  | seq
  | map
  | merge
  | value
  | unknown
deriving DecidableEq, Repr

namespace Tag

/-- What the tags of the format itself start with. -/
def common : String := "tag:yaml.org,2002:"

/-- The names of the tags of the format itself. -/
def names : List (String × Tag) :=
  [("null", null), ("bool", bool), ("int", int), ("float", float), ("binary", binary),
    ("timestamp", timestamp), ("omap", omap), ("pairs", pairs), ("set", set), ("str", str),
    ("seq", seq), ("map", map), ("merge", merge), ("value", value)]

def ofName (name : String) : Tag :=
  ((names.find? fun (n, _) => common ++ n == name).map Prod.snd).getD unknown

/-! ## Forms of scalars -/

def past (p : Char → Bool) (cs : List Char) : List Char := cs.dropWhile p

def isDigit (c : Char) : Bool := Json.isDecimal c

def isSpaced (c : Char) : Bool := isDigit c || c == '_'

/-- Passes a sign, if there is one. -/
def pastSign : List Char → List Char
  | c :: rest => if c == '+' || c == '-' then rest else c :: rest
  | [] => []

/-- Whether the rest is an exponent with a sign, or nothing. -/
def isExponent : List Char → Bool
  | [] => true
  | e :: s :: rest =>
    (e == 'e' || e == 'E') && (s == '+' || s == '-') && !rest.isEmpty && rest.all isDigit
  | _ => false

/-- Passes groups of a colon and up to two digits below sixty; tells whether there was
one. -/
def pastSixties : (fuel : Nat) → List Char → Bool × List Char
  | 0, cs => (false, cs)
  | fuel + 1, ':' :: a :: b :: rest =>
    if '0' ≤ a && a ≤ '5' && isDigit b then (true, (pastSixties fuel rest).2)
    else if isDigit a then (true, (pastSixties fuel (b :: rest)).2)
    else (false, ':' :: a :: b :: rest)
  | _ + 1, [':', a] => if isDigit a then (true, []) else (false, [':', a])
  | _ + 1, cs => (false, cs)

/-- Whether a text has the form of a number with a point. -/
def isPointed (cs : List Char) : Bool :=
  match cs with
  | '.' :: c :: rest => isDigit c && isExponent (past isSpaced rest)
  | _ =>
    match pastSign cs with
    | c :: rest =>
      isDigit c
        && match past isSpaced rest with
          | '.' :: rest => isExponent (past isSpaced rest)
          | _ => false
    | [] => false

/-- Whether a text has the form of a number in base sixty with a point. -/
def isPointedSixty (cs : List Char) : Bool :=
  match pastSign cs with
  | c :: rest =>
    isDigit c
      && match pastSixties rest.length (past isSpaced rest) with
        | (true, '.' :: rest) => rest.all isSpaced
        | _ => false
  | [] => false

/-- Whether a text has the form of a number of the binary format. -/
def isFloat (cs : List Char) : Bool :=
  isPointed cs || isPointedSixty cs
    || [".inf", ".Inf", ".INF"].contains (String.ofList (pastSign cs))
    || [".nan", ".NaN", ".NAN"].contains (String.ofList cs)

/-- Whether a text is not empty and made of characters of a class. -/
def madeOf (p : Char → Bool) (cs : List Char) : Bool := !cs.isEmpty && cs.all p

def isInt (cs : List Char) : Bool :=
  let body := pastSign cs
  match body with
  | '0' :: 'b' :: rest => madeOf (fun c => c == '0' || c == '1' || c == '_') rest
  | '0' :: 'x' :: rest => madeOf (fun c => (Json.hexValue? c).isSome || c == '_') rest
  | '0' :: rest => rest.all fun c => ('0' ≤ c && c ≤ '7') || c == '_'
  | c :: rest =>
    isDigit c
      && (rest.all isSpaced || pastSixties rest.length (past isSpaced rest) == (true, []))
  | [] => false

def isBool (s : String) : Bool :=
  ["yes", "Yes", "YES", "no", "No", "NO", "true", "True", "TRUE", "false", "False", "FALSE",
    "on", "On", "ON", "off", "Off", "OFF"].contains s

/-- Whether a text stands for nothing. -/
def isNull (s : String) : Bool := ["~", "null", "Null", "NULL", ""].contains s

def withoutLastBreak (cs : List Char) : List Char :=
  if cs.getLast? == some '\n' then cs.dropLast else cs

/-- The tag of a scalar that has none, by its text. -/
def ofText (text : String) : Tag :=
  let cs := withoutLastBreak text.toList
  let s := String.ofList cs
  if isBool s then bool
  else if isFloat cs then float
  else if isInt cs then int
  else if s == "<<" then merge
  else if isNull s && (text != "\n") then null
  else if Stamp.isForm cs then timestamp
  else if s == "=" then value
  else if ["!", "&", "*"].contains s then unknown
  else str

/-! ## Tags of nodes -/

def isOpen (tag : Option String) : Bool := tag.isNone || tag == some "!"

def ofScalar (tag : Option String) (plain : Bool) (text : String) : Tag :=
  match tag with
  | none => if plain then ofText text else str
  | some name => if name == "!" then ofText text else ofName name

def ofSequence (tag : Option String) : Tag := if isOpen tag then seq else ofName (tag.getD "")

def ofMapping (tag : Option String) : Tag := if isOpen tag then map else ofName (tag.getD "")

end Tag

end PageGrep.Yaml
