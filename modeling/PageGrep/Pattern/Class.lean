/-
# One character against a set

Where case is ignored a character is folded to its small form, and a set is asked for
the small forms of its members.  Forms that share a capital are the same to a set
(`relatives`).  A set that holds no letter with two cases is asked for the character as
it is.  Members beyond the first 65536 code points are kept as they are written: a range
of them holds a small form if the form or its capital lies in it.
-/
import PageGrep.Pattern.Tree
import PageGrep.Text.Case
import PageGrep.Text.Blank
import PageGrep.Text.Letter

namespace PageGrep.Pattern

/-! ## Folding -/

/-- How a character is folded before it is compared. -/
inductive Folding where
  | exact
  | basic
  | full
deriving DecidableEq, Repr

def Settings.folding (s : Settings) : Folding :=
  if !s.ignoreCase then .exact else if s.unicode then .full else .basic

/-- The folded form of a code point. -/
def Folding.fold : Folding → Nat → Nat
  | exact, c => c
  | basic, c => Text.lowerBasic c
  | full, c => Text.lowerCode c

def Folding.cased : Folding → Nat → Bool
  | exact, _ => false
  | basic, c => Text.isBasicLetter c
  | full, c => Text.isCased c

/-- Small forms with a common capital. -/
def families : List (List Nat) := [
  [0x69, 0x131], [0x73, 0x17F], [0xB5, 0x3BC], [0x345, 0x3B9, 0x1FBE], [0x390, 0x1FD3],
  [0x3B0, 0x1FE3], [0x3B2, 0x3D0], [0x3B5, 0x3F5], [0x3B8, 0x3D1], [0x3BA, 0x3F0],
  [0x3C0, 0x3D6], [0x3C1, 0x3F1], [0x3C2, 0x3C3], [0x3C6, 0x3D5], [0x432, 0x1C80],
  [0x434, 0x1C81], [0x43E, 0x1C82], [0x441, 0x1C83], [0x442, 0x1C84, 0x1C85],
  [0x44A, 0x1C86], [0x463, 0x1C87], [0x1C88, 0xA64B], [0x1E61, 0x1E9B], [0xFB05, 0xFB06]]

/-- The small forms that are the same as `c` where case is ignored. -/
def Folding.relatives : Folding → Nat → List Nat
  | full, c => (families.find? (·.contains c)).getD [c]
  | _, c => [c]

/-- The code points whose folded form is `c`. -/
def Folding.sources : Folding → Nat → List Nat
  | exact, c => [c]
  | basic, c =>
    if Text.lowerBasic c != c then []
    else if Text.isBasicLetter c then [c, c - 32] else [c]
  | full, c =>
    let capitals := Text.capitalsOf c
    if Text.lowerCode c == c then c :: capitals else capitals

/-! ## Sets -/

/-- A member of a set as it is asked for. -/
inductive Asked where
  | among (codes : List Nat)
  | between (low high : Nat)
  | foldedInto (folding : Folding) (low high : Nat)
  | eitherCase (low high : Nat)
  | kind (k : Kind) (ascii negated : Bool)
deriving Repr

/-- A set of characters, how a character is folded before the set is asked, and whether
the answer is turned round. -/
structure Class where
  folding : Folding
  negated : Bool
  members : List Asked
deriving Repr

def Kind.holds (k : Kind) (ascii : Bool) (c : Nat) : Bool :=
  match k, ascii with
  | digit, true => Text.isBasicDigit c
  | digit, false => Text.isDigit c
  | space, true => Text.isBasicBlank c
  | space, false => Text.isBlank c
  | word, true => Text.isBasicWord c
  | word, false => Text.isWord c

def Asked.holds (c : Nat) : Asked → Bool
  | among codes => codes.contains c
  | between low high => low ≤ c && c ≤ high
  | foldedInto folding low high =>
    (folding.relatives c).any fun relative =>
      (folding.sources relative).any fun source => low ≤ source && source ≤ high
  | eitherCase low high =>
    (low ≤ c && c ≤ high)
      || (let capital := Text.upperCode c; low ≤ capital && capital ≤ high)
  | kind k ascii negated => k.holds ascii c != negated

/-- Whether a code point is of a class. -/
def Class.holds (s : Class) (c : Nat) : Bool :=
  let folded := s.folding.fold c
  s.members.any (·.holds folded) != s.negated

namespace Class

/-- The last code point of the first plane. -/
def planeEnd : Nat := 0xFFFF

def casedMember (folding : Folding) : Member → Bool
  | .one code => folding.cased code || (planeEnd < code && folding != .exact)
  | .range low high =>
    match folding with
    | .exact => false
    | .basic =>
      planeEnd < high || (low ≤ 90 && 65 ≤ high) || (low ≤ 122 && 97 ≤ high)
    | .full => planeEnd < high || Text.anyCased low high
  | .kind _ _ => false

def plainMember (ascii : Bool) : Member → List Asked
  | .one code => [.among [code]]
  | .range low high => [.between low high]
  | .kind k negated => [.kind k ascii negated]

/-- The greatest number of code points of a range that is asked for as a list. -/
def listLimit : Nat := 64

def foldedMember (folding : Folding) (ascii : Bool) : Member → List Asked
  | .one code =>
    if planeEnd < code then [.among [code]]
    else [.among (folding.relatives (folding.fold code))]
  | .range low high =>
    if planeEnd < high then [.foldedInto folding low planeEnd, .eitherCase low high]
    else if low < high && high - low < listLimit then
      [.among ((List.range' low (high + 1 - low)).flatMap fun code =>
        folding.relatives (folding.fold code))]
    else [.foldedInto folding low high]
  | .kind k negated => [.kind k ascii negated]

def ofSet (settings : Settings) (negated : Bool) (members : List Member) : Class :=
  let ascii := !settings.unicode
  if members.any (casedMember settings.folding) then
    ⟨settings.folding, negated, members.flatMap (foldedMember settings.folding ascii)⟩
  else ⟨.exact, negated, members.flatMap (plainMember ascii)⟩

/-- The class of one code point, or of all others. -/
def ofCode (settings : Settings) (negated : Bool) (code : Nat) : Class :=
  let folding := settings.folding
  if folding.cased code then
    ⟨folding, negated, [.among (folding.relatives (folding.fold code))]⟩
  else ⟨.exact, negated, [.among [code]]⟩

/-- The class of any character, the line feed apart unless settings include it. -/
def ofAny (settings : Settings) : Class :=
  if settings.dotAll then ⟨.exact, true, []⟩ else ⟨.exact, true, [.among [10]]⟩

/-! ## Shapes -/

/-- The code point that alone is of the class, if the class is written as that one. -/
def only? (s : Class) : Option Nat :=
  match s with
  | ⟨.exact, false, [.among [code]]⟩ => some code
  | _ => none

/-- Whether the class takes characters as they are and is more than all but one of
them. -/
def isPlain (s : Class) : Bool :=
  match s with
  | ⟨.exact, true, []⟩ | ⟨.exact, true, [.among [_]]⟩ => false
  | ⟨.exact, _, _⟩ => true
  | _ => false

/-- Whether the class folds characters and asks a set of more than one form. -/
def isFoldedSet (s : Class) : Bool :=
  match s with
  | ⟨.exact, _, _⟩ | ⟨_, _, [.among [_]]⟩ => false
  | _ => true

end Class

end PageGrep.Pattern
