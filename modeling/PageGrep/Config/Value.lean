/-
# Values of settings

What a settings file can hold: nothing, truth values, numbers, texts, dates and times,
octets, couples, lists, sets, and mappings whose keys may be anything that holds no
other value.  A mapping keeps its keys in order; keys that are equal as numbers are the same
key, and the first of them stays.
-/
import PageGrep.Json.Basic

namespace PageGrep

/-- A value of a settings file.  A time is counted in millionths of a second, and says
whether it has a zone. -/
inductive Value where
  | null
  | bool (value : Bool)
  | int (value : Int)
  | float (value : Binary64)
  | str (value : String)
  | date (year month day : Nat)
  | time (moment : Int) (zoned : Bool)
  | octets (value : List UInt8)
  | couple (first second : Value)
  | list (items : List Value)
  | set (members : List Value)
  | map (pairs : List (Value × Value))
deriving Repr, Inhabited

abbrev Mapping := List (Value × Value)

namespace Value

/-! ## Keys -/

/-- Whether a value is a number that is not one. -/
def isNaN : Value → Bool
  | float x => x == .nan
  | _ => false

/-- The whole number that a truth value or a number is equal to. -/
def whole? : Value → Option Int
  | bool b => some (if b then 1 else 0)
  | int i => some i
  | float x => x.toInt?
  | _ => none

def sameKey (a b : Value) : Bool :=
  match a, b with
  | null, null => true
  | str s, str t => s == t
  | date y m d, date y' m' d' => y == y' && m == m' && d == d'
  | time t z, time t' z' => t == t' && z == z'
  | octets o, octets o' => o == o'
  | float x, float y => x == y || (x.isZero && y.isZero)
  | a, b =>
    match a.whole?, b.whole? with
    | some i, some j => i == j
    | _, _ => false

/-- Whether a value counts as nothing. -/
def isEmpty : Value → Bool
  | null => true
  | bool b => !b
  | int i => i == 0
  | float x => x.isZero
  | str s => s == ""
  | octets o => o.isEmpty
  | list items => items.isEmpty
  | set members => members.isEmpty
  | map pairs => pairs.isEmpty
  | date _ _ _ | time _ _ | couple _ _ => false

end Value

namespace Mapping

def get? (key : Value) (m : Mapping) : Option Value :=
  (m.find? fun pair => pair.1.sameKey key).map Prod.snd

def named? (name : String) (m : Mapping) : Option Value := get? (.str name) m

/-- Puts a value under a key: in place if the key is there, else at the end. -/
def put (key value : Value) : Mapping → Mapping
  | [] => [(key, value)]
  | (k, old) :: rest =>
    if k.sameKey key then (k, value) :: rest else (k, old) :: put key value rest

end Mapping

/-! ## Values of the page format -/

mutual

def Value.ofJson : Json → Value
  | .null => .null
  | .bool b => .bool b
  | .int i => .int i
  | .float x => .float x
  | .str s => .str s
  | .arr items => .list (Value.ofItems items)
  | .obj fields => .map (Value.ofFields fields)

def Value.ofItems : List Json → List Value
  | [] => []
  | item :: items => Value.ofJson item :: Value.ofItems items

def Value.ofFields : List (String × Json) → List (Value × Value)
  | [] => []
  | (name, value) :: fields => (.str name, Value.ofJson value) :: Value.ofFields fields

end

end PageGrep
