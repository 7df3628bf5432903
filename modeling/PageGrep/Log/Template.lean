/-
# Messages with places

A message may be given as a template with values for its places.  Values are taken in
order, or by name if there is only one and it is an object with fields; two percent signs
are one.  A template with values left over, or with a place that no value fits, is no
message.
-/
import PageGrep.Log.Place

namespace PageGrep.Template

/-- The values for a template: those still to be taken in order, and the fields that can
be named. -/
structure Supply where
  values : List Json
  fields : Option (List (String × Json))

namespace Supply

def ofValues : List Json → Supply
  | [.obj (field :: fields)] => ⟨[.obj (field :: fields)], some (field :: fields)⟩
  | values => ⟨values, none⟩

def take? (s : Supply) : Option (Json × Supply) :=
  match s.values with
  | [] => none
  | value :: rest => some (value, { s with values := rest })

/-- The supply for a place: a name makes the value of that name the only one. -/
def named? (name : Option String) (s : Supply) : Option Supply :=
  match name with
  | none => some s
  | some name => do
    let value ← Json.lookup? name (← s.fields)
    some { s with values := [value] }

/-- Takes an amount; none of the values is taken if it is written in the place. -/
def amount? (s : Supply) : Amount → Option (Option Int × Supply)
  | .none => some (none, s)
  | .fixed n => some (some (n : Int), s)
  | .given => do
    let (value, s) ← s.take?
    let i ← wholeOf? true value
    if amountLimit ≤ i.natAbs then none else some (some i, s)

end Supply

/-- The text at a place.  A width below zero puts it on the left, a precision below zero
counts as zero. -/
def Place.text? (p : Place) (supply : Supply) : Option (List Char × Supply) := do
  let supply ← supply.named? p.name
  let (width, supply) ← supply.amount? p.width
  let (precision, supply) ← supply.amount? p.precision
  let width := width.getD 0
  let flags := { p.flags with left := p.flags.left || decide (width < 0) }
  let (value, supply) ← supply.take?
  let piece ← piece? p.kind flags (precision.map Int.toNat) value
  return (piece.laidOut flags width.natAbs, supply)

/-- The characters of a template with its places filled.  Every step takes a character of
the template. -/
def fill? : (fuel : Nat) → List Char → Supply → Option (List Char)
  | 0, _, _ => none
  | _ + 1, [], supply => if supply.fields.isNone && !supply.values.isEmpty then none else some []
  | fuel + 1, '%' :: '%' :: rest, supply => (fill? fuel rest supply).map ('%' :: ·)
  | fuel + 1, '%' :: rest, supply => do
    let (place, rest) ← takePlace rest
    let (text, supply) ← place.text? supply
    return text ++ (← fill? fuel rest supply)
  | fuel + 1, c :: rest, supply => (fill? fuel rest supply).map (c :: ·)

/-- The message of a template; without values the template is the message. -/
def message? (template : String) (values : List Json) : Option String :=
  if values.isEmpty then some template
  else
    let cs := template.toList
    (fill? (cs.length + 1) cs (.ofValues values)).map String.ofList

end PageGrep.Template
