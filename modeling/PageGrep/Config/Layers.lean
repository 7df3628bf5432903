/-
# Layers of settings

Settings laid over others replace what they state and leave the rest: where both have a
mapping under a key the two are laid over each other in turn, else the upper value
counts.
-/
import PageGrep.Config.Value

namespace PageGrep

mutual

/-- The value that stands where `upper` is laid over what was there. -/
def Value.layered (lower : Option Value) (upper : Value) : Value :=
  match upper, lower with
  | .map pairs, some (.map below) => .map (Mapping.layered below pairs)
  | upper, _ => upper

/-- The mapping that pairs make which are laid over it one after the other. -/
def Mapping.layered (lower : Mapping) : List (Value × Value) → Mapping
  | [] => lower
  | (key, value) :: rest =>
    Mapping.layered (Mapping.put key (Value.layered (Mapping.get? key lower) value) lower) rest

end

end PageGrep
