/-
# Sets of code points

A property of characters that a standard fixes by enumeration is kept as the
increasing list of the code points at which it changes: the property holds of
`c` exactly when an odd number of boundaries lie at or below `c`.  Membership is
then one bisection.  `Runs` is the companion for maps: an arithmetic run of code
points that are all moved by one offset.
-/

namespace PageGrep.Text

/-! ## Boundary lists -/

/-- The number of entries at or below `c` in an increasing array, given that the
first `lo` are and that none from `hi` on is. -/
def countUpTo (boundaries : Array Nat) (c lo hi : Nat) : Nat :=
  if lo < hi then
    let mid := (lo + hi) / 2
    if boundaries.getD mid 0 ≤ c then countUpTo boundaries c (mid + 1) hi
    else countUpTo boundaries c lo mid
  else lo
termination_by hi - lo
decreasing_by all_goals omega

/-- Whether `c` lies inside the set whose changes are at `boundaries`. -/
def inside (boundaries : Array Nat) (c : Nat) : Bool :=
  countUpTo boundaries c 0 boundaries.size % 2 == 1

/-! ## Runs of moved code points -/

/-- The code points `first`, `first + stride`, … up to `last`, each moved by `offset`. -/
structure Run where
  first : Nat
  last : Nat
  stride : Nat
  offset : Int

namespace Run

/-- Whether the run moves `c`. -/
def moves (r : Run) (c : Nat) : Bool :=
  r.first ≤ c && c ≤ r.last && (c - r.first) % r.stride == 0

/-- Where the run sends `c`. -/
def image (r : Run) (c : Nat) : Nat := (c + r.offset).toNat

/-- The code point that the run sends to `c`, if there is one. -/
def preimage? (r : Run) (c : Nat) : Option Nat :=
  let source := c - r.offset
  if 0 ≤ source && r.moves source.toNat then some source.toNat else none

/-- Whether the run moves some code point between `lo` and `hi`. -/
def meets (r : Run) (lo hi : Nat) : Bool :=
  let start := max lo r.first
  let next := start + (r.stride - (start - r.first) % r.stride) % r.stride
  next ≤ r.last && next ≤ hi

end Run

/-- The number of runs of `runs[lo:hi]`, shifted by `lo`, that start at or below `c`,
by bisection on the first entries. -/
def startedUpTo (runs : Array Run) (c lo hi : Nat) : Nat :=
  if lo < hi then
    let mid := (lo + hi) / 2
    if (runs[mid]?.map Run.first).getD 0 ≤ c then startedUpTo runs c (mid + 1) hi
    else startedUpTo runs c lo mid
  else lo
termination_by hi - lo
decreasing_by all_goals omega

/-- The image of `c` under a table of runs that lie one after the other: only the
last run that starts at or below `c` can move it. -/
def moved (runs : Array Run) (c : Nat) : Nat :=
  match runs[startedUpTo runs c 0 runs.size - 1]? with
  | some r => if r.moves c then r.image c else c
  | none => c

end PageGrep.Text
