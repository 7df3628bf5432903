/-
# Engines

Patterns are read and looked for by an engine, of which there are two releases.  They differ in
what they make of a very wide look-behind, and in where a possessive repetition goes on from once a
round of it has failed.  A pattern keeps the release that it was compiled for.
-/

namespace PageGrep.Pattern

/-- The releases of the engine. -/
inductive Engine where
  | early
  | late
deriving DecidableEq, Repr

namespace Engine

/-- The bound at which the least number of characters of a part is cut off. -/
def leastLimit : Engine → Nat
  | early => 4294967294
  | late => 18446744073709551616

/-- The bound at which the greatest number of characters of a part is cut off.  In the early
release it is one more than the other, so that a part cut off never looks like one of a fixed
width. -/
def greatestLimit : Engine → Nat
  | early => 4294967295
  | late => 18446744073709551616

/-- How far back a look may not go although its width is fixed.  The early release finds out only
when the whole pattern is compiled. -/
def lookLimit? : Engine → Option Nat
  | early => some 2147483648
  | late => none

/-- A possessive repetition goes on from where its last round ended, and not from where the round
that failed was given up. -/
def rewinds : Engine → Bool
  | early => false
  | late => true

end Engine

end PageGrep.Pattern
