/-
# Runs of names

Characters that follow one another often have names that start alike.  A run gives the
names of such characters in order, in pieces that are read as one text.  Each name is
written as a small letter, which tells how many words of the name before are kept (`a`
none, `b` one and so on), and the words that come after them.

A name is sought without writing out the others: all that is remembered of the name
before is the number of words in which it agrees with the one sought.
-/
import PageGrep.Text.Lines

namespace PageGrep.Text

/-- The names of characters that follow one another, from the first of them on. -/
structure NameRun where
  first : Nat
  names : List String

namespace NameRun

/-- Whether a character tells how many words are kept. -/
def isCount (c : Char) : Bool := 'a'.toNat ≤ c.toNat && c.toNat ≤ 'z'.toNat

/-- Puts a character before the entries of a run: those after it, and what of the entry
it is in comes after it. -/
def extend (c : Char) (so : List Char × List (Nat × List Char)) :
    List Char × List (Nat × List Char) :=
  if isCount c then ([], (c.toNat - 'a'.toNat, so.1) :: so.2) else (c :: so.1, so.2)

/-- The entries of a run: how many words are kept, and the text of the others. -/
def entries (names : List String) : List (Nat × List Char) :=
  ((names.flatMap String.toList).foldr extend ([], [])).2

/-- The number of words at the front in which two names agree. -/
def agreement : List (List Char) → List (List Char) → Nat
  | word :: words, other :: others => if word == other then agreement words others + 1 else 0
  | _, _ => 0

/-- The number of names before the one sought.  The name before the first agrees with it
in `agree` words. -/
def position? (sought : List (List Char)) (agree : Nat) : List (Nat × List Char) → Option Nat
  | [] => none
  | (kept, text) :: rest =>
    if agree < kept then (position? sought agree rest).map (· + 1)
    else
      let words := cutAt ' ' text
      let agree := kept + agreement words (sought.drop kept)
      if agree == kept + words.length && agree == sought.length then some 0
      else (position? sought agree rest).map (· + 1)

def find? (sought : List (List Char)) (run : NameRun) : Option Nat :=
  (position? sought 0 (entries run.names)).map (run.first + ·)

end NameRun

end PageGrep.Text
