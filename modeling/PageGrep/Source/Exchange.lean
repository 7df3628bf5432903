/-
# Asking a server

A page server is asked for an address in at most four exchanges.  An exchange that timed
out, found no connection, or brought a status that may pass is tried again after a pause,
and each pause is twice as long as the one before; any other exchange is the last.  The
exchanges to come are given as a list; beyond its end nothing is answered.
-/
import PageGrep.Log.Level
import PageGrep.Source.Basic

namespace PageGrep

/-- What a server answers. -/
structure Response where
  status : Int
  reason : String
  body : String
deriving DecidableEq, Repr

/-- What comes of asking once: a response, or some trouble on the way. -/
inductive Exchange where
  | response (response : Response)
  | trouble (kind : Trouble) (message : String)
deriving DecidableEq, Repr

/-- The value in a response to a request for an address, unless the request was refused. -/
def Response.value (url : String) (response : Response) : Except SourceError Json :=
  if 400 ≤ response.status && response.status < 600 then
    .error (.refused response.status response.reason url)
  else (Json.parse response.body).mapError .json

namespace Exchange

/-- The statuses that may pass. -/
def passing : List Int := [429, 500, 502, 503, 504]

/-- The response that is received; one whose status may pass is an error like trouble on the
way. -/
def received : Exchange → Except SourceError Response
  | trouble kind message => .error (.trouble kind message)
  | response r => if passing.contains r.status then .error (.busy r.status) else .ok r

/-- What stands in for exchanges beyond the end of a list. -/
def exhausted : Exchange := trouble .other "script exhausted"

end Exchange

/-- Whether it is worth asking again after an error.  An error of the protocol is worth it
by the status of its response, and not without one. -/
def SourceError.mayPass : SourceError → Bool
  | trouble kind _ => kind == .timeout || kind == .connection
  | busy status | refused status _ _ => Exchange.passing.contains status
  | _ => false

/-! ## Pauses -/

/-- A pause, in tenths of a second. -/
structure Pause where
  tenths : Nat
deriving DecidableEq, Repr

namespace Pause

def longest : Nat := 80

/-- The pause after an attempt, counted from one. -/
def after (attempt : Nat) : Pause := ⟨min (8 * Nat.pow 2 (attempt - 1)) longest⟩

/-- The seconds, with one place. -/
def seconds (p : Pause) : String := toString (p.tenths / 10) ++ "." ++ toString (p.tenths % 10)

end Pause

/-! ## Asking -/

/-- How often an address is asked for at most. -/
def attemptLimit : Nat := 4

/-- What came of asking for an address: the addresses that were asked for, one for each
exchange, the pauses between, what was logged, what it brought, and the exchanges still
to come. -/
structure Asked (α : Type) where
  urls : List String
  pauses : List Pause
  log : List Record
  result : Except SourceError α
  rest : List Exchange

namespace Asked

def note (url : String) (attempt : Nat) (error : SourceError) : Record :=
  ⟨.debug, "Wiki retry url=" ++ url ++ " attempt=" ++ toString attempt ++ "/"
    ++ toString attemptLimit ++ " delay=" ++ (Pause.after attempt).seconds ++ "0s error="
    ++ error.message⟩

/-- Asks for an address with some attempts left, given the error of the attempt before.  With
none left, that error is what came of it. -/
def ask (url : String) : (left : Nat) → (last? : Option SourceError) → List Exchange →
    Asked Response
  | 0, last?, exchanges => ⟨[], [], [], .error (last?.getD .unasked), exchanges⟩
  | left + 1, _, exchanges =>
    match (exchanges.head?.getD .exhausted).received with
    | .ok response => ⟨[url], [], [], .ok response, exchanges.tail⟩
    | .error error =>
      if error.mayPass then
        let attempt := attemptLimit - left
        let further := ask url left (some error) exchanges.tail
        { further with
          urls := url :: further.urls
          pauses := if attempt < attemptLimit then Pause.after attempt :: further.pauses
            else further.pauses
          log := if attempt < attemptLimit then note url attempt error :: further.log
            else further.log }
      else ⟨[url], [], [], .error error, exchanges.tail⟩

end Asked

/-- Asks a server for the value at an address. -/
def askFor (url : String) (exchanges : List Exchange) : Asked Json :=
  let asked := Asked.ask url attemptLimit none exchanges
  { asked with result := asked.result.bind (Response.value url) }

end PageGrep
