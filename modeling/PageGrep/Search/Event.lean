/-
# Events of a search

A search shows how it stands, the pages it finds, and what it logs, in one order.
-/
import PageGrep.Log.Level
import PageGrep.Page.Basic

namespace PageGrep

/-- Something that a search shows. -/
inductive Event where
  | status (text : String)
  | hit (hit : Hit)
  | log (record : Record)
deriving DecidableEq, Repr

namespace Event

/-- The status, if it is one. -/
def status? : Event → Option String
  | status text => some text
  | _ => none

/-- The hit, if it is one. -/
def hit? : Event → Option Hit
  | hit h => some h
  | _ => none

/-- What stands in the log where only the log is looked at: statuses for whoever wants
every detail, and records as they are. -/
def logged? : Event → Option Record
  | status text => some ⟨.debug, text⟩
  | hit _ => none
  | log record => some record

end Event

end PageGrep
