/-
# Levels of the log

Each record of the log has a level, and a threshold decides which records are written.
-/

namespace PageGrep

/-- How grave a record is. -/
inductive Level where
  | debug
  | info
  | warning
  | error
  | critical
deriving DecidableEq, Repr

namespace Level

/-- Every level, the least grave first. -/
def all : List Level := [debug, info, warning, error, critical]

def name : Level → String
  | debug => "DEBUG"
  | info => "INFO"
  | warning => "WARNING"
  | error => "ERROR"
  | critical => "CRITICAL"

def number : Level → Nat
  | debug => 10
  | info => 20
  | warning => 30
  | error => 40
  | critical => 50

def ofName? (name : String) : Option Level := all.find? (·.name == name)

end Level

/-- One record of the log. -/
structure Record where
  level : Level
  message : String
deriving DecidableEq, Repr

end PageGrep
