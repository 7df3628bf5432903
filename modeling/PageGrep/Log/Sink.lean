/-
# Where the log goes

A log has a threshold of its own and a list of sinks.  A record goes to each sink that
takes its level: the console takes records from a level that is set, a file takes those
from `debug` on.  Levels are numbers here, since a record may lie between the named ones.
-/
import PageGrep.Files.Basic
import PageGrep.Log.Level
import PageGrep.Log.Moment
import PageGrep.Text.Case

namespace PageGrep

/-! ## Levels by number -/

namespace Level

/-- The numbers that names stand for: the levels, further names of two of them, and the
threshold below every level. -/
def numbers : List (String × Int) :=
  all.map (fun level => (level.name, (level.number : Int)))
    ++ [("WARN", (warning.number : Int)), ("FATAL", (critical.number : Int)), ("NOTSET", 0)]

/-- The number of a name in letters of either case; `info` for a name that is none. -/
def numberOf (name : String) : Int :=
  ((numbers.find? (·.1 == Text.upperText name)).map (·.2)).getD info.number

/-- The four letters that stand for a level in a line; a level between the named ones has
the first letters of the word for it. -/
def tag (number : Int) : String :=
  match all.find? fun level => (level.number : Int) == number with
  | some debug => "DEBG"
  | some info => "INFO"
  | some warning => "WARN"
  | some error | some critical => "ERRO"
  | none => "Leve"

end Level

/-! ## Sinks -/

/-- Where records go. -/
inductive Sink where
  | console (threshold : Int)
  | file (place : Place)
deriving DecidableEq, Repr

/-- The level from which on a sink takes records. -/
def Sink.threshold : Sink → Int
  | console threshold => threshold
  | file _ => Level.debug.number

/-- A log: the level from which on it takes records, zero standing for a warning, and
its sinks. -/
structure Log where
  threshold : Int := Level.debug.number
  sinks : List Sink := []
deriving DecidableEq, Repr

namespace Log

def line (now : Moment) (number : Int) (message : String) : String :=
  now.lineStamp ++ " [" ++ Level.tag number ++ "] " ++ message ++ "\n"

def takes (log : Log) (number : Int) : Bool :=
  (if log.threshold == 0 then (Level.warning.number : Int) else log.threshold) ≤ number

def sinksFor (log : Log) (number : Int) : List Sink :=
  if log.takes number then log.sinks.filter (·.threshold ≤ number) else []

/-! ## Setting up -/

/-- The directory of log files where none is given. -/
def defaultDirectory : String := "log"

def pathOf (directory action : String) (now : Moment) : Path :=
  let base := Path.ofText (if directory == "" then defaultDirectory else directory)
  (base.join action).join (action ++ "_" ++ now.logStamp ++ ".log")

/-- Makes the log file of an action, or leaves it as it is if it is there. -/
def openFile (files : Files) (directory action : String) (now : Moment) :
    Files × Except FileError Place :=
  let path := pathOf directory action now
  let (files, error?) := files.makeDirectory
    ((Path.ofText (if directory == "" then defaultDirectory else directory)).join action)
  match error? with
  | some error => (files, .error error)
  | none =>
    match files.placeToWrite path with
    | .error error => (files, .error error)
    | .ok place => (files.appendAt place "", .ok place)

/-- A log at a level for an action: to the console, and to a file too if that is wanted
and the action has a name.  A log whose file cannot be made keeps its threshold and has
no sinks. -/
def configure (old : Log) (files : Files) (level : String) (action : String)
    (toFile : Bool) (directory : String) (now : Moment) : Files × Log × Option FileError :=
  let number := Level.numberOf level
  let threshold := min (Level.debug.number : Int) number
  if toFile && action != "" then
    match openFile files directory action now with
    | (files, .ok place) => (files, ⟨threshold, [.console number, .file place]⟩, none)
    | (files, .error error) => (files, { old with sinks := [] }, some error)
  else (files, ⟨threshold, [.console number]⟩, none)

/-! ## Writing -/

def writeToFiles (files : Files) (line : String) (sinks : List Sink) : Files :=
  sinks.foldl (fun files sink =>
    match sink with
    | .console _ => files
    | .file place => files.appendAt place line) files

def writeToConsole (line : String) (sinks : List Sink) : String :=
  if sinks.any (· matches .console _) then line else ""

/-- Writes a message: the files then, and what comes out on the console. -/
def write (log : Log) (files : Files) (now : Moment) (number : Int) (message : String) :
    Files × String :=
  let sinks := log.sinksFor number
  let text := line now number message
  (writeToFiles files text sinks, writeToConsole text sinks)

end Log

end PageGrep
