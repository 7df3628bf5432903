/-
# Sessions

While a command runs, its records go to the log: to the console, and to the log file if
there is one.  A session holds the files, the log, and what came out on the console.
-/
import PageGrep.Command.Find
import PageGrep.Config.File
import PageGrep.Log.Sink

namespace PageGrep

/-- The files, the log, and what came out on the console so far. -/
structure Session where
  files : Files
  log : Log := {}
  console : String := ""
deriving Repr

namespace Session

def write (now : Moment) (session : Session) (record : Record) : Session :=
  let (files, shown) := session.log.write session.files now record.level.number record.message
  { session with files := files, console := session.console ++ shown }

/-- The session when records are logged one after the other. -/
def writeAll (now : Moment) (session : Session) (records : List Record) : Session :=
  records.foldl (write now) session

def configure (session : Session) (settings : LogSettings) (action : String) (now : Moment) :
    Session × Option FileError :=
  let (files, log, error?) := session.log.configure session.files settings.level.name action
    settings.toFile settings.dir now
  ({ session with files := files, log := log }, error?)

end Session

/-- What surrounds a command: the engine that patterns are compiled for, the time, and what
servers answer at each address. -/
structure Surroundings where
  engine : Pattern.Engine
  now : Moment
  exchanges : String → List Exchange

/-- Why a command ends otherwise than it should. -/
inductive Escape where
  | load (error : LoadError)
  | read (error : ReadError)
  | file (error : FileError)
  | halt (halt : Halt)
deriving Repr

def Escape.message : Escape → String
  | load error => error.message
  | read error => error.message
  | file error => error.message
  | halt h => h.message

/-- How a command ends. -/
inductive Ending where
  | done
  | faulty
  | aborted
  | misuse
  | help
  | escaped (escape : Escape)
deriving Repr

def Ending.code : Ending → Nat
  | done | help => 0
  | faulty | aborted | escaped _ => 1
  | misuse => 2

namespace Session

/-! ## The commands -/

def check (session : Session) (around : Surroundings) (source : String) : Session × Ending :=
  match PageGrep.check around.engine source with
  | .error h => (session, .escaped (.halt h))
  | .ok checked =>
    (session.writeAll around.now checked.log, if checked.errors == 0 then .done else .faulty)

def failure (error : CommandError) : Record := ⟨.error, "Search failed: " ++ error.message⟩

def abort (session : Session) (now : Moment) (error : CommandError) : Session × Ending :=
  let session := session.write now (failure error)
  ({ session with console := session.console ++ "Aborted!\n" }, .aborted)

/-- Goes on from what was reported, or gives the command up. -/
def proceed (session : Session) (now : Moment) (reported : Reported)
    (next : Session → Session × Ending) : Session × Ending :=
  let session := session.writeAll now reported.log
  match reported.error? with
  | some error => session.abort now error
  | none => next session

def putOut (session : Session) (now : Moment) (report : Report) (base action : String)
    (formats : List Format) : Session × Ending :=
  let put := report.put base action now session.files formats
  let session := { session with files := put.files }.writeAll now put.log
  match put.error? with
  | some error => session.abort now (.output error)
  | none => (session, .done)

/-- Searches and puts the report out.  Pages are looked up among the files as they are
when the search begins. -/
def find (session : Session) (around : Surroundings) (config : Config) (action source : String) :
    Session × Ending :=
  let now := around.now
  match config.reportFormats, compile around.engine source with
  | .error error, _ => session.abort now (.setup error)
  | _, .error h => session.abort now (.halt h)
  | .ok formats, .ok compiled =>
    let listed := Reported.list compiled config.searching formats
    session.proceed now listed fun session =>
      let store := (config.store config.search.source).source session.files around.exchanges
      let run := config.searching.run store compiled.program id none
      let followed := Reported.follow listed.report formats run
      session.proceed now followed fun session =>
        session.putOut now followed.report config.output.baseDir action formats

end Session

end PageGrep
