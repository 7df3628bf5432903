/-
# Searching for a report

The command compiles a program, lists it in the report, and searches only if no line is
faulty.  Everything the search shows goes into the report, and on the console if the
report has that form.
-/
import PageGrep.Command.Check
import PageGrep.Command.Setup
import PageGrep.Report.Output

namespace PageGrep

/-- Why the command fails. -/
inductive CommandError where
  | halt (halt : Halt)
  | program (errors : Nat)
  | setup (error : SetupError)
  | search (error : SearchError)
  | output (error : OutputError)
deriving Repr

def CommandError.message : CommandError → String
  | halt h => h.message
  | program errors => "program has " ++ toString errors ++ " errors"
  | setup error => error.message
  | search error => error.message
  | output error => error.message

/-- How far the command has come: the report, what was logged, and why it stopped short
if it did. -/
structure Reported where
  report : Report := {}
  log : List Record := []
  error? : Option CommandError := none
deriving Repr

namespace Reported

/-- Lists a compiled program, and tells that the search begins or why it does not. -/
def list (compiled : Compiled) (search : Search) (formats : List Format) : Reported :=
  let report := ({} : Report).list compiled.listing compiled.errors
  let listed := Report.told formats (Report.listingNote compiled.errors)
  if compiled.errors == 0 then
    let running : Record :=
      ⟨.info, "Running " ++ toString compiled.program.length ++ " steps (chained="
        ++ (if search.chained then "True" else "False") ++ ")"⟩
    { report := report, log := listed ++ [running] }
  else
    { report := report, log := listed ++ compiled.problemNotes,
      error? := some (.program compiled.errors) }

def follow (report : Report) (formats : List Format) (run : Run) : Reported where
  report := run.events.foldl Report.follow report
  log := run.events.flatMap (Report.notes formats)
  error? := run.error?.map CommandError.search

end Reported

/-- The whole command, over a source that does not depend on what the command logs. -/
def find (engine : Pattern.Engine) (text : String) (search : Search) (source : Source)
    (formats : List Format) (arrange : List PageRef → List PageRef) (cancelAfter : Option Nat) :
    Reported :=
  match compile engine text with
  | .error h => { error? := some (.halt h) }
  | .ok compiled =>
    let listed := Reported.list compiled search formats
    match listed.error? with
    | some _ => listed
    | none =>
      let run := search.run source compiled.program arrange cancelAfter
      let followed := Reported.follow listed.report formats run
      { followed with log := listed.log ++ followed.log }

end PageGrep
