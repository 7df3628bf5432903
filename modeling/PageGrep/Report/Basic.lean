/-
# Reports

A report follows a command: the listing of the program, how the search stands, and the
pages found.  The console tells each of these as it comes; the other forms are made of
the report at its end.
-/
import PageGrep.Config.Basic
import PageGrep.Json.Printer
import PageGrep.Program.Compiled
import PageGrep.Report.Panel
import PageGrep.Search.Event

namespace PageGrep

/-- What a report holds: the listing and the number of faulty lines, the last status,
the caption, which is the status or what the listing was last told with, and the pages
found. -/
structure Report where
  listing : String := ""
  errors : Int := 0
  status? : Option String := none
  caption : String := Compiled.caption 0
  hits : List Hit := []
deriving DecidableEq, Repr

namespace Report

/-! ## Following a command -/

def list (report : Report) (listing : String) (errors : Int) : Report :=
  { report with listing := listing, errors := errors, caption := Compiled.caption errors }

def progress (report : Report) (status : String) : Report :=
  { report with status? := some status, caption := status }

def found (report : Report) (hit : Hit) : Report := { report with hits := report.hits ++ [hit] }

def follow (report : Report) : Event → Report
  | .status text => report.progress text
  | .hit hit => report.found hit
  | .log _ => report

/-! ## On the console -/

def listingNote (errors : Int) : Record := ⟨.info, "Program " ++ Compiled.caption errors⟩

def statusNote (status : String) : Record := ⟨.debug, status⟩

def hitNote (hit : Hit) : Record :=
  ⟨.info, hit.reference ++ "  /" ++ hit.slug ++ ".html"⟩

/-- What the console tells at the end: the last status, if there is one and it has any
characters. -/
def lastNotes (report : Report) : List Record :=
  match report.status? with
  | some status => if status == "" then [] else [⟨.info, status⟩]
  | none => []

/-- A record for each console among the forms of a report. -/
def told (formats : List Format) (record : Record) : List Record :=
  List.replicate (formats.count .console) record

/-- What stands in the log of something that a search shows. -/
def notes (formats : List Format) : Event → List Record
  | .status text => told formats (statusNote text)
  | .hit hit => told formats (hitNote hit)
  | .log record => [record]

/-! ## In other forms -/

end Report

def Hit.toJson (hit : Hit) : Json :=
  .obj [("slug", .str hit.slug), ("title", .str hit.title), ("story_count", .int hit.storyCount),
    ("reference", .str hit.reference)]

namespace Report

def toJson (report : Report) : Json :=
  .obj [("errors", .int report.errors),
    ("status", (report.status?.map Json.str).getD .null),
    ("hits", .arr (report.hits.map Hit.toJson))]

def references (report : Report) : List String := report.hits.map Hit.reference

def toDocument (report : Report) (action : String) : String :=
  document ("grep " ++ action) (panel report.listing report.caption report.references)

end Report

end PageGrep
