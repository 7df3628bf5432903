/-
# Searching a source

A search fetches every page that a source lists and asks the program of each, in the
order in which the pages come.  A page that cannot be had is logged and not counted.  A
page that was had counts as checked, as found too if the program holds of it, and a
status follows.

A search may be cancelled: right after a number of statuses, the one at the opening
counted, or before it starts.  Then pages that come later are dropped.  Since a page is
counted just when a status follows, the statuses shown are one more than the pages
checked (`Tally.statuses`).

Where looking for a pattern in a page breaks down, the search breaks down with it: what was shown
of the pages before is all that it shows.
-/
import PageGrep.Program.Match
import PageGrep.Report.Panel
import PageGrep.Search.Event
import PageGrep.Source.Basic

namespace PageGrep

/-- How to search: by how many at a time, and whether every step counts. -/
structure Search where
  maxWorkers : Int := 16
  chained : Bool := false
deriving DecidableEq, Repr

/-- Why a search cannot go on. -/
inductive SearchError where
  | source (error : SourceError)
  | noWorkers
  | pattern (error : Pattern.Breakdown)
deriving DecidableEq, Repr

def SearchError.message : SearchError → String
  | source error => error.message
  | noWorkers => "max_workers must be greater than 0"
  | pattern error => error.message

/-- What a search showed, and why it stopped short if it did. -/
structure Run where
  events : List Event
  error? : Option SearchError := none
deriving DecidableEq, Repr

/-- Pages found and pages checked so far. -/
structure Tally where
  found : Nat := 0
  checked : Nat := 0
deriving DecidableEq, Repr

namespace Tally

/-- The statuses shown so far. -/
def statuses (t : Tally) : Nat := t.checked + 1

/-- The tally when one more page is checked. -/
def count (t : Tally) (matched : Bool) : Tally :=
  ⟨t.found + (if matched then 1 else 0), t.checked + 1⟩

/-- Whether a search that is cancelled after a number of statuses is cancelled by now. -/
def isCancelled (t : Tally) (cancelAfter : Option Nat) : Bool :=
  cancelAfter.any (· ≤ t.statuses)

end Tally

/-! ## What is logged -/

namespace Note

def skipped (index : Nat) (reason : Skipped) : Record :=
  ⟨.debug, "Skip sitemap entry " ++ toString index ++ ": " ++ reason.message⟩

/-- What is logged of the members of a directory that are left out. -/
def skips (directory : Directory) : List Record :=
  directory.skipped.map fun (index, reason) => skipped index reason

def listed (source : Source) (total : Nat) : Record :=
  ⟨.info, "Sitemap fetched: source=" ++ source.name ++ " pages=" ++ toString total⟩

def failed (slug : String) (error : SourceError) : Record :=
  ⟨.warning, "Page fetch failed: slug=" ++ slug ++ " error=" ++ error.message⟩

def matched (slug : String) : Record := ⟨.debug, "Page matched: slug=" ++ slug⟩

def cancelled (t : Tally) (total : Nat) : Record :=
  ⟨.info, "Search cancelled: checked=" ++ toString t.checked ++ "/" ++ toString total⟩

def finished (t : Tally) (total : Nat) : Record :=
  ⟨.info, "Search finished: found=" ++ toString t.found ++ " checked=" ++ toString t.checked
    ++ " total=" ++ toString total⟩

end Note

/-! ## The search -/

namespace Search

def opening : String := "fetching sitemap"

/-- What a page that was had brings: the tally after it, and what is shown. -/
def check (search : Search) (program : Program) (total : Nat) (t : Tally) (page : Page) :
    Except Pattern.Breakdown (Tally × List Event) := do
  let matched ← matchPage page program search.chained
  let after := t.count matched
  let shown := if matched then [.log (Note.matched page.slug), .hit page.hit] else []
  return (after, shown ++ [.status (statusText after.found after.checked total)])

/-- What a place of the directory brings. -/
def visit (search : Search) (source : Source) (program : Program) (total : Nat) (t : Tally)
    (ref : PageRef) : Except Pattern.Breakdown (Tally × List Event) :=
  match source.page ref.slug with
  | .error error => .ok (t, [.log (Note.failed ref.slug error)])
  | .ok page => search.check program total t page

/-- What came of places: the tally after them, what was shown, and what the search broke down on
if it did. -/
structure Visited where
  tally : Tally
  events : List Event
  error? : Option Pattern.Breakdown := none

/-- What places bring one after the other, until the search is cancelled or breaks down. -/
def visitAll (search : Search) (source : Source) (program : Program) (cancelAfter : Option Nat)
    (total : Nat) (t : Tally) : List PageRef → Visited
  | [] => { tally := t, events := [] }
  | ref :: rest =>
    if t.isCancelled cancelAfter then { tally := t, events := [.log (Note.cancelled t total)] }
    else
      match search.visit source program total t ref with
      | .error error => { tally := t, events := [], error? := some error }
      | .ok (next, shown) =>
        let further := search.visitAll source program cancelAfter total next rest
        { further with events := shown ++ further.events }

/-- The search over the places of a directory, in the order in which their pages come. -/
def overPlaces (search : Search) (source : Source) (program : Program)
    (cancelAfter : Option Nat) (total : Nat) (places : List PageRef) : Run :=
  if total == 0 then { events := [.status (statusText 0 0 0)] }
  else if search.maxWorkers ≤ 0 then { events := [], error? := some .noWorkers }
  else
    let visited := search.visitAll source program cancelAfter total {} places
    match visited.error? with
    | some error => { events := visited.events, error? := some (.pattern error) }
    | none => { events := visited.events ++ [.log (Note.finished visited.tally total)] }

/-- The search over a source.  The order in which pages come is told by how it arranges
the places of the directory. -/
def run (search : Search) (source : Source) (program : Program)
    (arrange : List PageRef → List PageRef) (cancelAfter : Option Nat) : Run :=
  match source.directory with
  | .error error => { events := [.status opening], error? := some (.source error) }
  | .ok directory =>
    let refs := directory.refs
    let notes := Note.skips directory ++ [Note.listed source refs.length]
    let before := .status opening :: notes.map Event.log
    let rest := search.overPlaces source program cancelAfter refs.length (arrange refs)
    { rest with events := before ++ rest.events }

end Search

/-! ## Views of a run -/

namespace Run

/-- The pages found, in order. -/
def hits (run : Run) : List Hit := run.events.filterMap Event.hit?

/-- The statuses shown, in order. -/
def statuses (run : Run) : List String := run.events.filterMap Event.status?

/-- What stands in the log where only the log is looked at. -/
def logged (run : Run) : List Record := run.events.filterMap Event.logged?

end Run

end PageGrep
