/-
# What a search comes to in each form

A search that was shown is told in three forms, and each of them follows the search on its
own.  What they come to is a fold over the events: the pages found in their order, and the
last status, which replaced what stood there before (`foldl_follow`).  A search always shows
a status that has some characters, so the last one is what every form ends with.

The forms are read back here: the data format is read from its file and gives the hits and
the last status, the document is the one that shows them, and the console ends with the
status (`Outputs`).  A search that stops short is told in the log and nowhere else
(`find_eq_execute`).
-/
import PageGrep.Proofs.Command.Gate
import PageGrep.Proofs.Json.RoundTrip
import PageGrep.Proofs.Report.Output
import PageGrep.Proofs.Search.Ledger
import PageGrep.Proofs.Text.Utf8

namespace PageGrep

/-! ## Following a search -/

theorem foldl_follow (report : Report) (events : List Event) :
    events.foldl Report.follow report
      = { report with
          status? := (events.filterMap Event.status?).getLast?.or report.status?
          caption := (events.filterMap Event.status?).getLast?.getD report.caption
          hits := report.hits ++ events.filterMap Event.hit? } := by
  induction events generalizing report with
  | nil => simp
  | cons event events ih =>
      rw [List.foldl_cons, ih]
      cases event with
      | log record => rfl
      | hit hit => simp [Report.follow, Report.found, Event.hit?, Event.status?]
      | status text =>
          simp only [Report.follow, Report.progress, Event.hit?, Event.status?,
            List.filterMap_cons, List.getLast?_cons]
          cases (events.filterMap Event.status?).getLast? <;> rfl

/-! ## Statuses of a search -/

theorem statusText_ne_empty (found checked total : Int) : statusText found checked total ≠ "" := by
  intro hempty
  have hchars := congrArg String.toList hempty
  simp [statusText] at hchars

theorem text_of_mem_shown {o : Outcome} {total : Nat} {t : Tally} {status : String}
    (h : .status status ∈ o.shown total t) : status = t.text total := by
  cases o with
  | failed _ _ | broken _ => simp [Outcome.shown] at h
  | checked _ matched => cases matched <;> simpa [Outcome.shown] using h

section Run

variable (search : Search) (program : Program) {source : Source} (cancelAfter : Option Nat)

theorem ne_empty_of_mem_visitAll {total : Nat} {t : Tally} {refs : List PageRef} {status : String}
    (h : .status status ∈ (search.visitAll source program cancelAfter total t refs).events) :
    status ≠ "" := by
  induction refs generalizing t with
  | nil => simp [Search.visitAll] at h
  | cons ref rest ih =>
      rw [Search.visitAll] at h
      split at h
      · simp at h
      · rw [visit_eq] at h
        cases hbroken : (search.outcome source program ref).broken? with
        | some _ => simp [hbroken] at h
        | none =>
            rw [hbroken] at h
            rcases List.mem_append.mp h with hshown | hrest
            · rw [text_of_mem_shown hshown]
              exact statusText_ne_empty _ _ _
            · exact ih hrest

theorem ne_empty_of_mem_overPlaces {total : Nat} {places : List PageRef} {status : String}
    (h : .status status ∈
      (search.overPlaces source program cancelAfter total places).events) : status ≠ "" := by
  rw [Search.overPlaces] at h
  split at h
  · obtain rfl : status = statusText 0 0 0 := by simpa using h
    exact statusText_ne_empty 0 0 0
  · split at h
    · simp at h
    · dsimp only at h
      split at h
      · exact ne_empty_of_mem_visitAll search program cancelAfter h
      · rcases List.mem_append.mp h with hshown | hlast
        · exact ne_empty_of_mem_visitAll search program cancelAfter hshown
        · simp at hlast

/-- A search over a source that can be listed shows a status at the opening, and no status is
empty. -/
theorem statuses_of_directory {directory : Directory}
    (hdirectory : source.directory = .ok directory) (arrange : List PageRef → List PageRef) :
    (search.run source program arrange cancelAfter).statuses ≠ [] ∧
      ∀ status ∈ (search.run source program arrange cancelAfter).statuses, status ≠ "" := by
  have hrun : search.run source program arrange cancelAfter
      = { search.overPlaces source program cancelAfter directory.refs.length
            (arrange directory.refs) with
          events := .status Search.opening ::
            (Note.skips directory ++ [Note.listed source directory.refs.length]).map Event.log
            ++ (search.overPlaces source program cancelAfter directory.refs.length
              (arrange directory.refs)).events } := by
    rw [Search.run, hdirectory]
  rw [hrun]
  refine ⟨by simp [Run.statuses, Event.status?], fun status hmem => ?_⟩
  obtain ⟨event, hevent, hstatus⟩ := List.mem_filterMap.mp hmem
  obtain rfl : event = .status status := by
    cases event <;> simp [Event.status?] at hstatus
    rw [hstatus]
  rcases List.mem_append.mp hevent with hbefore | hrest
  · obtain rfl : status = Search.opening := by simpa using hbefore
    decide
  · exact ne_empty_of_mem_overPlaces search program cancelAfter hrest

end Run

/-! ## The report of a search -/

/-- The report of a search that came to its end with a last status. -/
def Run.report (run : Run) (listing last : String) : Report where
  listing := listing
  errors := 0
  status? := some last
  caption := last
  hits := run.hits

theorem isExact_toJson {run : Run} (h : ∀ hit ∈ run.hits, Json.IsShort hit.storyCount.natAbs)
    (listing last : String) : (run.report listing last).toJson.IsExact := by
  have hzero : Json.IsShort (0 : Int).natAbs := by
    rw [Json.IsShort]
    decide
  have hhits : Json.AreExact (run.hits.map Hit.toJson) := by
    rw [Json.areExact_iff, List.forall_mem_map]
    intro hit hmem
    exact ⟨by simp, trivial, trivial, h hit hmem, trivial, trivial⟩
  exact ⟨by simp, hzero, trivial, hhits, trivial⟩

/-- The report of a command whose program has no faulty line and whose source can be
listed. -/
theorem find_of_directory {engine : Pattern.Engine} {text : String} {c : Compiled}
    (hc : compile engine text = .ok c) (hready : c.errors = 0) (search : Search) {source : Source}
    {directory : Directory} (hdirectory : source.directory = .ok directory)
    (formats : List Format) (arrange : List PageRef → List PageRef) (cancelAfter : Option Nat) :
    ∃ last, (search.run source c.program arrange cancelAfter).statuses.getLast? = some last ∧
      last ≠ "" ∧
      (find engine text search source formats arrange cancelAfter).error?
        = (search.run source c.program arrange cancelAfter).error?.map CommandError.search ∧
      (find engine text search source formats arrange cancelAfter).report
        = (search.run source c.program arrange cancelAfter).report c.listing last := by
  obtain ⟨hsome, hstatuses⟩ :=
    statuses_of_directory search c.program cancelAfter hdirectory arrange
  obtain ⟨last, hlast⟩ : ∃ last,
      (search.run source c.program arrange cancelAfter).statuses.getLast? = some last :=
    ⟨_, List.getLast?_eq_some_getLast hsome⟩
  refine ⟨last, hlast, hstatuses last (List.mem_of_getLast? hlast), ?_⟩
  rw [find_of_no_errors hc hready]
  refine ⟨rfl, ?_⟩
  simp only [Reported.follow, foldl_follow]
  rw [Run.statuses] at hlast
  simp [hlast, Run.report, Report.list, Run.hits]

/-! ## Forms read back -/

/-- What is found in each form when a report was put out: the hits of a run in their order,
and its last status. -/
structure Outputs (c : Compiled) (run : Run) (last : String) (formats : List Format)
    (base action : String) (now : Moment) (put : Put) : Prop where
  /-- The data format is read from its file, unless a story has so many entries that the
  number of them has too many digits to be read, as that of no list in a memory has. -/
  json : .json ∈ formats → (∀ hit ∈ run.hits, Json.IsShort hit.storyCount.natAbs) →
    ∃ text, put.files.readText (Format.json.outputPath base action now) = .ok text ∧
      Json.parse text = .ok (.obj [("errors", .int 0), ("status", .str last),
        ("hits", .arr (run.hits.map Hit.toJson))])
  /-- The document has the status for its caption and the references of the hits for its
  results. -/
  html : .html ∈ formats → ∃ octets,
    put.files.readOctets (Format.html.outputPath base action now) = .ok octets ∧
      Text.Utf8.decode octets
        = .ok (document ("grep " ++ action) (panel c.listing last (run.hits.map Hit.reference)))
  /-- The console ends with the status; of each other form it is logged where it went. -/
  console : put.log = formats.map fun
    | .console => ⟨.info, last⟩
    | format => ⟨.info, format.title ++ " saved to " ++ (format.outputPath base action now).text⟩

theorem outputs_of_put {c : Compiled} {run : Run} {last : String} (hlast : last ≠ "")
    {formats : List Format} {base action : String} {now : Moment} {files : Files}
    (h : ((run.report c.listing last).put base action now files formats).error? = none) :
    Outputs c run last formats base action now
      ((run.report c.listing last).put base action now files formats) := by
  obtain ⟨hlog, hread⟩ := Report.put_of_no_error _ base action now formats h
  refine ⟨fun hjson hshort => ?_, fun hhtml => ?_, ?_⟩
  · have hoctets := hread .json _ rfl (.inl hjson)
    have hexact := isExact_toJson hshort c.listing last
    refine ⟨_, ?_, Json.parse_text 2 hexact⟩
    rw [Files.readText, hoctets]
    show (Text.readText _).mapError ReadError.encoding = _
    rw [Text.readText_encode (Json.return_not_mem_text 2 hexact)]
    rfl
  · exact ⟨_, hread .html _ rfl (.inl hhtml), Text.Utf8.decode_encode _⟩
  · rw [hlog, List.map_eq_flatMap]
    congr 1
    funext format
    cases format with
    | console =>
        show (run.report c.listing last).lastNotes = [⟨.info, last⟩]
        rw [Report.lastNotes]
        exact if_neg (by simpa using hlast)
    | json | html => rfl

/-! ## The command line -/

/-- The search of a command line, over the source of its settings.  Pages are looked up
among the files as they are when the program was listed in the log. -/
def Session.execute (session : Session) (around : Surroundings) (config : Config)
    (formats : List Format) (source : String) : Reported :=
  let listed :=
    match compile around.engine source with
    | .ok c => (Reported.list c config.searching formats).log
    | .error _ => []
  let store := (config.store config.search.source).source
    (session.writeAll around.now listed).files around.exchanges
  PageGrep.find around.engine source config.searching store formats id none

theorem Session.writeAll_append (session : Session) (now : Moment) (records others : List Record) :
    session.writeAll now (records ++ others) = (session.writeAll now records).writeAll now others :=
  List.foldl_append

/-- A command line that searches writes the log of the search, and then gives up or puts the
report out. -/
theorem Session.find_eq_execute (session : Session) (around : Surroundings) {config : Config}
    {formats : List Format} (hformats : config.reportFormats = .ok formats)
    (action source : String) :
    session.find around config action source
      = (session.proceed around.now (session.execute around config formats source) fun logged =>
          logged.putOut around.now (session.execute around config formats source).report
            config.output.baseDir action formats) := by
  cases hc : compile around.engine source with
  | error h => simp only [find, execute, PageGrep.find, hformats, hc, proceed]; rfl
  | ok c =>
      by_cases hready : c.errors = 0
      · obtain ⟨hreport, herror⟩ := list_of_no_errors hready config.searching formats
        simp only [find, execute, hformats, hc, find_of_no_errors hc hready, proceed, hreport,
          herror, writeAll_append]
      · have hsome := Nat.pos_of_ne_zero hready
        simp only [find, execute, hformats, hc, PageGrep.find_of_errors hc hsome,
          list_of_errors hsome, proceed]

theorem Session.logsOnly_find (session : Session) (around : Surroundings) {config : Config}
    (action source : String)
    (h : ∀ formats, config.reportFormats = .ok formats →
      (session.execute around config formats source).error? ≠ none) :
    LogsOnly session (session.find around config action source).1 ∧
      (session.find around config action source).2 = .aborted := by
  cases hformats : config.reportFormats with
  | error error =>
      simp only [find, hformats]
      exact ⟨session.logsOnly_abort around.now (.setup error), rfl⟩
  | ok formats =>
      obtain ⟨error, herror⟩ := Option.ne_none_iff_exists'.mp (h formats hformats)
      rw [session.find_eq_execute around hformats, proceed, herror]
      exact ⟨(session.logsOnly_writeAll around.now _).trans (logsOnly_abort _ around.now error),
        rfl⟩

/-- **Every form of a search tells the same.**  Over a source that can be listed, in
whatever order the pages come, an item and a report find the same hits, and what the report
leaves in each form tells these and the last status.  A command line whose search fails
writes no file but that of its log. -/
theorem outputs_agree :
    (∀ (engine : Pattern.Engine) (text : String) (c : Compiled) (search : Search)
      (source : Source) (directory : Directory) (formats : List Format)
      (arrange : List PageRef → List PageRef) (cancelAfter : Option Nat),
      compile engine text = .ok c → c.errors = 0 → 1 ≤ search.maxWorkers →
      source.directory = .ok directory →
      let run := search.run source c.program arrange cancelAfter
      let reported := find engine text search source formats arrange cancelAfter
      (∀ error, run.error? = some error → ∃ e, error = .pattern e) ∧
      (reported.error? = none ↔ run.error? = none) ∧
      (∀ item, Item.text item = .ok text →
        Item.find engine item search source arrange cancelAfter = .ok (run, true)) ∧
      ∃ last, run.statuses.getLast? = some last ∧ reported.report = run.report c.listing last ∧
        ∀ base action now files,
          (reported.report.put base action now files formats).error? = none →
          Outputs c run last formats base action now
            (reported.report.put base action now files formats)) ∧
    ∀ (session : Session) (around : Surroundings) (config : Config) (source : String),
      (∀ configured formats,
        session.configure config.log Command.search.name around.now = (configured, none) →
        config.reportFormats = .ok formats →
        (configured.execute around config formats source).error? ≠ none) →
      (session.run around config .search source).2.code ≠ 0 ∧
      ∀ place, config.log.toFile = false ∨
          ¬ Log.IsFileOf (session.run around config .search source).1.log.sinks place →
        ∀ bytes, (session.run around config .search source).1.files.at? place
            = some (.octets bytes) ↔
          session.files.at? place = some (.octets bytes) := by
  constructor
  · intro engine text c search source directory formats arrange cancelAfter hc hready hworkers
      hdirectory run reported
    obtain ⟨last, hlast, hsome, herror, hreport⟩ :=
      find_of_directory hc hready search hdirectory formats arrange cancelAfter
    refine ⟨fun error hfailed => ?_, ?_, fun item hitem => ?_, last, hlast, hreport,
      fun base action now files hput => ?_⟩
    · refine (Search.error_of_run hworkers hfailed).resolve_left ?_
      rintro ⟨e, hlisted, -⟩
      nomatch hdirectory.symm.trans hlisted
    · rw [herror, Option.map_eq_none_iff]
    · rw [find_of_text hc hitem, if_pos hready]
    · rw [hreport] at hput ⊢
      exact outputs_of_put hsome hput
  · intro session around config source hfails
    refine ⟨?_, fun place hplace bytes => ?_⟩
    · rw [Session.run]
      split
      · exact Nat.one_ne_zero
      · rename_i configured heq
        dsimp only
        rw [(configured.logsOnly_find around Command.search.name source
          fun formats => hfails configured formats heq).2]
        exact Nat.one_ne_zero
    · exact session.octets_of_run_search around config source (fun configured heq =>
        (configured.logsOnly_find around Command.search.name source
          fun formats => hfails configured formats heq).1) hplace bytes

/-- A title that spells a link's end, a quote and a line end is found and put out in every
form; a directory that is not there is not searched. -/
theorem outputs_agree_odd_title :
    let title := "a ]] \"<b>\"\r\n"
    let page : Json := .obj [("title", .str title),
      ("story", .arr [.obj [("type", .str "quote")]])]
    let source := Site.sourceOf (.ok (.arr [.obj [("slug", .str "a")]])) fun _ => .ok page
    let search : Search := {}
    let formats : List Format := [.console, .json, .html]
    let files : Files := ⟨["home"], []⟩
    let now : Moment := ⟨2024, 10, 17, 14, 2, 9⟩
    let reported := find .late "ITEM quote" search source formats id none
    let put := reported.report.put "out" "search" now files formats
    let around : Surroundings := ⟨.late, now, fun _ => []⟩
    let config : Config :=
      ⟨⟨.info, false, "log"⟩, ⟨"ITEM quote", .folder, 16, false⟩, ⟨none, .ofInt 30, some "pages"⟩,
        ⟨"out", [.json]⟩⟩
    put.error? = none ∧
    (∃ text, put.files.readText ⟨0, ["out", "json", "search_20241017_140209.json"]⟩ = .ok text ∧
      Json.parse text = .ok (.obj [("errors", .int 0),
        ("status", .str "found 1 pages of 1 checked"),
        ("hits", .arr [Hit.toJson ⟨"a", title, 1⟩])])) ∧
    put.log = [⟨.info, "found 1 pages of 1 checked"⟩,
      ⟨.info, "JSON saved to out/json/search_20241017_140209.json"⟩,
      ⟨.info, "HTML saved to out/html/search_20241017_140209.html"⟩] ∧
    ((Session.mk files {} "").run around config .search "ITEM quote").2.code ≠ 0 := by
  intro title page source search formats files now reported put around config
  have hput : put.error? = none := by decide +kernel
  obtain ⟨c, hc, hviews⟩ : ∃ c, compile .late "ITEM quote" = .ok c ∧
      (c.errors, (search.run source c.program id none).hits,
        (search.run source c.program id none).statuses.getLast?)
        = (0, [⟨"a", title, 1⟩], some "found 1 pages of 1 checked") :=
    exists_of_toOption_map (by decide +kernel)
  obtain ⟨hready, hviews⟩ := Prod.mk.inj hviews
  obtain ⟨hhits, hstatus⟩ := Prod.mk.inj hviews
  obtain ⟨hagree, hfails⟩ := outputs_agree
  obtain ⟨-, -, -, last, hlast, -, hall⟩ :=
    hagree _ _ c search source [.ok { slug := "a" }] formats id none hc hready (by decide) rfl
  obtain rfl : last = "found 1 pages of 1 checked" := Option.some.inj (hlast.symm.trans hstatus)
  have houtputs := hall "out" "search" now files hput
  have hshort : Json.IsShort (1 : Int).natAbs := by
    rw [Json.IsShort]
    decide
  have hjson := houtputs.json (by decide) (by simpa only [hhits, List.forall_mem_singleton])
  have hpath : Format.json.outputPath "out" "search" now
      = ⟨0, ["out", "json", "search_20241017_140209.json"]⟩ := by decide +kernel
  rw [hhits, hpath] at hjson
  refine ⟨hput, hjson, ?_, ?_⟩
  · rw [houtputs.console]
    decide +kernel
  · refine (hfails _ around config _ fun configured formats hconfigured hformats => ?_).1
    have herror : ((configured.execute around config formats "ITEM quote").error?).isSome
        = true := by
      rw [← (Prod.mk.inj hconfigured).1, ← Except.ok.inj hformats]
      decide +kernel
    exact Option.isSome_iff_ne_none.mp herror

end PageGrep
