/-
# Whether a program may run

A program may run if none of its lines is faulty.  There are five ways to a compiled
program: it is checked, an item shows it, an item searches for it, it is searched for with a
report, and the command line checks it or searches for it.  Each compiles the text on its
own and decides on its own, and all decide alike (`Gated`).

Where a line is faulty nothing is looked at and nothing comes of it.  What comes of the text
is the same over any source, whatever that lists or holds, so no page was listed or fetched;
no status and no hit is shown; and the command line writes its log, gives up, and leaves all
other files as they are (`Session.refused`).
-/
import PageGrep.Host.Item
import PageGrep.Proofs.Command.Session
import PageGrep.Proofs.Report.Panel

namespace PageGrep

/-! ## Captions and problems -/

theorem caption_eq_ready_iff (errors : Nat) : Compiled.caption errors = "ready" ↔ errors = 0 := by
  rw [Compiled.caption]
  split
  · rename_i hzero
    exact ⟨fun _ => Int.ofNat_eq_zero.mp hzero, fun _ => rfl⟩
  · rename_i hsome
    refine ⟨fun heq => ?_, fun hzero => absurd (congrArg Int.ofNat hzero) hsome⟩
    have hlast := congrArg (fun text => text.toList.getLast?) heq
    simp at hlast

theorem filter_error_log (c : Compiled) :
    (c.problemNotes ++ [c.summaryNote]).filter (·.level == .error)
      = c.problems.map Problem.note := by
  have hnotes : c.problemNotes.filter (·.level == .error) = c.problemNotes := by
    rw [List.filter_eq_self]
    intro record hrecord
    obtain ⟨_, -, rfl⟩ := List.mem_map.mp hrecord
    rfl
  rw [List.filter_append, hnotes]
  exact List.append_nil _

/-! ## The command line -/

/-- What the command line comes to when it searches for a program with faulty lines: the log
tells them, and the command is given up. -/
def Session.refused (session : Session) (now : Moment) (formats : List Format) (c : Compiled) :
    Session × Ending :=
  (session.writeAll now (Report.told formats (Report.listingNote c.errors) ++ c.problemNotes)).abort
    now (.program c.errors)

section Find

variable {engine : Pattern.Engine} {source : String} {c : Compiled}

theorem list_of_errors (h : 0 < c.errors) (search : Search) (formats : List Format) :
    Reported.list c search formats
      = { report := ({} : Report).list c.listing c.errors
          log := Report.told formats (Report.listingNote c.errors) ++ c.problemNotes
          error? := some (.program c.errors) } := by
  have hsome : ¬ (c.errors == 0) = true := by simpa using Nat.ne_of_gt h
  rw [Reported.list]
  exact if_neg hsome

theorem find_of_errors (hc : compile engine source = .ok c) (h : 0 < c.errors) (search : Search)
    (store : Source) (formats : List Format) (arrange : List PageRef → List PageRef)
    (cancelAfter : Option Nat) :
    find engine source search store formats arrange cancelAfter
      = Reported.list c search formats := by
  simp only [find, hc, list_of_errors h]

theorem Session.find_of_errors {around : Surroundings} (hc : compile around.engine source = .ok c)
    (h : 0 < c.errors) (session : Session) {config : Config} {formats : List Format}
    (hformats : config.reportFormats = .ok formats) (action : String) :
    session.find around config action source = session.refused around.now formats c := by
  simp only [find, hformats, hc, list_of_errors h, proceed]
  rfl

theorem Session.logsOnly_refused (session : Session) (now : Moment) (formats : List Format)
    (c : Compiled) : LogsOnly session (session.refused now formats c).1 :=
  (logsOnly_writeAll session now _).trans (logsOnly_abort _ now _)

theorem list_of_no_errors (h : c.errors = 0) (search : Search) (formats : List Format) :
    (Reported.list c search formats).report = ({} : Report).list c.listing 0 ∧
      (Reported.list c search formats).error? = none := by
  simp [Reported.list, h]

theorem find_of_no_errors (hc : compile engine source = .ok c) (h : c.errors = 0) (search : Search)
    (store : Source) (formats : List Format) (arrange : List PageRef → List PageRef)
    (cancelAfter : Option Nat) :
    find engine source search store formats arrange cancelAfter
      = let followed := Reported.follow (({} : Report).list c.listing 0) formats
          (search.run store c.program arrange cancelAfter)
        { followed with log := (Reported.list c search formats).log ++ followed.log } := by
  obtain ⟨hreport, herror⟩ := list_of_no_errors h search formats
  simp only [find, hc, herror, hreport]

end Find

/-! ## All ways in -/

/-- How a text is treated that was compiled: it may run if no line is faulty. -/
structure Gated (engine : Pattern.Engine) (source : String) (c : Compiled) : Prop where
  /-- A check logs an error for each problem, in the order of the lines, and counts them. -/
  checked : ∃ checked, check engine source = .ok checked ∧ checked.errors = c.errors ∧
    checked.log.filter (·.level == .error) = c.problems.map Problem.note ∧
    c.problems.length = c.errors ∧ c.problems.Pairwise fun p q => p.number < q.number
  /-- An item shows that its program is ready, or how many lines are faulty. -/
  shown : ∀ item, Item.text item = .ok source →
    (Item.panel engine item = .ok (panel c.listing "ready" []) ↔ c.errors = 0) ∧
    (c.errors ≠ 0 →
      Item.panel engine item = .ok (panel c.listing (toString c.errors ++ " errors") []))
  /-- An item returns without a search just if a line is faulty. -/
  asked : ∀ item, Item.text item = .ok source → ∀ search store arrange cancelAfter,
    ∃ run started, Item.find engine item search store arrange cancelAfter = .ok (run, started) ∧
      (run.error? = none ∧ started = false ↔ 0 < c.errors) ∧
      (0 < c.errors → run.statuses = [] ∧ run.hits = [] ∧
        ∀ store' arrange' cancelAfter',
          Item.find engine item search store' arrange' cancelAfter' = .ok (run, started))
  /-- The command fails on its program just if a line is faulty. -/
  commanded : ∀ search store formats arrange cancelAfter,
    ((∃ errors, (find engine source search store formats arrange cancelAfter).error?
        = some (.program errors)) ↔ 0 < c.errors) ∧
    (0 < c.errors → ∃ reported,
      (∀ store' arrange' cancelAfter',
        find engine source search store' formats arrange' cancelAfter' = reported) ∧
      reported.error? = some (.program c.errors) ∧ reported.report.status? = none ∧
      reported.report.hits = [] ∧
      reported.log = Report.told formats (Report.listingNote c.errors) ++ c.problemNotes)
  /-- Without a log file, the command line checks with an exit code other than zero just if
  a line is faulty. -/
  lineChecks : ∀ (session : Session) (around : Surroundings) (arguments : List String)
    (config : Config),
    around.engine = engine → session.Starts arguments config .check source →
    config.log.toFile = false →
    ((session.runLine around arguments).2.code ≠ 0 ↔ 0 < c.errors)
  /-- Where a line is faulty, the command line searches with an exit code other than zero.
  It sets the log up and tells the problems there, whatever servers would answer, and no
  file is written but that of the log. -/
  lineSearches : ∀ (session : Session) (around : Surroundings) (arguments : List String)
    (config : Config),
    around.engine = engine → session.Starts arguments config .search source → 0 < c.errors →
    (session.runLine around arguments).2.code ≠ 0 ∧
    (∃ formats, config.reportFormats = .ok formats ∧ ∀ exchanges,
      session.runLine { around with exchanges := exchanges } arguments
        = match session.configure config.log Command.search.name around.now with
          | (session, some error) => (session, .escaped (.file error))
          | (session, none) => session.refused around.now formats c) ∧
    ∀ place, config.log.toFile = false ∨
        ¬ Log.IsFileOf (session.runLine around arguments).1.log.sinks place →
      ∀ bytes, (session.runLine around arguments).1.files.at? place = some (.octets bytes) ↔
        session.files.at? place = some (.octets bytes)

section Gated

variable {engine : Pattern.Engine} {source : String} {c : Compiled}

theorem checked_of_compile (hc : compile engine source = .ok c) :
    ∃ checked, check engine source = .ok checked ∧ checked.errors = c.errors ∧
      checked.log.filter (·.level == .error) = c.problems.map Problem.note ∧
      c.problems.length = c.errors ∧ c.problems.Pairwise fun p q => p.number < q.number := by
  refine ⟨⟨c.problemNotes ++ [c.summaryNote], c.errors⟩, ?_, rfl, filter_error_log c, rfl,
    Compiled.pairwise_number_problems c⟩
  rw [check, hc]
  rfl

theorem compiled_of_text {item : Json} (hc : compile engine source = .ok c)
    (h : Item.text item = .ok source) : Item.compiled engine item = .ok c := by
  rw [Item.compiled, h]
  show (compile engine source).mapError ItemError.halt = .ok c
  rw [hc]
  rfl

theorem panel_of_text {item : Json} (hc : compile engine source = .ok c)
    (h : Item.text item = .ok source) :
    Item.panel engine item = .ok (panel c.listing (Compiled.caption c.errors) []) := by
  rw [Item.panel, compiled_of_text hc h]
  rfl

theorem find_of_text {item : Json} (hc : compile engine source = .ok c)
    (h : Item.text item = .ok source) (search : Search) (store : Source)
    (arrange : List PageRef → List PageRef) (cancelAfter : Option Nat) :
    Item.find engine item search store arrange cancelAfter
      = .ok (if c.errors = 0 then (search.run store c.program arrange cancelAfter, true)
          else ({ events := [.log (Item.refusal c.errors)] }, false)) := by
  rw [Item.find, compiled_of_text hc h]
  by_cases hzero : c.errors = 0 <;> simp [Except.map, hzero]

theorem run_check_code {around : Surroundings} (hc : compile around.engine source = .ok c)
    (session : Session) {config : Config} (h : config.log.toFile = false) :
    (session.run around config .check source).2.code = if c.errors = 0 then 0 else 1 := by
  have hconfigured := (session.configure_of_not_toFile config.log Command.check.name around.now h).1
  rw [Session.run]
  cases hconfigure : session.configure config.log Command.check.name around.now with
  | mk configured error? =>
      rw [hconfigure] at hconfigured
      obtain rfl : error? = none := hconfigured
      simp only [Session.check, check, hc, Except.map]
      by_cases hzero : c.errors = 0 <;> simp [hzero, Ending.code]

theorem run_search_of_errors (around : Surroundings) (hc : compile around.engine source = .ok c)
    (h : 0 < c.errors) (session : Session) {config : Config} {formats : List Format}
    (hformats : config.reportFormats = .ok formats) :
    session.run around config .search source
      = match session.configure config.log Command.search.name around.now with
        | (session, some error) => (session, .escaped (.file error))
        | (session, none) => session.refused around.now formats c := by
  rw [Session.run]
  cases session.configure config.log Command.search.name around.now with
  | mk configured error? =>
      cases error? with
      | some error => rfl
      | none => exact configured.find_of_errors hc h hformats Command.search.name

end Gated

/-- **Every way in decides alike whether a program may run.** -/
theorem gated_of_compile {engine : Pattern.Engine} {source : String} {c : Compiled}
    (hc : compile engine source = .ok c) : Gated engine source c where
  checked := checked_of_compile hc
  shown item hitem := by
    rw [panel_of_text hc hitem, Except.ok.injEq]
    refine ⟨⟨fun heq => (caption_eq_ready_iff _).mp (status_eq_of_panel_eq heq), fun hzero => ?_⟩,
      fun hsome => ?_⟩
    · rw [(caption_eq_ready_iff _).mpr hzero]
    · rw [Compiled.caption, if_neg (by simpa using hsome)]
      rfl
  asked item hitem search store arrange cancelAfter := by
    rw [find_of_text hc hitem]
    by_cases hzero : c.errors = 0
    · rw [if_pos hzero]
      exact ⟨_, _, rfl, by simp [hzero], fun hsome => by omega⟩
    · rw [if_neg hzero]
      refine ⟨_, _, rfl, by simp [Nat.pos_of_ne_zero hzero], fun _ => ⟨rfl, rfl, ?_⟩⟩
      intro store' arrange' cancelAfter'
      rw [find_of_text hc hitem, if_neg hzero]
  commanded search store formats arrange cancelAfter := by
    by_cases hzero : c.errors = 0
    · refine ⟨?_, fun hsome => absurd hzero (Nat.ne_of_gt hsome)⟩
      rw [find_of_no_errors hc hzero]
      cases hrun : (search.run store c.program arrange cancelAfter).error? <;>
        simp [Reported.follow, hrun, hzero]
    · have hsome := Nat.pos_of_ne_zero hzero
      have hfind := fun store' arrange' cancelAfter' =>
        (find_of_errors hc hsome search store' formats arrange' cancelAfter').trans
          (list_of_errors hsome search formats)
      rw [hfind]
      exact ⟨⟨fun _ => hsome, fun _ => ⟨_, rfl⟩⟩, fun _ => ⟨_, hfind, rfl, rfl, rfl, rfl⟩⟩
  lineChecks session around arguments config hengine hstarts hfile := by
    subst hengine
    rw [session.runLine_eq_run around hstarts, run_check_code hc session hfile]
    by_cases hzero : c.errors = 0 <;> simp [hzero, Nat.pos_iff_ne_zero]
  lineSearches session around arguments config hengine hstarts hsome := by
    subst hengine
    obtain ⟨formats, hformats⟩ := Session.reportFormats_of_starts hstarts
    have hrun (exchanges : String → List Exchange) :
        session.runLine { around with exchanges := exchanges } arguments = _ :=
      (session.runLine_eq_run _ hstarts).trans
        (run_search_of_errors { around with exchanges := exchanges } hc hsome session hformats)
    refine ⟨?_, ⟨formats, hformats, hrun⟩, ?_⟩
    · rw [hrun around.exchanges]
      split
      · exact Nat.one_ne_zero
      · exact Nat.one_ne_zero
    · intro place hplace bytes
      rw [session.runLine_eq_run around hstarts] at hplace ⊢
      refine session.octets_of_run_search around config source (fun configured _ => ?_) hplace bytes
      rw [configured.find_of_errors hc hsome hformats]
      exact configured.logsOnly_refused around.now formats c

/-- Two faulty lines in the settings of a command line and in an item. -/
theorem gated_of_compile_two_faults :
    let source := "ITEM Quote\n\nTEXT ("
    let item : Json := .obj [("type", .str itemName), ("text", .str source)]
    let settings := "search: \x7bprogram: \"ITEM Quote\\n\\nTEXT (\", source: local\x7d\n"
      ++ "local: \x7bpages_dir: pages\x7d"
    let session : Session :=
      { files := ⟨["home"], [(["home", "s.yml"], .octets (Text.Utf8.encode settings))]⟩ }
    let config : Config :=
      ⟨⟨.info, false, "log"⟩, ⟨source, .folder, 16, false⟩, ⟨none, .ofInt 30, some "pages"⟩,
        ⟨"output", [.console]⟩⟩
    ∃ c, compile .late source = .ok c ∧ c.errors = 2 ∧ Item.text item = .ok source ∧
      session.Starts ["--config=s.yml", "check"] config .check source ∧
      session.Starts ["--config=s.yml", "search"] config .search source ∧
      Item.panel .late item = .ok (panel c.listing "2 errors" []) ∧
      ∀ now exchanges,
        (session.runLine ⟨.late, now, exchanges⟩ ["--config=s.yml", "check"]).2.code ≠ 0 ∧
        (session.runLine ⟨.late, now, exchanges⟩ ["--config=s.yml", "search"]).2.code ≠ 0 := by
  intro source item settings session config
  have hload : Config.loadOver session.files Config.defaultPath (Path.ofText "s.yml")
      = .ok config := eq_ok_of_toOption (by decide +kernel)
  have hadmits : session.files.admits false "s.yml" = .ok true :=
    eq_ok_of_toOption (by decide +kernel)
  have hstarts (command : Command) :
      session.Starts ["--config=s.yml", command.name] config command source := by
    have hgiven : Given.read? "--config" false ["--config=s.yml", command.name]
        = some { value? := some "s.yml", words := [command.name] } := by
      cases command <;> decide +kernel
    exact ⟨_, [], {}, hgiven, rfl, rfl, hadmits, hload, rfl, rfl, rfl, nofun, rfl⟩
  have hitem : Item.text item = .ok source := eq_ok_of_toOption (by decide +kernel)
  obtain ⟨c, hc, herrors⟩ : ∃ c, compile .late source = .ok c ∧ c.errors = 2 :=
    exists_of_toOption_map (by decide +kernel)
  have hsome : 0 < c.errors := by omega
  have hgated := gated_of_compile hc
  have hpanel := (hgated.shown item hitem).2 (by omega)
  rw [herrors] at hpanel
  refine ⟨c, hc, herrors, hitem, hstarts .check, hstarts .search, hpanel,
    fun now exchanges => ?_⟩
  exact ⟨(hgated.lineChecks session ⟨.late, now, exchanges⟩ _ config rfl (hstarts .check) rfl).mpr
      hsome,
    (hgated.lineSearches session ⟨.late, now, exchanges⟩ _ config rfl (hstarts .search) hsome).1⟩

end PageGrep
