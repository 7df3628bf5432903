/-
# Commands in a session

What a command logs is written to the sinks of the session's log and changes no other file
(`Session.LogsOnly`); setting the log up makes the log file and directories on the way to it
(`changedAt_configure`).

The arguments of a command line may reach a command with settings (`Session.Reaches`), and then
the whole line comes to what that command comes to, if the program text can be had
(`runLine_of_reaches`).  Where it can, the arguments start the command with that text
(`Session.Starts`).  Settings that were accepted name at least one form, so a report can be set up
(`reportFormats_of_reaches`).
-/
import PageGrep.Command.Line
import PageGrep.Proofs.Command.Setup
import PageGrep.Proofs.Config.Loaded
import PageGrep.Proofs.Files.Changes

namespace PageGrep

namespace Session

/-! ## What is logged -/

/-- Between two sessions something was logged and put on the console, and no file but those
of the log was written. -/
structure LogsOnly (before after : Session) : Prop where
  log : after.log = before.log
  files : Files.ChangedAt (Log.IsFileOf before.log.sinks) before.files after.files

theorem logsOnly_refl (session : Session) : LogsOnly session session :=
  ⟨rfl, Files.changedAt_refl session.files⟩

theorem LogsOnly.trans {a b c : Session} (h : LogsOnly a b) (h' : LogsOnly b c) :
    LogsOnly a c := by
  obtain ⟨hlog, hfiles⟩ := h'
  rw [h.log] at hlog hfiles
  exact ⟨hlog, h.files.trans hfiles⟩

theorem logsOnly_write (session : Session) (now : Moment) (record : Record) :
    LogsOnly session (session.write now record) :=
  ⟨rfl, Log.changedAt_write session.log session.files now record.level.number record.message⟩

theorem logsOnly_writeAll (session : Session) (now : Moment) (records : List Record) :
    LogsOnly session (session.writeAll now records) := by
  induction records generalizing session with
  | nil => exact logsOnly_refl session
  | cons record records ih => exact (logsOnly_write session now record).trans (ih _)

theorem logsOnly_abort (session : Session) (now : Moment) (error : CommandError) :
    LogsOnly session (session.abort now error).1 :=
  ⟨rfl, (logsOnly_write session now (failure error)).files⟩

theorem changedAt_configure (session : Session) (settings : LogSettings) (action : String)
    (now : Moment) :
    Files.ChangedAt (Log.IsFileOf (session.configure settings action now).1.log.sinks)
      session.files (session.configure settings action now).1.files :=
  Log.changedAt_configure session.log session.files settings.level.name action settings.toFile
    settings.dir now

theorem configure_of_not_toFile (session : Session) (settings : LogSettings) (action : String)
    (now : Moment) (h : settings.toFile = false) :
    (session.configure settings action now).2 = none ∧
      (session.configure settings action now).1.files = session.files ∧
      ∀ place, ¬ Log.IsFileOf (session.configure settings action now).1.log.sinks place := by
  rw [configure, h, Log.configure_of_not_toFile]
  exact ⟨rfl, rfl, fun place => by simp [Log.IsFileOf]⟩

theorem octets_of_run_search (session : Session) (around : Surroundings) (config : Config)
    (source : String)
    (hlogs : ∀ configured,
      session.configure config.log Command.search.name around.now = (configured, none) →
      LogsOnly configured (configured.find around config Command.search.name source).1)
    {place : Place}
    (hplace : config.log.toFile = false ∨
      ¬ Log.IsFileOf (session.run around config .search source).1.log.sinks place)
    (bytes : List UInt8) :
    (session.run around config .search source).1.files.at? place = some (.octets bytes) ↔
      session.files.at? place = some (.octets bytes) := by
  have hconfigured := session.changedAt_configure config.log Command.search.name around.now
  have hnone := session.configure_of_not_toFile config.log Command.search.name around.now
  rw [run] at hplace ⊢
  cases hconfigure : session.configure config.log Command.search.name around.now with
  | mk configured error? =>
      rw [hconfigure] at hconfigured hnone hplace
      cases error? with
      | some error =>
          exact hconfigured.octets place (hplace.elim (fun h => (hnone h).2.2 place) id) bytes
      | none =>
          have hfind := hlogs configured hconfigure
          dsimp only at hplace ⊢
          rw [hfind.log] at hplace
          exact (hconfigured.trans hfind.files).octets place
            (hplace.elim (fun h => (hnone h).2.2 place) id) bytes

/-! ## Commands of a line -/

/-- Arguments reach a command under settings, with a file for its program if they name one. -/
def Reaches (session : Session) (arguments : List String) (config : Config) (command : Command)
    (path? : Option String) : Prop :=
  ∃ given rest own, Given.read? "--config" false arguments = some given ∧ given.help = false ∧
    given.words = command.name :: rest ∧
    session.files.admits false (given.value?.getD Config.defaultPath.text) = .ok true ∧
    Config.loadOver session.files Config.defaultPath
      (Path.ofText (given.value?.getD Config.defaultPath.text)) = .ok config ∧
    Given.read? "--program" true rest = some own ∧ own.help = false ∧ own.words = [] ∧
    own.value? = path? ∧ ∀ path ∈ path?, session.files.admits true path = .ok true

/-- Arguments start a command under settings with a program text. -/
def Starts (session : Session) (arguments : List String) (config : Config) (command : Command)
    (source : String) : Prop :=
  ∃ given rest own, Given.read? "--config" false arguments = some given ∧ given.help = false ∧
    given.words = command.name :: rest ∧
    session.files.admits false (given.value?.getD Config.defaultPath.text) = .ok true ∧
    Config.loadOver session.files Config.defaultPath
      (Path.ofText (given.value?.getD Config.defaultPath.text)) = .ok config ∧
    Given.read? "--program" true rest = some own ∧ own.help = false ∧ own.words = [] ∧
    (∀ path ∈ own.value?, session.files.admits true path = .ok true) ∧
    session.programText config own.value? = .ok source

section Reaches

variable {session : Session} {arguments : List String} {config : Config} {command : Command}
  {path? : Option String}

theorem isLoaded_of_reaches (h : session.Reaches arguments config command path?) :
    config.IsLoaded := by
  obtain ⟨_, _, _, -, -, -, -, hload, -⟩ := h
  exact .ofFiles hload

theorem reportFormats_of_reaches (h : session.Reaches arguments config command path?) :
    ∃ formats, config.reportFormats = .ok formats :=
  ⟨_, Config.reportFormats_eq (isLoaded_of_reaches h).formats_ne_nil⟩

theorem runLine_of_reaches (around : Surroundings)
    (h : session.Reaches arguments config command path?) :
    session.runLine around arguments
      = match session.programText config path? with
        | .error error => (session, .escaped (.read error))
        | .ok source => session.run around config command source := by
  obtain ⟨given, rest, own, hgiven, hhelp, hwords, hadmits, hload, hown, hownHelp, hownWords,
    rfl, hpath⟩ := h
  have hsome : arguments ≠ [] := by
    rintro rfl
    cases hgiven
    nomatch hwords
  have hname : Command.ofName? command.name = some command := by cases command <;> decide
  have hfile : (own.value?.map (session.files.admits true)).getD (.ok true) = .ok true := by
    cases hvalue : own.value? with
    | none => rfl
    | some path => exact hpath path hvalue
  obtain ⟨argument, others, rfl⟩ := List.exists_cons_of_ne_nil hsome
  simp only [runLine, hgiven, hhelp, hadmits, hwords, hname, hload, runWith, hown, hownHelp, hfile,
    hownWords]
  rfl

theorem exists_reaches_of_starts {source : String}
    (h : session.Starts arguments config command source) :
    ∃ path?, session.Reaches arguments config command path? ∧
      session.programText config path? = .ok source := by
  obtain ⟨given, rest, own, hgiven, hhelp, hwords, hadmits, hload, hown, hownHelp, hownWords,
    hpath, hsource⟩ := h
  exact ⟨own.value?, ⟨given, rest, own, hgiven, hhelp, hwords, hadmits, hload, hown, hownHelp,
    hownWords, rfl, hpath⟩, hsource⟩

theorem reportFormats_of_starts {source : String}
    (h : session.Starts arguments config command source) :
    ∃ formats, config.reportFormats = .ok formats := by
  obtain ⟨_, hreaches, -⟩ := exists_reaches_of_starts h
  exact reportFormats_of_reaches hreaches

theorem runLine_eq_run {source : String} (around : Surroundings)
    (h : session.Starts arguments config command source) :
    session.runLine around arguments = session.run around config command source := by
  obtain ⟨path?, hreaches, hsource⟩ := exists_reaches_of_starts h
  rw [runLine_of_reaches around hreaches, hsource]

end Reaches

end Session

end PageGrep
