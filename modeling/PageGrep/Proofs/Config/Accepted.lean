/-
# Settings that are accepted

Settings are read off a mapping and then checked, each in many steps of which any may refuse.
What is known of settings that got through is said here once for each of the two: every
setting is the one that the mapping states in its section, or the default
(`isOf_of_ofMapping`), and it passes every check (`passes_of_check`).  What the settings are
used for needs no more of either, and not the order of the steps.

A mapping may lack a section, or have null for it, and states nothing in it then
(`Mapping.setting`).
-/
import PageGrep.Config.Reading
import PageGrep.Proofs.Except

namespace PageGrep

/-! ## Settings as a mapping states them -/

/-- The value that a mapping states under a key of a section, or the one it has by default. -/
def Mapping.setting (m : Mapping) (name key : String) (default : Value) : Value :=
  match m.named? name with
  | some (.map pairs) => Setting.stated key default pairs
  | _ => default

namespace Setting

variable {key : String} {value : Value}

theorem stated_of_sectionOf {name : String} {default : Value} {m pairs : Mapping}
    (h : sectionOf name m = .ok pairs) :
    stated key default pairs = m.setting name key default := by
  rw [sectionOf] at h
  rw [Mapping.setting]
  split at h
  · rename_i hnone
    cases h
    rw [hnone]
    rfl
  · rename_i hnull
    cases h
    rw [hnull]
    rfl
  · rename_i hpairs
    cases h
    rw [hpairs]
  · nomatch h

theorem sectionOf_of_requiredSection {name : String} {m pairs : Mapping}
    (h : requiredSection name m = .ok pairs) : sectionOf name m = .ok pairs := by
  rw [requiredSection] at h
  split at h
  · nomatch h
  · nomatch h
  · exact h

theorem named?_of_requiredSection {name : String} {m pairs : Mapping}
    (h : requiredSection name m = .ok pairs) : m.named? name = some (.map pairs) := by
  have hsection := sectionOf_of_requiredSection h
  rw [requiredSection] at h
  split at h
  · nomatch h
  · nomatch h
  · rename_i hnone hnull
    rw [sectionOf] at hsection
    split at hsection
    · rename_i hnamed
      exact absurd hnamed hnone
    · rename_i hnamed
      exact absurd hnamed hnull
    · rename_i hnamed
      cases hsection
      exact hnamed
    · nomatch hsection

theorem eq_map_of_sectionOf {name : String} {m pairs : Mapping} {v : Value}
    (h : sectionOf name m = .ok pairs) (hv : m.named? name = some v) :
    v = .null ∨ ∃ pairs, v = .map pairs := by
  rw [sectionOf, hv] at h
  split at h
  · rename_i hnone
    nomatch hnone
  · rename_i hnull
    exact .inl (Option.some.inj hnull)
  · rename_i hmap
    exact .inr ⟨_, Option.some.inj hmap⟩
  · nomatch h

theorem eq_of_string {s : String} (h : string key value = .ok s) : value = .str s := by
  cases value with
  | str _ => exact congrArg Value.str (Except.ok.inj h)
  | _ => nomatch h

theorem eq_of_string? {s? : Option String} (h : string? key value = .ok s?) :
    value = (s?.map Value.str).getD .null := by
  cases value with
  | null =>
      cases h
      rfl
  | str s =>
      cases h
      rfl
  | _ => nomatch h

theorem eq_of_boolean {b : Bool} (h : boolean key value = .ok b) : value = .bool b := by
  cases value with
  | bool _ => exact congrArg Value.bool (Except.ok.inj h)
  | _ => nomatch h

theorem eq_of_integer {i : Int} (h : integer key value = .ok i) : value = .int i := by
  cases value with
  | int _ => exact congrArg Value.int (Except.ok.inj h)
  | _ => nomatch h

theorem eq_of_stringsFrom {index : Nat} {values : List Value} {texts : List String}
    (h : stringsFrom key index values = .ok texts) : values = texts.map .str := by
  induction values generalizing index texts with
  | nil =>
      cases h
      rfl
  | cons value values ih =>
      obtain ⟨s, hs, h⟩ := bind_eq_ok_iff.mp h
      obtain ⟨rest, hrest, h⟩ := bind_eq_ok_iff.mp h
      cases h
      rw [eq_of_string hs, ih hrest, List.map_cons]

theorem eq_of_strings {texts : List String} (h : strings key value = .ok texts) :
    value = .list (texts.map .str) := by
  cases value with
  | list items => exact congrArg Value.list (eq_of_stringsFrom h)
  | _ => nomatch h

end Setting

def Setting.sections : List String := ["log", "search", "wiki", "local", "output"]

/-- Unchecked settings are those that a mapping states, the names of the level, the source and
the forms in one case. -/
structure Draft.IsOf (m : Mapping) (d : Draft) : Prop where
  search : ∃ pairs, m.named? "search" = some (.map pairs)
  objects : ∀ name ∈ Setting.sections, ∀ v, m.named? name = some v →
    v = .null ∨ ∃ pairs, v = .map pairs
  level : ∃ text, m.setting "log" "level" (.str "INFO") = .str text ∧
    d.level = Text.upperText text
  toFile : m.setting "log" "to_file" (.bool false) = .bool d.toFile
  logDir : m.setting "log" "dir" (.str "log") = .str d.logDir
  program : m.setting "search" "program" (.str "") = .str d.program
  source : ∃ text, m.setting "search" "source" (.str "wiki") = .str text ∧
    d.source = Text.lowerText (Text.trim text)
  maxWorkers : m.setting "search" "max_workers" (.int 16) = .int d.maxWorkers
  chained : m.setting "search" "chain_steps" (.bool false) = .bool d.chained
  site : m.setting "wiki" "site" .null = (d.site.map Value.str).getD .null
  timeout : Setting.number "wiki.timeout" (m.setting "wiki" "timeout" (.int 30)) = .ok d.timeout
  pagesDir : m.setting "local" "pages_dir" .null = (d.pagesDir.map Value.str).getD .null
  formats : ∃ texts : List String, m.setting "output" "formats" (.list [.str "console"])
      = .list (texts.map .str) ∧ d.formats = texts.map Text.lowerText
  baseDir : m.setting "output" "base_dir" (.str "output") = .str d.baseDir

open Setting in
theorem isOf_of_ofMapping {m : Mapping} {d : Draft} (h : Draft.ofMapping m = .ok d) :
    d.IsOf m := by
  rw [Draft.ofMapping] at h
  obtain ⟨log, hlog, h⟩ := bind_eq_ok_iff.mp h
  obtain ⟨level, hlevel, h⟩ := bind_eq_ok_iff.mp h
  obtain ⟨toFile, htoFile, h⟩ := bind_eq_ok_iff.mp h
  obtain ⟨logDir, hlogDir, h⟩ := bind_eq_ok_iff.mp h
  obtain ⟨search, hsearch, h⟩ := bind_eq_ok_iff.mp h
  obtain ⟨program, hprogram, h⟩ := bind_eq_ok_iff.mp h
  obtain ⟨source, hsource, h⟩ := bind_eq_ok_iff.mp h
  obtain ⟨maxWorkers, hmaxWorkers, h⟩ := bind_eq_ok_iff.mp h
  obtain ⟨chained, hchained, h⟩ := bind_eq_ok_iff.mp h
  obtain ⟨wiki, hwiki, h⟩ := bind_eq_ok_iff.mp h
  obtain ⟨folder, hfolder, h⟩ := bind_eq_ok_iff.mp h
  obtain ⟨site, hsite, h⟩ := bind_eq_ok_iff.mp h
  obtain ⟨timeout, htimeout, h⟩ := bind_eq_ok_iff.mp h
  obtain ⟨pagesDir, hpagesDir, h⟩ := bind_eq_ok_iff.mp h
  obtain ⟨output, houtput, h⟩ := bind_eq_ok_iff.mp h
  obtain ⟨formats, hformats, h⟩ := bind_eq_ok_iff.mp h
  obtain ⟨baseDir, hbaseDir, h⟩ := bind_eq_ok_iff.mp h
  cases h
  have hsome := named?_of_requiredSection hsearch
  have hsearch := sectionOf_of_requiredSection hsearch
  have hobjects : ∀ name ∈ sections, ∃ pairs, sectionOf name m = .ok pairs := by
    simp [sections, hlog, hsearch, hwiki, hfolder, houtput]
  exact
    { search := ⟨search, hsome⟩
      objects := fun name hname _ hv => eq_map_of_sectionOf (hobjects name hname).choose_spec hv
      level := ⟨level, stated_of_sectionOf hlog ▸ eq_of_string hlevel, rfl⟩
      toFile := stated_of_sectionOf hlog ▸ eq_of_boolean htoFile
      logDir := stated_of_sectionOf hlog ▸ eq_of_string hlogDir
      program := stated_of_sectionOf hsearch ▸ eq_of_string hprogram
      source := ⟨source, stated_of_sectionOf hsearch ▸ eq_of_string hsource, rfl⟩
      maxWorkers := stated_of_sectionOf hsearch ▸ eq_of_integer hmaxWorkers
      chained := stated_of_sectionOf hsearch ▸ eq_of_boolean hchained
      site := stated_of_sectionOf hwiki ▸ eq_of_string? hsite
      timeout := stated_of_sectionOf hwiki ▸ htimeout
      pagesDir := stated_of_sectionOf hfolder ▸ eq_of_string? hpagesDir
      formats := ⟨formats, stated_of_sectionOf houtput ▸ eq_of_strings hformats, rfl⟩
      baseDir := stated_of_sectionOf houtput ▸ eq_of_string hbaseDir }

/-! ## Settings that pass the checks -/

theorem name_of_find? {α : Type} {name : α → String} {all : List α} {sought : String} {x : α}
    (h : all.find? (name · == sought) = some x) : name x = sought :=
  beq_iff_eq.mp (List.find?_some (p := (name · == sought)) h)

theorem names_of_formatsOf {names : List String} {formats : List Format}
    (h : formatsOf names = .ok formats) : formats.map Format.name = names := by
  induction names generalizing formats with
  | nil =>
      cases h
      rfl
  | cons name names ih =>
      rw [formatsOf] at h
      split at h
      · rename_i f hf
        obtain ⟨rest, hrest, h⟩ := bind_eq_ok_iff.mp h
        cases h
        rw [List.map_cons, ih hrest, name_of_find? hf]
      · nomatch h

theorem isBlankText_of_notBlank {key s : String} {u : Unit} (h : notBlank key s = .ok u) :
    Text.isBlankText s = false := by
  rw [notBlank] at h
  split at h
  · nomatch h
  · rename_i hblank
    exact Bool.eq_false_iff.mpr hblank

theorem isBlankText_of_checkSource {d : Draft} {source : SourceName}
    (h : checkSource d source = .ok ()) :
    Text.isBlankText ((match source with | .wiki => d.site | .folder => d.pagesDir).getD "")
      = false := by
  cases source with
  | wiki | folder =>
      rw [checkSource] at h
      split at h
      · nomatch h
      · rename_i hblank
        exact Bool.eq_false_iff.mpr hblank

/-- Settings keep what was read and name a level, a source and forms that there are; every
other check is passed too. -/
structure Draft.Passes (d : Draft) (config : Config) : Prop where
  log : config.log = ⟨config.log.level, d.toFile, d.logDir⟩
  search : config.search = ⟨d.program, config.search.source, d.maxWorkers, d.chained⟩
  sources : config.sources = ⟨d.site, d.timeout, d.pagesDir⟩
  output : config.output = ⟨d.baseDir, config.output.formats⟩
  level : config.log.level.name = d.level
  logDir : Text.isBlankText d.logDir = false
  source : config.search.source.name = d.source
  maxWorkers : 0 < d.maxWorkers
  timeout : d.timeout.atMostZero = false
  someFormat : d.formats ≠ []
  formats : config.output.formats.map Format.name = d.formats
  baseDir : Text.isBlankText d.baseDir = false
  needs : checkSource d config.search.source = .ok ()

theorem Draft.Passes.formats_ne_nil {d : Draft} {config : Config} (h : d.Passes config) :
    config.output.formats ≠ [] := by
  intro hnone
  have hnames := h.formats
  rw [hnone, List.map_nil] at hnames
  exact h.someFormat hnames.symm

theorem passes_of_check {d : Draft} {config : Config} (h : d.check = .ok config) :
    d.Passes config := by
  rw [Draft.check] at h
  split at h
  · rename_i level hlevel
    obtain ⟨_, hlogDir, h⟩ := bind_eq_ok_iff.mp h
    split at h
    · rename_i source hsource
      obtain ⟨hworkers, h⟩ := eq_ok_of_unless h
      obtain ⟨htimeout, h⟩ := eq_ok_of_unless h
      obtain ⟨hsome, h⟩ := eq_ok_of_unless h
      obtain ⟨formats, hformats, h⟩ := bind_eq_ok_iff.mp h
      obtain ⟨_, hbaseDir, h⟩ := bind_eq_ok_iff.mp h
      obtain ⟨_, hneeds, h⟩ := bind_eq_ok_iff.mp h
      cases h
      exact
        { log := rfl
          search := rfl
          sources := rfl
          output := rfl
          level := name_of_find? hlevel
          logDir := isBlankText_of_notBlank hlogDir
          source := name_of_find? hsource
          maxWorkers := Int.not_le.mp hworkers
          timeout := Bool.eq_false_iff.mpr htimeout
          someFormat := mt List.isEmpty_iff.mpr hsome
          formats := names_of_formatsOf hformats
          baseDir := isBlankText_of_notBlank hbaseDir
          needs := hneeds }
    · nomatch h
  · nomatch h

/-- Accepted settings are settings that the mapping states and that pass the checks. -/
theorem exists_draft_of_ofMapping {m : Mapping} {config : Config}
    (h : Config.ofMapping m = .ok config) : ∃ d : Draft, d.IsOf m ∧ d.Passes config := by
  obtain ⟨d, hd, hconfig⟩ := bind_eq_ok_iff.mp h
  exact ⟨d, isOf_of_ofMapping hd, passes_of_check hconfig⟩

end PageGrep
