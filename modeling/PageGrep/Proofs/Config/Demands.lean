/-
# What settings must be

Each setting has a name of two parts, its section and its key there, and must be of a type and
within bounds (`Mapping.Admits`).  A setting that is not, and a section that is missing or no
object, is one that offends (`Mapping.Offends`).  This says of a mapping itself what the steps
of its reading and checking make sure of: in one that is accepted nothing offends
(`not_offends_of_passes`).

A time-out may be a whole number, and then it must lie in the range of the binary format; its
conversion finds out, before any check (`Mapping.AsksTooLong`).
-/
import PageGrep.Proofs.Config.Accepted
import PageGrep.Proofs.Number.Range

namespace PageGrep

/-! ## What each setting must be -/

/-- A setting. -/
inductive SettingName where
  | level
  | toFile
  | logDir
  | program
  | source
  | maxWorkers
  | chained
  | site
  | timeout
  | pagesDir
  | formats
  | baseDir
deriving DecidableEq, Repr

namespace SettingName

def sectionName : SettingName → String
  | level | toFile | logDir => "log"
  | program | source | maxWorkers | chained => "search"
  | site | timeout => "wiki"
  | pagesDir => "local"
  | formats | baseDir => "output"

def key : SettingName → String
  | level => "level"
  | toFile => "to_file"
  | logDir => "dir"
  | program => "program"
  | source => "source"
  | maxWorkers => "max_workers"
  | chained => "chain_steps"
  | site => "site"
  | timeout => "timeout"
  | pagesDir => "pages_dir"
  | formats => "formats"
  | baseDir => "base_dir"

def default : SettingName → Value
  | level => .str "INFO"
  | toFile | chained => .bool false
  | logDir => .str "log"
  | program => .str ""
  | source => .str "wiki"
  | maxWorkers => .int 16
  | site | pagesDir => .null
  | timeout => .int 30
  | formats => .list [.str "console"]
  | baseDir => .str "output"

def dotted (s : SettingName) : String := s.sectionName ++ "." ++ s.key

end SettingName

/-- The number that a value is in the binary format. -/
def Value.number? : Value → Option Binary64
  | float x => some x
  | int i => Binary64.ofInt? i
  | _ => none

/-- A value is a text that is not blank. -/
def Value.IsFilled (v : Value) : Prop := ∃ text, v = .str text ∧ Text.isBlankText text = false

theorem Value.eq_of_list_map_str {texts texts' : List String}
    (h : Value.list (texts.map .str) = .list (texts'.map .str)) : texts = texts' :=
  (List.map_inj_right fun _ _ => Value.str.inj).mp (Value.list.inj h)

namespace Mapping

/-- The value of a setting, stated or not. -/
def valueOf (m : Mapping) (s : SettingName) : Value := m.setting s.sectionName s.key s.default

/-- A mapping names a source, in letters of either case and with blanks around it. -/
def NamesSource (m : Mapping) (source : SourceName) : Prop :=
  ∃ text, m.valueOf .source = .str text ∧
    SourceName.ofName? (Text.lowerText (Text.trim text)) = some source

/-- A setting is of its type and within its bounds, and there if the source needs it. -/
def Admits (m : Mapping) : SettingName → Prop
  | .level => ∃ text level, m.valueOf .level = .str text ∧
      Level.ofName? (Text.upperText text) = some level
  | .toFile => ∃ b, m.valueOf .toFile = .bool b
  | .logDir => (m.valueOf .logDir).IsFilled
  | .program => ∃ text, m.valueOf .program = .str text
  | .source => ∃ source, m.NamesSource source
  | .maxWorkers => ∃ i, m.valueOf .maxWorkers = .int i ∧ 0 < i
  | .chained => ∃ b, m.valueOf .chained = .bool b
  | .site => (∃ text? : Option String, m.valueOf .site = (text?.map Value.str).getD .null) ∧
      (m.NamesSource .wiki → (m.valueOf .site).IsFilled)
  | .timeout => ∃ x, (m.valueOf .timeout).number? = some x ∧ x.atMostZero = false
  | .pagesDir => (∃ text? : Option String, m.valueOf .pagesDir
        = (text?.map Value.str).getD .null) ∧
      (m.NamesSource .folder → (m.valueOf .pagesDir).IsFilled)
  | .formats => ∃ texts : List String, m.valueOf .formats = .list (texts.map .str) ∧
      texts ≠ [] ∧ ∀ text ∈ texts, ∃ f, Format.ofName? (Text.lowerText text) = some f
  | .baseDir => (m.valueOf .baseDir).IsFilled

/-- What offends in a mapping: the section of the search if it is missing, a section that is no
object, and a setting that is not as it must be. -/
inductive Offends (m : Mapping) : String → Prop
  | missing : m.named? "search" = none ∨ m.named? "search" = some .null → Offends m "search"
  | noObject {name : String} {v : Value} : name ∈ Setting.sections → m.named? name = some v →
      v ≠ .null → (∀ pairs, v ≠ .map pairs) → Offends m name
  | setting {s : SettingName} : ¬ m.Admits s → Offends m s.dotted

/-- The time-out is a whole number beyond the range of the binary format. -/
def AsksTooLong (m : Mapping) : Prop :=
  ∃ i, m.valueOf .timeout = .int i ∧ Binary64.rangeEnd ≤ i.natAbs

end Mapping

/-! ## Settings that were read -/

theorem Setting.number_eq (name : String) (v : Value) :
    number name v
      = match v.number?, v with
        | some x, _ => .ok x
        | none, .int _ => .error .numberTooLarge
        | none, _ => .error (.wrongType name .number) := by
  cases v with
  | int i =>
      rw [number, Value.number?]
      cases Binary64.ofInt? i <;> rfl
  | _ => rfl

section Read

variable {m : Mapping} {d : Draft}

theorem ofName?_of_namesSource (hd : d.IsOf m) {source : SourceName}
    (h : m.NamesSource source) : SourceName.ofName? d.source = some source := by
  obtain ⟨text, htext, hsource⟩ := hd.source
  obtain ⟨text', htext', hnamed⟩ := h
  obtain rfl : text = text' := Value.str.inj (htext.symm.trans htext')
  rw [hsource]
  exact hnamed

theorem namesSource_of_ofName? (hd : d.IsOf m) {source : SourceName}
    (h : SourceName.ofName? d.source = some source) : m.NamesSource source := by
  obtain ⟨text, htext, hsource⟩ := hd.source
  rw [hsource] at h
  exact ⟨text, htext, h⟩

theorem number?_timeout (hd : d.IsOf m) : (m.valueOf .timeout).number? = some d.timeout := by
  have hnumber := hd.timeout
  rw [Setting.number_eq] at hnumber
  split at hnumber
  · rename_i x hx
    rw [← Except.ok.inj hnumber]
    exact hx
  · nomatch hnumber
  · nomatch hnumber

/-- A text that may be missing is there just if what stands in for it is not blank. -/
theorem isFilled_iff {v : Value} {text? : Option String}
    (h : v = (text?.map Value.str).getD .null) :
    v.IsFilled ↔ Text.isBlankText (text?.getD "") = false := by
  subst h
  cases text? with
  | none => exact ⟨nofun, fun h => absurd h (by decide)⟩
  | some text =>
      constructor
      · rintro ⟨text', htext, hfilled⟩
        obtain rfl : text = text' := Value.str.inj htext
        exact hfilled
      · intro hfilled
        exact ⟨text, rfl, hfilled⟩

/-! ## What is accepted -/

variable {config : Config}

theorem namesSource_of_passes (hd : d.IsOf m) (hp : d.Passes config) :
    m.NamesSource config.search.source := by
  refine namesSource_of_ofName? hd ?_
  rw [← hp.source]
  cases config.search.source <;> decide

theorem eq_source_of_namesSource (hd : d.IsOf m) (hp : d.Passes config) {source : SourceName}
    (h : m.NamesSource source) : config.search.source = source :=
  Option.some.inj ((ofName?_of_namesSource hd (namesSource_of_passes hd hp)).symm.trans
    (ofName?_of_namesSource hd h))

theorem admits_of_passes (hd : d.IsOf m) (hp : d.Passes config) (s : SettingName) :
    m.Admits s := by
  have hneeds := hp.needs
  cases s with
  | level =>
      obtain ⟨text, htext, hlevel⟩ := hd.level
      refine ⟨text, config.log.level, htext, ?_⟩
      rw [← hlevel, ← hp.level]
      cases config.log.level <;> decide
  | toFile => exact ⟨d.toFile, hd.toFile⟩
  | logDir => exact ⟨d.logDir, hd.logDir, hp.logDir⟩
  | program => exact ⟨d.program, hd.program⟩
  | source => exact ⟨config.search.source, namesSource_of_passes hd hp⟩
  | maxWorkers => exact ⟨d.maxWorkers, hd.maxWorkers, hp.maxWorkers⟩
  | chained => exact ⟨d.chained, hd.chained⟩
  | site =>
      refine ⟨⟨d.site, hd.site⟩, fun hwiki => (isFilled_iff hd.site).mpr ?_⟩
      rw [eq_source_of_namesSource hd hp hwiki] at hneeds
      exact isBlankText_of_checkSource hneeds
  | timeout => exact ⟨d.timeout, number?_timeout hd, hp.timeout⟩
  | pagesDir =>
      refine ⟨⟨d.pagesDir, hd.pagesDir⟩, fun hfolder => (isFilled_iff hd.pagesDir).mpr ?_⟩
      rw [eq_source_of_namesSource hd hp hfolder] at hneeds
      exact isBlankText_of_checkSource hneeds
  | formats =>
      obtain ⟨texts, htexts, hformats⟩ := hd.formats
      refine ⟨texts, htexts, ?_, fun text htext => ?_⟩
      · rintro rfl
        exact hp.someFormat hformats
      · have hmem : Text.lowerText text ∈ config.output.formats.map Format.name := by
          rw [hp.formats, hformats]
          exact List.mem_map_of_mem htext
        obtain ⟨f, -, hname⟩ := List.mem_map.mp hmem
        refine ⟨f, ?_⟩
        rw [← hname]
        cases f <;> decide
  | baseDir => exact ⟨d.baseDir, hd.baseDir, hp.baseDir⟩

theorem not_offends_of_passes (hd : d.IsOf m) (hp : d.Passes config) (name : String) :
    ¬ m.Offends name := by
  intro h
  cases h with
  | missing hmissing =>
      obtain ⟨pairs, hsome⟩ := hd.search
      rcases hmissing with hnone | hnull
      · exact nomatch hnone.symm.trans hsome
      · exact nomatch hnull.symm.trans hsome
  | noObject hname hv hnull hmap =>
      rcases hd.objects _ hname _ hv with rfl | ⟨pairs, rfl⟩
      · exact hnull rfl
      · exact hmap pairs rfl
  | setting hs => exact hs (admits_of_passes hd hp _)

end Read

theorem Mapping.AsksTooLong.offends {m : Mapping} (h : m.AsksTooLong) :
    m.Offends "wiki.timeout" := by
  obtain ⟨i, hi, hlarge⟩ := h
  refine .setting (s := .timeout) ?_
  rintro ⟨x, hx, -⟩
  rw [hi] at hx
  exact nomatch ((Binary64.ofInt?_eq_none_iff i).mpr hlarge).symm.trans hx

end PageGrep
