/-
# Settings over the same settings

A file of settings over a file of defaults with the same content gives what it gives on its own:
where it is refused, for the same reason.  The one exception is a file that holds mappings in
mappings without end (`Config.StatesEndless`), which can be read but not laid over anything like it
(`Config.loadOver_of_same`).

Its keys need not be names.  A key that is none may stand twice in the layers, as one that is no
number does, but no setting is read from under it.  No name stands twice in what a text states, so
the reading finds its sections and settings where it found them before.  Only a mapping in the
place of a setting may be another than before, and no setting is a mapping, whatever is in it
(`Value.surface`).

The main statement, `layered_changes_stated`, puts together what laying settings over others does.
-/
import PageGrep.Config.File
import PageGrep.Proofs.Config.Accepted
import PageGrep.Proofs.Config.Layers
import PageGrep.Proofs.Yaml.Endless
import PageGrep.Proofs.Yaml.Keys

namespace PageGrep

/-! ## What a setting is read from -/

/-- A value without what is in it, if it is a mapping. -/
def Value.surface : Value → Value
  | .map _ => .map []
  | v => v

theorem Value.surface_layered (lower : Option Value) (upper : Value) :
    (layered lower upper).surface = upper.surface := by
  rcases layered_cases lower upper with h | ⟨_, _, -, rfl, h⟩
  · rw [h]
  · rw [h]
    rfl

theorem Mapping.named?_layered_self {m : Mapping} {name : String} (hm : m.names.Nodup) :
    (m.layered m).named? name = (m.named? name).map fun v => Value.layered (some v) v := by
  rw [named?_layered hm]
  cases m.named? name <;> rfl

namespace Setting

variable {α : Type} {name : String} {m : Mapping}

/-- A reading looks at no more than the surface of a value. -/
def IsShallow (read : Value → α) : Prop := ∀ v, read v.surface = read v

theorem isShallow_string (key : String) : IsShallow (string key) := fun v => by cases v <;> rfl

theorem isShallow_string? (key : String) : IsShallow (string? key) := fun v => by cases v <;> rfl

theorem isShallow_boolean (key : String) : IsShallow (boolean key) := fun v => by cases v <;> rfl

theorem isShallow_integer (key : String) : IsShallow (integer key) := fun v => by cases v <;> rfl

theorem isShallow_number (key : String) : IsShallow (number key) := fun v => by cases v <;> rfl

theorem isShallow_strings (key : String) : IsShallow (strings key) := fun v => by cases v <;> rfl

/-- What is read of a setting is the same after its section is laid over itself. -/
theorem IsShallow.stated_layered_self {read : Value → α} (hread : IsShallow read) (default : Value)
    (hm : m.names.Nodup) :
    read (stated name default (m.layered m)) = read (stated name default m) := by
  rw [stated, stated, Mapping.named?_layered_self hm]
  cases m.named? name with
  | none => rfl
  | some v =>
      rw [← hread, Option.map_some, Option.getD_some, Value.surface_layered, hread]
      rfl

/-- A section of settings laid over themselves is the section laid over itself. -/
theorem sectionOf_layered_self (hm : m.names.Nodup) :
    sectionOf name (m.layered m) = (fun s : Mapping => s.layered s) <$> sectionOf name m := by
  have hempty : Mapping.layered [] [] = [] := by rw [Mapping.layered]
  rw [sectionOf, sectionOf, Mapping.named?_layered_self hm]
  cases m.named? name with
  | none => exact congrArg Except.ok hempty.symm
  | some v =>
      rw [Option.map_some]
      cases v with
      | map s => rw [Value.layered_maps]; rfl
      | null => rw [Value.layered_of_not_mapping rfl]; exact congrArg Except.ok hempty.symm
      | _ => rw [Value.layered_of_not_mapping rfl]; rfl

theorem requiredSection_layered_self (hm : m.names.Nodup) :
    requiredSection name (m.layered m)
      = (fun s : Mapping => s.layered s) <$> requiredSection name m := by
  rw [requiredSection, requiredSection, sectionOf_layered_self hm,
    Mapping.named?_layered_self hm]
  cases m.named? name with
  | none => rfl
  | some v =>
      rw [Option.map_some]
      cases v with
      | map s => rw [Value.layered_maps]
      | null => rw [Value.layered_of_not_mapping rfl]; rfl
      | _ => rw [Value.layered_of_not_mapping rfl]

theorem names_nodup_of_sectionOf {s : Mapping} (hm : m.IsClear) (h : sectionOf name m = .ok s) :
    s.names.Nodup := by
  rw [sectionOf] at h
  split at h
  · cases h
    exact List.nodup_nil
  · cases h
    exact List.nodup_nil
  · rename_i hmap
    cases h
    exact (hm.inside (Mapping.mem_of_named? hmap)).here
  · cases h

end Setting

/-! ## Reading settings laid over themselves -/

section Bind

variable {ε α β : Type} {x y : Except ε α} {f g : α → Except ε β}

theorem bind_congr_ok (hfg : ∀ a, x = .ok a → f a = g a) : x >>= f = x >>= g := by
  cases x with
  | error _ => rfl
  | ok a => exact hfg a rfl

/-- A first step that gives what another one gives, changed, and from there on goes on as that one
does. -/
theorem bind_eq_bind_of_map {h : α → α} (hxy : y = h <$> x)
    (hfg : ∀ a, x = .ok a → f (h a) = g a) : y >>= f = x >>= g := by
  subst hxy
  cases x with
  | error _ => rfl
  | ok a => exact hfg a rfl

end Bind

open Setting in
/-- Settings laid over themselves are read as they are: each section once, and then its settings. -/
theorem Draft.ofMapping_layered_self {m : Mapping} (hm : m.IsClear) :
    Draft.ofMapping (m.layered m) = Draft.ofMapping m := by
  unfold Draft.ofMapping
  refine bind_eq_bind_of_map (sectionOf_layered_self hm.here) fun log hlog => ?_
  have hlog := names_nodup_of_sectionOf hm hlog
  simp only [(isShallow_string _).stated_layered_self _ hlog,
    (isShallow_boolean _).stated_layered_self _ hlog]
  refine bind_congr_ok fun _ _ => bind_congr_ok fun _ _ => bind_congr_ok fun _ _ => ?_
  refine bind_eq_bind_of_map (requiredSection_layered_self hm.here) fun search hsearch => ?_
  have hsearch := names_nodup_of_sectionOf hm (sectionOf_of_requiredSection hsearch)
  simp only [(isShallow_string _).stated_layered_self _ hsearch,
    (isShallow_integer _).stated_layered_self _ hsearch,
    (isShallow_boolean _).stated_layered_self _ hsearch]
  refine bind_congr_ok fun _ _ => bind_congr_ok fun _ _ => ?_
  refine bind_congr_ok fun _ _ => bind_congr_ok fun _ _ => ?_
  refine bind_eq_bind_of_map (sectionOf_layered_self hm.here) fun wiki hwiki => ?_
  have hwiki := names_nodup_of_sectionOf hm hwiki
  refine bind_eq_bind_of_map (sectionOf_layered_self hm.here) fun folder hfolder => ?_
  have hfolder := names_nodup_of_sectionOf hm hfolder
  simp only [(isShallow_string? _).stated_layered_self _ hwiki,
    (isShallow_number _).stated_layered_self _ hwiki,
    (isShallow_string? _).stated_layered_self _ hfolder]
  refine bind_congr_ok fun _ _ => bind_congr_ok fun _ _ => bind_congr_ok fun _ _ => ?_
  refine bind_eq_bind_of_map (sectionOf_layered_self hm.here) fun output houtput => ?_
  have houtput := names_nodup_of_sectionOf hm houtput
  simp only [(isShallow_strings _).stated_layered_self _ houtput,
    (isShallow_string _).stated_layered_self _ houtput]

/-! ## Files with the same content -/

theorem Mapping.isClear_of_ofValue {v : Value} {m : Mapping} (hv : v.IsClear)
    (h : Mapping.ofValue v = .ok m) : m.IsClear := by
  cases v with
  | map pairs =>
      cases h
      exact hv
  | _ =>
      rw [Mapping.ofValue] at h
      · split at h
        · cases h
          exact .intro List.nodup_nil nofun
        · nomatch h
      · nofun

namespace Config

variable {files : Files} {defaults path : Path} {octets : List UInt8}

theorem checked_layered_self {m : Mapping} (hm : m.IsClear) :
    checked (m.layered m) = checked m := by
  rw [checked, checked, Config.ofMapping, Config.ofMapping, Draft.ofMapping_layered_self hm]

theorem statedIn_of_readOctets (hdefaults : files.readOctets defaults = .ok octets)
    (hpath : files.readOctets path = .ok octets) :
    statedIn files defaults = statedIn files path := by
  rw [statedIn, statedIn, Files.readText, Files.readText, hdefaults, hpath]

theorem isClear_of_statedIn {d : Yaml.Document} {m : Mapping}
    (h : statedIn files path = .ok (d, m)) : m.IsClear := by
  obtain ⟨text, -, h⟩ := bind_eq_ok_iff.mp h
  obtain ⟨document, hdocument, h⟩ := bind_eq_ok_iff.mp h
  obtain ⟨mapping, hmapping, h⟩ := bind_eq_ok_iff.mp h
  cases h
  exact Mapping.isClear_of_ofValue (Yaml.isClear_value_of_ofText (mapError_eq_ok_iff.mp hdocument))
    (mapError_eq_ok_iff.mp hmapping)

theorem isFile_of_readOctets (h : files.readOctets path = .ok octets) :
    files.isFile path = .ok true := by
  rw [Files.readOctets] at h
  rw [Files.isFile, Files.isOfKind]
  split at h
  · rename_i bytes hlook
    rw [hlook]
  · nomatch h
  · nomatch h

/-- What the file states holds mappings in mappings without end, side by side when it is laid over
what it states itself. -/
def StatesEndless (files : Files) (path : Path) : Prop :=
  ∃ d m, statedIn files path = .ok (d, m) ∧ d.HasEndlessWay d

instance decStatesEndless : Decidable (StatesEndless files path) :=
  match hstated : statedIn files path with
  | .error _ => .isFalse fun ⟨_, _, h, _⟩ => nomatch hstated.symm.trans h
  | .ok (d, m) => decidable_of_iff (d.isEndless d = true) <| by
      rw [Yaml.Document.isEndless_iff, StatesEndless, hstated]
      constructor
      · exact fun hway => ⟨d, m, rfl, hway⟩
      · rintro ⟨_, _, hstates, hway⟩
        cases hstates
        exact hway

theorem loadOver_self : loadOver files path path = load files path := by
  rw [loadOver, if_pos (beq_self_eq_true path)]
  rfl

/-- Where there is a file with defaults, another one is laid over it. -/
theorem loadOver_of_isFile (hne : path ≠ defaults) (hfile : files.isFile defaults = .ok true) :
    loadOver files defaults path
      = statedIn files defaults >>= fun lower => statedIn files path >>= fun upper =>
          if lower.1.isEndless upper.1 = true then .error .endless
          else (checked (lower.2.layered upper.2)).mapError .settings := by
  rw [loadOver, if_neg (by simpa using hne), hfile]
  cases statedIn files defaults with
  | error _ => rfl
  | ok lower =>
      cases statedIn files path with
      | error _ => rfl
      | ok upper =>
          simp only [Except.mapError, bind, Except.bind, reduceIte]
          split <;> rfl

/-- A file of settings over another file of defaults with the same content is read as on its own,
or has no end. -/
theorem loadOver_of_same (hne : path ≠ defaults)
    (hdefaults : files.readOctets defaults = .ok octets)
    (hpath : files.readOctets path = .ok octets) :
    (¬ StatesEndless files path → loadOver files defaults path = load files path) ∧
      (StatesEndless files path → loadOver files defaults path = .error .endless) := by
  rw [loadOver_of_isFile hne (isFile_of_readOctets hdefaults),
    statedIn_of_readOctets hdefaults hpath, load, StatesEndless]
  cases hstated : statedIn files path with
  | error error => exact ⟨fun _ => rfl, nofun⟩
  | ok stated =>
      obtain ⟨d, m⟩ := stated
      show (_ → (if d.isEndless d = true then Except.error LoadError.endless
        else (checked (m.layered m)).mapError .settings) = (checked m).mapError .settings) ∧ _
      constructor
      · intro hend
        have hend : ¬ d.isEndless d = true := fun hway =>
          hend ⟨d, m, rfl, Yaml.Document.isEndless_iff.mp hway⟩
        rw [if_neg hend, checked_layered_self (isClear_of_statedIn hstated)]
      · rintro ⟨_, _, hstates, hway⟩
        cases hstates
        exact if_pos (Yaml.Document.isEndless_iff.mpr hway)

end Config

/-! ## What layers state -/

/-- **Settings laid over others change just what they state**: what they have nothing to say about
stays unless they end above it, keys keep their order with new ones at the end, and once is
enough.  So a file over another one with the same content is read as on its own, unless it has no
end. -/
theorem layered_changes_stated :
    (∀ lower upper : Mapping, lower.IsNamed → upper.IsNamed →
      (∀ path,
        (∀ v : Value, v.isMapping = false →
          ((lower.layered upper).at? path = some v
            ↔ upper.at? path = some v
              ∨ lower.at? path = some v ∧ upper.at? path = none ∧ ¬ upper.EndsAbove path)) ∧
        ((∃ m, (lower.layered upper).at? path = some (.map m))
          ↔ (∃ m, upper.at? path = some (.map m))
            ∨ (∃ m, lower.at? path = some (.map m)) ∧ upper.at? path = none
              ∧ ¬ upper.EndsAbove path) ∧
        ∀ m : Mapping, (lower.layered upper).at? path = some (.map m) →
          m.map Prod.fst
            = (lower.namesAt path ++ (upper.namesAt path).filter
                fun name => decide (name ∉ lower.namesAt path)).map .str) ∧
      (lower.layered upper).layered upper = lower.layered upper) ∧
    (∀ m : Mapping, m.IsNamed → m.layered m = m) ∧
    ∀ (files : Files) (defaults path : Path) (octets : List UInt8),
      files.readOctets defaults = .ok octets → files.readOctets path = .ok octets →
        (path = defaults ∨ ¬ Config.StatesEndless files path →
          Config.loadOver files defaults path = Config.load files path) ∧
        (path ≠ defaults → Config.StatesEndless files path →
          Config.loadOver files defaults path = .error .endless) := by
  refine ⟨fun lower upper hlower hupper => ⟨fun path => ⟨?_, ?_, ?_⟩, ?_⟩,
    fun m hm => Mapping.layered_self hm, fun files defaults path octets hdefaults hpath => ⟨?_, ?_⟩⟩
  · exact fun v hv => Mapping.at?_layered_of_not_mapping hupper.isClear hv
  · exact Mapping.exists_at?_layered_eq_map_iff hupper.isClear
  · intro m hm
    have hlaid := (Mapping.IsNamed.layered hlower hupper).of_at? hm
    have hnames := Mapping.namesAt_layered hupper.isClear ⟨m, hm⟩
    rw [Mapping.namesAt, hm] at hnames
    rw [hlaid.here.keys_eq, ← hnames]
    rfl
  · exact Mapping.layered_layered lower hupper
  · rintro (rfl | hends)
    · exact Config.loadOver_self
    · by_cases hne : path = defaults
      · subst hne
        exact Config.loadOver_self
      · exact (Config.loadOver_of_same hne hdefaults hpath).1 hends
  · exact fun hne => (Config.loadOver_of_same hne hdefaults hpath).2

/-- A null in a section, a text in the place of a section and a section in the place of a null;
and a file with a key that is no name. -/
theorem layered_changes_stated_null_and_text :
    let lower : Mapping := [
      (.str "log", .map [(.str "level", .str "INFO"), (.str "dir", .str "log")]),
      (.str "wiki", .map [(.str "site", .str "a")]), (.str "local", .null)]
    let upper : Mapping := [
      (.str "output", .null), (.str "local", .map [(.str "pages_dir", .str "p")]),
      (.str "log", .map [(.str "to_file", .bool true), (.str "dir", .null)]),
      (.str "wiki", .str "off")]
    let octets := "1: x\nsearch: \x7b2: y\x7d\nwiki: \x7bsite: a\x7d\n".toUTF8.toList
    let files : Files := { entries := [(["d.yml"], .octets octets), (["c.yml"], .octets octets)] }
    lower.IsNamed ∧ upper.IsNamed ∧
      (lower.layered upper).at? ["log", "dir"] = some .null ∧
      (lower.layered upper).at? ["log", "level"] = some (.str "INFO") ∧
      (lower.layered upper).at? ["wiki", "site"] ≠ some (.str "a") ∧
      (∃ m, (lower.layered upper).at? ["local"] = some (.map m)) ∧
      (lower.layered upper).map Prod.fst
        = [.str "log", .str "wiki", .str "local", .str "output"] ∧
      (lower.layered upper).layered upper = lower.layered upper ∧ lower.layered lower = lower ∧
      files.readOctets ⟨0, ["d.yml"]⟩ = .ok octets ∧ files.readOctets ⟨0, ["c.yml"]⟩ = .ok octets ∧
      ¬ Config.StatesEndless files ⟨0, ["c.yml"]⟩ ∧
      Config.loadOver files ⟨0, ["d.yml"]⟩ ⟨0, ["c.yml"]⟩ = Config.load files ⟨0, ["c.yml"]⟩ := by
  intro lower upper octets files
  have hlower : lower.IsNamed := by
    refine .intro (by decide +kernel) fun key inner hmem => ?_
    obtain ⟨rfl, rfl⟩ | ⟨rfl, rfl⟩ :
        (key = .str "log" ∧ inner = _) ∨ key = .str "wiki" ∧ inner = _ := by
      simpa [lower] using hmem
    · exact Mapping.isNamed_of_flat (by decide +kernel) (by decide)
    · exact Mapping.isNamed_of_flat (by decide +kernel) (by decide)
  have hupper : upper.IsNamed := by
    refine .intro (by decide +kernel) fun key inner hmem => ?_
    obtain ⟨rfl, rfl⟩ | ⟨rfl, rfl⟩ :
        (key = .str "local" ∧ inner = _) ∨ key = .str "log" ∧ inner = _ := by
      simpa [upper] using hmem
    · exact Mapping.isNamed_of_flat (by decide +kernel) (by decide)
    · exact Mapping.isNamed_of_flat (by decide +kernel) (by decide)
  obtain ⟨hlayers, hself, hload⟩ := layered_changes_stated
  obtain ⟨hpaths, hagain⟩ := hlayers lower upper hlower hupper
  have hdefaults : files.readOctets ⟨0, ["d.yml"]⟩ = .ok octets := by decide +kernel
  have hpath : files.readOctets ⟨0, ["c.yml"]⟩ = .ok octets := by decide +kernel
  have hends : ¬ Config.StatesEndless files ⟨0, ["c.yml"]⟩ := by decide +kernel
  refine ⟨hlower, hupper, ?_, ?_, ?_, ?_, ?_, hagain, hself lower hlower, hdefaults, hpath, hends,
    (hload files _ _ octets hdefaults hpath).1 (.inr hends)⟩
  · exact ((hpaths ["log", "dir"]).1 .null rfl).mpr (.inl rfl)
  · exact ((hpaths ["log", "level"]).1 (.str "INFO") rfl).mpr
      (.inr ⟨rfl, rfl, by decide +kernel⟩)
  · intro hkept
    rcases ((hpaths ["wiki", "site"]).1 (.str "a") rfl).mp hkept with hstated | ⟨-, -, hend⟩
    · nomatch hstated
    · exact hend (by decide +kernel)
  · exact (hpaths ["local"]).2.1.mpr (.inl ⟨_, rfl⟩)
  · exact (hpaths []).2.2 _ rfl

/-- A mapping that holds itself is read on its own, and laid over itself it has no end. -/
theorem loadOver_same_endless :
    let octets := ("search: \x7bsource: local\x7d\nlocal: \x7bpages_dir: p\x7d\n"
      ++ "x: &a \x7by: *a\x7d\n").toUTF8.toList
    let files : Files := { entries := [(["d.yml"], .octets octets), (["c.yml"], .octets octets)] }
    files.readOctets ⟨0, ["d.yml"]⟩ = .ok octets ∧ files.readOctets ⟨0, ["c.yml"]⟩ = .ok octets ∧
      (Config.load files ⟨0, ["c.yml"]⟩).isOk = true ∧
      Config.loadOver files ⟨0, ["d.yml"]⟩ ⟨0, ["c.yml"]⟩ = .error .endless ∧
      Config.loadOver files ⟨0, ["d.yml"]⟩ ⟨0, ["c.yml"]⟩ ≠ Config.load files ⟨0, ["c.yml"]⟩ := by
  decide +kernel

end PageGrep
