/-
# What accepted settings set up

Accepted settings hold all that a search is set up from, so no step of it can fail any more
(`sets_up_of_ofMapping`).  The forms of the report are read off the texts that the mapping
lists, whatever their case and however often each is there; the store is looked up once more
by the name of the source; and a search by one worker or more does not fail but where its
source does or looking for a pattern breaks down (`Search.error_of_run`).

The checks look at the forms and the source under the names they have in the mapping, and what
is set up looks at them again on its own: names of forms are different for different forms
(`Format.name_injective`), and the source of a name that a source has is that source.
-/
import PageGrep.Command.Setup
import PageGrep.Proofs.Config.Accepted
import PageGrep.Proofs.Search.Ledger

namespace PageGrep

/-! ## The forms of the report -/

theorem Format.name_injective {f g : Format} (h : f.name = g.name) : f = g := by
  cases f <;> cases g <;> first | rfl | exact absurd h (by decide)

namespace Config

variable {config : Config}

theorem reportFormats_eq (h : config.output.formats ≠ []) :
    config.reportFormats = .ok (Format.all.filter config.output.formats.contains) := by
  obtain ⟨format, hformat⟩ := List.exists_mem_of_ne_nil _ h
  have hmem : format ∈ Format.all.filter config.output.formats.contains :=
    List.mem_filter.mpr ⟨by cases format <;> decide, List.contains_iff_mem.mpr hformat⟩
  rw [reportFormats]
  split
  · rename_i hnone
    rw [hnone] at hmem
    nomatch hmem
  · rfl

/-- A report has each form whose name is among those that were listed, once and in order. -/
theorem reportFormats_of_names {names : List String} (hsome : config.output.formats ≠ [])
    (h : config.output.formats.map Format.name = names) :
    config.reportFormats
      = .ok ([.console, .json, .html].filter fun f => names.contains f.name) := by
  rw [reportFormats_eq hsome]
  refine congrArg Except.ok (List.filter_congr fun f _ => ?_)
  rw [Bool.eq_iff_iff, List.contains_iff_mem, List.contains_iff_mem, ← h, List.mem_map]
  constructor
  · intro hmem
    exact ⟨f, hmem, rfl⟩
  · rintro ⟨g, hmem, hname⟩
    rwa [← Format.name_injective hname]

/-! ## The store -/

theorem storeNamed_name (source : SourceName) :
    config.storeNamed source.name = .ok (config.store source) := by
  cases source <;> rfl

theorem name_source_store (source : SourceName) (files : Files)
    (exchanges : String → List Exchange) :
    ((config.store source).source files exchanges).name = source.name := by
  cases source <;> rfl

end Config

/-- **Accepted settings can be set up and run.**  The report has the forms that are listed, the
store is that of the source that is named, and no search of a source that can be listed fails
for want of workers. -/
theorem sets_up_of_ofMapping {m : Mapping} {config : Config} (h : Config.ofMapping m = .ok config) :
    (∃ texts : List String,
      m.setting "output" "formats" (.list [.str "console"]) = .list (texts.map .str) ∧
      config.reportFormats = .ok ([.console, .json, .html].filter fun f =>
        (texts.map Text.lowerText).contains f.name)) ∧
    (∃ text store, m.setting "search" "source" (.str "wiki") = .str text ∧
      config.search.source.name = Text.lowerText (Text.trim text) ∧
      config.storeNamed config.search.source.name = .ok store ∧
      ∀ files exchanges, (store.source files exchanges).name = config.search.source.name) ∧
    ∀ source program arrange cancelAfter,
      (config.searching.run source program arrange cancelAfter).error? ≠ some .noWorkers ∧
        ∀ directory, source.directory = .ok directory → ∀ error,
          (config.searching.run source program arrange cancelAfter).error? = some error →
            ∃ e, error = .pattern e := by
  obtain ⟨d, hd, hpasses⟩ := exists_draft_of_ofMapping h
  refine ⟨?_, ?_, ?_⟩
  · obtain ⟨texts, htexts, hformats⟩ := hd.formats
    have hnames := hpasses.formats.trans hformats
    exact ⟨texts, htexts, Config.reportFormats_of_names hpasses.formats_ne_nil hnames⟩
  · obtain ⟨text, htext, hsource⟩ := hd.source
    exact ⟨text, config.store config.search.source, htext, hpasses.source.trans hsource,
      Config.storeNamed_name _, Config.name_source_store _⟩
  · intro source program arrange cancelAfter
    have hworkers : 0 < config.searching.maxWorkers := by
      have hkept : config.search.maxWorkers = d.maxWorkers :=
        congrArg SearchSettings.maxWorkers hpasses.search
      rw [Config.searching, hkept]
      exact hpasses.maxWorkers
    constructor
    · intro hnone
      rcases Search.error_of_run hworkers hnone with ⟨_, -, herror⟩ | ⟨_, herror⟩ <;> nomatch herror
    · intro directory hdirectory error herror
      refine (Search.error_of_run hworkers herror).resolve_left ?_
      rintro ⟨_, hfails, -⟩
      nomatch hfails.symm.trans hdirectory

/-- A source and forms that are written in several ways, with null for one section; the source
that is searched lists two places and a third that is none. -/
theorem sets_up_of_ofMapping_odd_spellings :
    let m : Mapping :=
      [(.str "search", .map [(.str "source", .str " Local\n"), (.str "max_workers", .int 3)]),
        (.str "local", .map [(.str "pages_dir", .str "pages")]), (.str "wiki", .null),
        (.str "output", .map
          [(.str "formats", .list [.str "HTML", .str "Console", .str "html", .str "Html"])])]
    let source : Source :=
      ⟨"local", .ok [.ok ⟨"home", none, none⟩, .error .missingSlug, .ok ⟨"a", none, none⟩],
        fun slug => .error (.malformed (.page slug))⟩
    ∃ config store, Config.ofMapping m = .ok config ∧
      config.reportFormats = .ok [.console, .html] ∧
      config.storeNamed "local" = .ok store ∧
      (∀ files exchanges, (store.source files exchanges).name = "local") ∧
      ∀ program arrange cancelAfter error,
        (config.searching.run source program arrange cancelAfter).error? = some error →
          ∃ e, error = .pattern e := by
  intro m source
  obtain ⟨config, hconfig, hname⟩ : ∃ config, Config.ofMapping m = .ok config ∧
      config.search.source.name = "local" := exists_of_toOption_map (by decide +kernel)
  obtain ⟨⟨texts, htexts, hreport⟩, ⟨_, store, -, -, hstore, hsource⟩, hruns⟩ :=
    sets_up_of_ofMapping hconfig
  have hlisted : ["HTML", "Console", "html", "Html"] = texts :=
    (List.map_inj_right fun _ _ => Value.str.inj).mp (Value.list.inj htexts)
  have hforms : ([.console, .json, .html] : List Format).filter (fun f =>
      (["HTML", "Console", "html", "Html"].map Text.lowerText).contains f.name)
        = [.console, .html] := by decide +kernel
  rw [← hlisted, hforms] at hreport
  rw [hname] at hstore hsource
  refine ⟨config, store, hconfig, hreport, hstore, hsource, ?_⟩
  intro program arrange cancelAfter error
  exact (hruns source program arrange cancelAfter).2 _ rfl error

end PageGrep
