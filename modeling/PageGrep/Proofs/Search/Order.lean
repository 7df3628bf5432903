/-
# Orders and failures

Two runs of a search side by side.  The counters go through the whole loop, yet what a
search shows in the end depends neither on the order in which the pages come nor, for one
page, on whether others fail:

* two orders of the same places lead to the same hits, up to their order, and to the same
  last status after the same number of statuses;
* where pages of some slugs fail, their hits are missing and every other hit is left as it
  was (`hits_of_failsOn`).

Both follow from the account of a single run: a hit is told by its place alone, and the
last status by how many pages were had and how many of them match.

They hold of searches that come to an answer of every page.  A page of which asking the program
breaks down ends the run at its place, and takes with it the pages that come after it in one
order and not in another (`garbled_page_ends_run`).  Whether there is such a page does not
depend on the order.
-/
import PageGrep.Proofs.Program.Asking
import PageGrep.Proofs.Search.Account

namespace PageGrep

/-! ## Hits and the last status of a run -/

section Run

variable (search : Search) (program : Program) {source : Source}
variable {arrange : List PageRef → List PageRef}

theorem hits_of_no_refs (h : source.refs = []) :
    (search.run source program arrange none).hits = [] := by
  rw [run_of_no_refs search program arrange h, Run.hits]
  cases source.directory with
  | error _ => rfl
  | ok _ => exact hits_framed

/-- The hits of a run are those on the places, in the order in which the pages come. -/
theorem hits_run (hslugs : source.KeepsSlugs) (hworkers : 1 ≤ search.maxWorkers)
    (horder : (arrange source.refs).Perm source.refs)
    (hanswers : search.Answers source program source.refs) :
    (search.run source program arrange none).hits
      = (arrange source.refs).filterMap (search.hit? source program) := by
  by_cases hrefs : source.refs = []
  · rw [hits_of_no_refs search program hrefs]
    rw [hrefs] at horder ⊢
    rw [horder.eq_nil, List.filterMap_nil]
  · have haccounts := accounts_run search program hslugs hworkers horder hrefs
    rw [(hanswers.perm horder).reached] at haccounts
    exact haccounts.hits

theorem error?_run_eq_none_iff (hworkers : 1 ≤ search.maxWorkers)
    (horder : (arrange source.refs).Perm source.refs) :
    (search.run source program arrange none).error? = none ↔
      (∃ directory, source.directory = .ok directory) ∧
        search.Answers source program source.refs := by
  by_cases hrefs : source.refs = []
  · rw [run_of_no_refs search program arrange hrefs, hrefs]
    cases source.directory with
    | error _ =>
        refine iff_of_false nofun ?_
        rintro ⟨⟨_, hdirectory⟩, -⟩
        nomatch hdirectory
    | ok directory => exact iff_of_true rfl ⟨⟨directory, rfl⟩, nofun⟩
  · obtain ⟨_, _, hrun⟩ := run_of_refs search program arrange hworkers hrefs
    have hdirectory : ∃ directory, source.directory = .ok directory := by
      cases hdirectory : source.directory with
      | error _ => simp [Source.refs, hdirectory] at hrefs
      | ok directory => exact ⟨directory, rfl⟩
    rw [hrun, Option.map_eq_none_iff, breakdown?_eq_none_iff, and_iff_right hdirectory]
    exact ⟨fun h => h.perm horder.symm, fun h => h.perm horder⟩

end Run

theorem getLast?_progress (total : Nat) (t : Tally) (answers : List Bool) :
    (progress total t answers).getLast?
      = if answers.length = 0 then none
        else some
          (Tally.text total ⟨t.found + answers.count true, t.checked + answers.length⟩) := by
  rw [progress, List.getLast?_map, List.getLast?_range]
  split
  · rfl
  · rename_i hsome
    have hlast : answers.length - 1 + 1 = answers.length := by omega
    simp only [Option.map_some, hlast, List.take_length]

theorem statuses_progress_perm (total : Nat) (t : Tally) {answers answers' : List Bool}
    (h : answers.Perm answers') :
    (progress total t answers).length = (progress total t answers').length ∧
      (progress total t answers).getLast? = (progress total t answers').getLast? := by
  rw [length_progress, length_progress, getLast?_progress, getLast?_progress, h.length_eq,
    h.count_eq]
  exact ⟨rfl, rfl⟩

/-! ## Pages that fail -/

/-- A source that gives what another gives, but fails on the pages of some slugs. -/
structure Source.FailsOn (source : Source) (F : String → Prop) (failing : Source) : Prop where
  directory : failing.directory = source.directory
  fails : ∀ slug, F slug → ∃ error, failing.page slug = .error error
  keeps : ∀ slug, ¬ F slug → failing.page slug = source.page slug

section Failing

variable {source failing : Source} {F : String → Prop}

theorem refs_of_failsOn (h : source.FailsOn F failing) : failing.refs = source.refs := by
  rw [Source.refs, Source.refs, h.directory]

theorem keepsSlugs_of_failsOn (h : source.FailsOn F failing) (hslugs : source.KeepsSlugs) :
    failing.KeepsSlugs := by
  intro slug page hpage
  by_cases hF : F slug
  · obtain ⟨error, herror⟩ := h.fails slug hF
    exact nomatch herror.symm.trans hpage
  · exact hslugs slug page ((h.keeps slug hF).symm.trans hpage)

theorem answers_of_failsOn {search : Search} {program : Program} {refs : List PageRef}
    (h : source.FailsOn F failing) (hanswers : search.Answers source program refs) :
    search.Answers failing program refs := by
  intro ref href page hpage
  by_cases hF : F ref.slug
  · obtain ⟨error, herror⟩ := h.fails ref.slug hF
    exact nomatch herror.symm.trans hpage
  · exact hanswers ref href page ((h.keeps ref.slug hF).symm.trans hpage)

theorem failsOn_sourceOf [DecidablePred F] (directory : Except SourceError Json)
    (answers : String → Except SourceError Json) (error : SourceError) :
    (Site.sourceOf directory answers).FailsOn F
      (Site.sourceOf directory fun slug => if F slug then .error error else answers slug) where
  directory := rfl
  fails := by
    intro slug hF
    exact ⟨error, by simp only [Site.sourceOf, if_pos hF]; rfl⟩
  keeps := by
    intro slug hF
    simp only [Site.sourceOf, if_neg hF]

variable [DecidablePred F] (search : Search) (program : Program)

theorem slug_of_hit? {ref : PageRef} {hit : Hit}
    (h : search.hit? source program ref = some hit) : hit.slug = ref.slug := by
  unfold Search.hit? at h
  split at h
  · exact nomatch h
  · split at h
    · exact (Option.some.inj h) ▸ rfl
    · exact nomatch h

theorem hit?_of_failsOn (h : source.FailsOn F failing) (ref : PageRef) :
    search.hit? failing program ref
      = (search.hit? source program ref).filter fun hit => ¬ F hit.slug := by
  by_cases hF : F ref.slug
  · obtain ⟨error, herror⟩ := h.fails ref.slug hF
    have hnone : search.hit? failing program ref = none := by
      simp only [Search.hit?, herror]
    rw [hnone, eq_comm, Option.filter_eq_none_iff]
    intro hit hhit
    have hslug : hit.slug = ref.slug := slug_of_hit? search program hhit
    simpa [hslug] using hF
  · have hsame : search.hit? failing program ref = search.hit? source program ref := by
      simp only [Search.hit?, h.keeps ref.slug hF]
    rw [hsame]
    cases hhit : search.hit? source program ref with
    | none => rfl
    | some hit =>
        have hslug : hit.slug = ref.slug := slug_of_hit? search program hhit
        rw [Option.filter_some, if_pos (by simpa [hslug] using hF)]

/-- The hits on pages that do not fail are left, in the order in which they were. -/
theorem hits_of_failsOn (h : source.FailsOn F failing) (refs : List PageRef) :
    refs.filterMap (search.hit? failing program)
      = (refs.filterMap (search.hit? source program)).filter fun hit => ¬ F hit.slug := by
  rw [List.filter_filterMap]
  exact congrArg (List.filterMap · refs) (funext (hit?_of_failsOn search program h))

end Failing

/-! ## Two runs -/

/-- Two runs come to the same in the end: to the same hits, up to their order, and to the
same last status after as many statuses. -/
structure Run.EndsLike (run run' : Run) : Prop where
  hits : run.hits.Perm run'.hits
  length : run.statuses.length = run'.statuses.length
  last : run.statuses.getLast? = run'.statuses.getLast?

theorem run_endsLike_of_perm (search : Search) (program : Program) {source : Source}
    (hslugs : source.KeepsSlugs) (hworkers : 1 ≤ search.maxWorkers)
    {arrange arrange' : List PageRef → List PageRef}
    (horder : (arrange source.refs).Perm source.refs)
    (horder' : (arrange' source.refs).Perm source.refs)
    (hanswers : search.Answers source program source.refs) :
    (search.run source program arrange none).EndsLike
      (search.run source program arrange' none) := by
  by_cases hrefs : source.refs = []
  · rw [run_of_no_refs search program arrange hrefs, run_of_no_refs search program arrange' hrefs]
    exact ⟨.refl _, rfl, rfl⟩
  · have hperm : (arrange source.refs).Perm (arrange' source.refs) := horder.trans horder'.symm
    obtain ⟨hlength, hlast⟩ := statuses_progress_perm source.refs.length {}
      (hperm.filterMap (search.answer? source program))
    have haccounts := accounts_run search program hslugs hworkers horder hrefs
    have haccounts' := accounts_run search program hslugs hworkers horder' hrefs
    rw [(hanswers.perm horder).reached] at haccounts
    rw [(hanswers.perm horder').reached] at haccounts'
    refine ⟨?_, ?_, ?_⟩
    · rw [haccounts.hits, haccounts'.hits]
      exact hperm.filterMap (search.hit? source program)
    · rw [haccounts.statuses, haccounts'.statuses, List.length_cons, List.length_cons, hlength]
    · rw [haccounts.statuses, haccounts'.statuses, List.getLast?_cons, List.getLast?_cons, hlast]

/-- **The order of the pages makes no difference in the end, and a page that fails none to
the others**, where asking the program comes to an answer of every page.  Whether it does makes
itself known in every order. -/
theorem run_order_and_failures (search : Search) (program : Program) {source : Source}
    {directory : Except SourceError Json} {answers : String → Except SourceError Json}
    (hsource : source = Site.sourceOf directory answers) (hworkers : 1 ≤ search.maxWorkers) :
    (∀ arrange arrange' : List PageRef → List PageRef,
      (arrange source.refs).Perm source.refs → (arrange' source.refs).Perm source.refs →
        ((search.run source program arrange none).error? = none ↔
          (search.run source program arrange' none).error? = none)) ∧
    (search.Answers source program source.refs →
      (∀ arrange arrange' : List PageRef → List PageRef,
        (arrange source.refs).Perm source.refs → (arrange' source.refs).Perm source.refs →
          (search.run source program arrange none).EndsLike
            (search.run source program arrange' none)) ∧
      ∀ (F : String → Prop) [DecidablePred F] (failing : Source)
        (arrange : List PageRef → List PageRef), source.FailsOn F failing →
        (arrange source.refs).Perm source.refs →
          (search.run failing program arrange none).hits
            = (search.run source program arrange none).hits.filter fun hit => ¬ F hit.slug) := by
  have hslugs : source.KeepsSlugs := hsource ▸ keepsSlugs_sourceOf _ _
  refine ⟨?_, fun hanswers => ⟨?_, ?_⟩⟩
  · intro arrange arrange' horder horder'
    rw [error?_run_eq_none_iff search program hworkers horder,
      error?_run_eq_none_iff search program hworkers horder']
  · intro arrange arrange' horder horder'
    exact run_endsLike_of_perm search program hslugs hworkers horder horder' hanswers
  · intro F _ failing arrange hfailing horder
    have hrefs : failing.refs = source.refs := refs_of_failsOn hfailing
    have hfailingSlugs : failing.KeepsSlugs := keepsSlugs_of_failsOn hfailing hslugs
    have hfailingAnswers : search.Answers failing program failing.refs :=
      hrefs ▸ answers_of_failsOn hfailing hanswers
    rw [hits_run search program hslugs hworkers horder hanswers,
      hits_run search program hfailingSlugs hworkers (hrefs.symm ▸ horder) hfailingAnswers, hrefs,
      hits_of_failsOn search program hfailing]

/-- Two pages that are found, read in both orders, and the second of them failing. -/
theorem run_order_and_failures_two_pages :
    let place (slug : String) : Json := .obj [("slug", .str slug)]
    let directory : Except SourceError Json := .ok (.arr [place "a", place "b"])
    let answers (_ : String) : Except SourceError Json := .ok (.obj [])
    let source := Site.sourceOf directory answers
    let failing := Site.sourceOf directory fun slug =>
      if slug = "b" then .error (.trouble .timeout "timed out") else answers slug
    (Search.run {} source [] id none).hits = [⟨"a", "a", 0⟩, ⟨"b", "b", 0⟩] ∧
      (Search.run {} source [] List.reverse none).hits.Perm [⟨"a", "a", 0⟩, ⟨"b", "b", 0⟩] ∧
      (Search.run {} failing [] id none).hits = [⟨"a", "a", 0⟩] := by
  intro place directory answers source failing
  have hboth : (Search.run {} source [] id none).hits = [⟨"a", "a", 0⟩, ⟨"b", "b", 0⟩] := by
    decide
  obtain ⟨-, hends⟩ := run_order_and_failures {} [] (rfl : source = _) (by decide)
  obtain ⟨horder, hfails⟩ := hends fun _ _ _ _ => ⟨true, rfl⟩
  have hperm := (horder List.reverse id (List.reverse_perm _) (.refl _)).hits
  have hleft := hfails (fun slug => slug = "b") failing id (failsOn_sourceOf _ _ _) (.refl _)
  rw [hboth] at hperm hleft
  exact ⟨hboth, hperm, hleft.trans (by decide)⟩

/-- A page that is found is told if it comes before one that breaks the search down, and else
never asked. -/
theorem hits_beside_broken (source : Source) (program : Program) {ref ref' : PageRef}
    {page page' : Page} {e : Pattern.Breakdown}
    (hdirectory : source.directory = .ok [.ok ref, .ok ref'])
    (hpage : source.page ref.slug = .ok page) (hfound : matchPage page program false = .ok true)
    (hpage' : source.page ref'.slug = .ok page')
    (hbroken : matchPage page' program false = .error e) :
    (Search.run {} source program id none).hits = [page.hit] ∧
      (Search.run {} source program List.reverse none).hits = [] := by
  simp [Search.run, Search.overPlaces, hdirectory, Search.visitAll, Search.visit, Search.check,
    hpage, hfound, hpage', hbroken, Directory.refs, Tally.isCancelled, Run.hits, Note.skips,
    Directory.skipped, Event.hit?, Except.toOption, bind, Except.bind, pure, Except.pure,
    List.filterMap_cons]

/-- A page in which a search breaks down, come last or first: in the one order the other page is
found, and in the other it is never asked. -/
theorem garbled_page_ends_run :
    let place (slug : String) : Json := .obj [("slug", .str slug)]
    let page (text : String) : Json := .obj [("story", .arr [.obj [("text", .str text)]])]
    let source := Site.sourceOf (.ok (.arr [place "a", place "b"])) fun slug =>
      .ok (page (if slug == "a" then "q" else "xyz"))
    ∃ c, compile .late "ITEM\nTEXT ((x)|y|z)*+" = .ok c ∧ c.errors = 0 ∧
      (Search.run {} source c.program id none).hits = [⟨"a", "a", 1⟩] ∧
      (Search.run {} source c.program List.reverse none).hits = [] ∧
      ¬ (Search.run {} source c.program id none).EndsLike
        (Search.run {} source c.program List.reverse none) := by
  intro place page source
  obtain ⟨c, pattern, hc, herrors, hprogram, hq, hxyz⟩ := exists_compile_garbled .late
  obtain ⟨hfirst, hlast⟩ := hits_beside_broken source c.program rfl rfl
    (hprogram ▸ matchPage_of_first rfl (by decide +kernel) hq nofun false) rfl
    (hprogram ▸ matchPage_of_first rfl (by decide +kernel) hxyz nofun false)
  refine ⟨c, hc, herrors, hfirst, hlast, fun hends => ?_⟩
  have hperm := hends.hits
  rw [hfirst, hlast] at hperm
  nomatch hperm.eq_nil

end PageGrep
