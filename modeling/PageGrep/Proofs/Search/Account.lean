/-
# The account of a search

What a search that is not cancelled shows of a site, whatever the pages and in whatever
order they come.  Every member of the sitemap that names a page is a place, and each place
is accounted for once, in the order in which the pages come (`Search.Accounts`): by a
record of its failure, or by a status, with a hit right before it if the program holds of
the page.  Nothing is shown of a place but its own, so slugs that occur more than once make
no difference.  Where asking the program of a page breaks down, the run ends at its place, and
the places before it are accounted for.

A directory without places is an exception to "one status for each page that was had".
There the search shows once more how it stands, with no page had at all.
-/
import Mathlib.Data.List.TakeWhile
import PageGrep.Proofs.Search.Ledger
import PageGrep.Source.Site

namespace PageGrep

/-! ## Places -/

/-- The places that a source lists, none if it has no directory to give. -/
def Source.refs (source : Source) : List PageRef :=
  match source.directory with
  | .error _ => []
  | .ok directory => directory.refs

/-- The text that the slug of a member of a sitemap stands for. -/
def Json.slugText (place : Json) : String := (place.textField? "slug").getD ""

/-- Whether a member of a sitemap names a page: it is an object, and its slug stands for
some text. -/
def Json.namesPage (place : Json) : Bool :=
  match place with
  | .obj _ => place.slugText != ""
  | _ => false

theorem ofJson_obj (fields : Payload) :
    PageRef.ofJson (.obj fields)
      = if (Json.obj fields).slugText = "" then .error .missingSlug
        else .ok ⟨(Json.obj fields).slugText, (Json.obj fields).textField? "title",
          ((Json.obj fields).field "date").int?⟩ := by
  simp only [PageRef.ofJson]
  split
  · rename_i h
    exact (if_pos h).symm
  · rename_i h
    exact (if_neg h).symm

theorem slug_ofJson (place : Json) :
    (PageRef.ofJson place).toOption.map PageRef.slug
      = if place.namesPage then some place.slugText else none := by
  match place with
  | .null | .bool _ | .int _ | .float _ | .str _ | .arr _ => rfl
  | .obj fields =>
      rw [ofJson_obj]
      by_cases h : (Json.obj fields).slugText = "" <;>
        simp [h, Json.namesPage, Except.toOption]

theorem slugs_of_places (places : List Json) :
    (Directory.refs (places.map PageRef.ofJson)).map PageRef.slug
      = (places.filter Json.namesPage).map Json.slugText := by
  rw [Directory.refs, List.filterMap_map, List.map_filterMap, ← List.filterMap_eq_map,
    List.filterMap_filter]
  exact congrArg (List.filterMap · places) (funext slug_ofJson)

/-! ## What a place brings -/

/-- Whether the program holds of the page of a place, if it can be had. -/
def Search.answer? (search : Search) (source : Source) (program : Program) (ref : PageRef) :
    Option Bool :=
  match source.page ref.slug with
  | .error _ => none
  | .ok page => (matchPage page program search.chained).toOption

/-- The hit on a place: its page can be had, and the program holds of it. -/
def Search.hit? (search : Search) (source : Source) (program : Program) (ref : PageRef) :
    Option Hit :=
  match source.page ref.slug with
  | .error _ => none
  | .ok page =>
    match matchPage page program search.chained with
    | .ok true => some ⟨ref.slug, page.title, page.story.length⟩
    | _ => none

/-- Whether the pages of a source have the slugs under which they are kept. -/
def Source.KeepsSlugs (source : Source) : Prop :=
  ∀ slug page, source.page slug = .ok page → page.slug = slug

theorem slug_of_ofJson_eq_ok {slug : String} {value : Json} {page : Page}
    (h : Page.ofJson slug value = .ok page) : page.slug = slug := by
  match value, h with
  | .obj _, h =>
      cases h
      rfl

theorem keepsSlugs_sourceOf (directory : Except SourceError Json)
    (answers : String → Except SourceError Json) :
    (Site.sourceOf directory answers).KeepsSlugs := by
  intro slug page h
  simp only [Site.sourceOf, Site.readPage] at h
  cases hanswer : answers slug with
  | error error =>
      rw [hanswer] at h
      cases h
  | ok value =>
      rw [hanswer] at h
      have hread : (Page.ofJson slug value).mapError SourceError.malformed = .ok page := h
      cases hpage : Page.ofJson slug value with
      | error fault =>
          rw [hpage] at hread
          cases hread
      | ok page' =>
          rw [hpage] at hread
          cases hread
          exact slug_of_ofJson_eq_ok hpage

section Outcomes

variable (search : Search) {source : Source} (program : Program)

theorem matched?_outcome (ref : PageRef) :
    (search.outcome source program ref).matched? = search.answer? source program ref := by
  unfold Search.outcome Search.answer?
  cases source.page ref.slug with
  | error _ => rfl
  | ok page =>
      dsimp only
      cases matchPage page program search.chained <;> rfl

theorem hit?_outcome (hslugs : source.KeepsSlugs) (ref : PageRef) :
    (search.outcome source program ref).hit? = search.hit? source program ref := by
  unfold Search.outcome Search.hit?
  cases hpage : source.page ref.slug with
  | error _ => rfl
  | ok page =>
      have hslug : page.slug = ref.slug := hslugs _ _ hpage
      dsimp only
      match matchPage page program search.chained with
      | .error _ | .ok false => rfl
      | .ok true => simp [Outcome.hit?, Page.hit, hslug]

theorem broken?_outcome_eq_none_iff (ref : PageRef) :
    (search.outcome source program ref).broken? = none ↔
      ∀ page, source.page ref.slug = .ok page →
        ∃ b, matchPage page program search.chained = .ok b := by
  unfold Search.outcome
  cases source.page ref.slug with
  | error _ => exact ⟨fun _ => nofun, fun _ => rfl⟩
  | ok page =>
      dsimp only
      cases hmatch : matchPage page program search.chained with
      | error e =>
          refine ⟨nofun, fun h => ?_⟩
          obtain ⟨b, hb⟩ := h page rfl
          nomatch hmatch.symm.trans hb
      | ok b =>
          refine ⟨?_, fun _ => rfl⟩
          rintro - page ⟨⟩
          exact ⟨b, hmatch⟩

end Outcomes

/-- Asking the program comes to an answer of every page that can be had. -/
def Search.Answers (search : Search) (source : Source) (program : Program)
    (refs : List PageRef) : Prop :=
  ∀ ref ∈ refs, ∀ page, source.page ref.slug = .ok page →
    ∃ b, matchPage page program search.chained = .ok b

section Answers

variable {search : Search} {source : Source} {program : Program} {refs : List PageRef}

theorem breakdown?_eq_none_iff :
    search.breakdown? source program refs = none ↔ search.Answers source program refs := by
  rw [Search.breakdown?, List.findSome?_eq_none_iff]
  exact forall₂_congr fun ref _ => broken?_outcome_eq_none_iff search program ref

theorem Search.Answers.reached (h : search.Answers source program refs) :
    search.reached source program refs = refs := by
  rw [Search.reached, List.takeWhile_eq_self_iff]
  intro ref href
  rw [(broken?_outcome_eq_none_iff search program ref).mpr (h ref href)]
  rfl

theorem Search.Answers.perm {order : List PageRef} (h : search.Answers source program refs)
    (horder : order.Perm refs) : search.Answers source program order :=
  fun ref href => h ref (horder.mem_iff.mp href)

theorem length_reached_le (search : Search) (source : Source) (program : Program)
    (refs : List PageRef) : (search.reached source program refs).length ≤ refs.length :=
  (List.takeWhile_prefix _).length_le

end Answers

/-! ## The run around the ledger -/

/-- The events of a run: the opening, some records, what is shown of the places, and records
again. -/
def framed (notes : List Record) (middle : List Event) (ends : List Record) : List Event :=
  .status Search.opening :: notes.map .log ++ middle ++ ends.map .log

theorem filterMap_log {α : Type} {view : Event → Option α}
    (h : ∀ record, view (.log record) = none) (records : List Record) :
    (records.map Event.log).filterMap view = [] := by
  rw [List.filterMap_map]
  exact List.filterMap_eq_nil_iff.mpr fun record _ => h record

section Framed

variable {notes ends : List Record} {middle : List Event}

theorem hits_framed :
    (framed notes middle ends).filterMap Event.hit? = middle.filterMap Event.hit? := by
  have hnone (record : Record) : Event.hit? (.log record) = none := rfl
  rw [framed, List.filterMap_append, List.filterMap_append, List.filterMap_cons_none rfl,
    filterMap_log hnone, filterMap_log hnone, List.nil_append, List.append_nil]

theorem statuses_framed :
    (framed notes middle ends).filterMap Event.status?
      = Search.opening :: middle.filterMap Event.status? := by
  have hnone (record : Record) : Event.status? (.log record) = none := rfl
  have hopening : Event.status? (.status Search.opening) = some Search.opening := rfl
  rw [framed, List.filterMap_append, List.filterMap_append, List.filterMap_cons_some hopening,
    filterMap_log hnone, filterMap_log hnone, List.append_nil, List.singleton_append]

/-- An event that is no record comes of a place, unless it is the opening. -/
theorem framed_split {pre post : List Event} {e : Event} (hlog : ∀ record, e ≠ .log record)
    (hpre : pre ≠ []) (h : framed notes middle ends = pre ++ e :: post) :
    ∃ pre' post', pre = framed notes pre' [] ∧
      middle = pre' ++ e :: post' ∧ post = post' ++ ends.map .log := by
  have hrecords (records : List Record) : e ∉ records.map Event.log := by
    intro hmem
    obtain ⟨record, -, heq⟩ := List.mem_map.mp hmem
    exact hlog record heq.symm
  rcases append_eq_append_cons h with ⟨pre', -, hends⟩ | ⟨post', hfirst, rfl⟩
  · exact absurd (hends ▸ List.mem_append_cons_self) (hrecords ends)
  · rcases append_eq_append_cons hfirst with ⟨pre', rfl, hmiddle⟩ | ⟨post'', hnotes, -⟩
    · exact ⟨pre', post', (List.append_nil _).symm, hmiddle, rfl⟩
    · obtain ⟨_, rest, rfl⟩ := List.exists_cons_of_ne_nil hpre
      have hrest : notes.map Event.log = rest ++ e :: post'' := (List.cons.inj hnotes).2
      exact absurd (hrest ▸ List.mem_append_cons_self) (hrecords notes)

end Framed

section Run

variable (search : Search) {source : Source} (program : Program)
variable (arrange : List PageRef → List PageRef)

theorem run_of_no_refs (h : source.refs = []) :
    search.run source program arrange none
      = match source.directory with
        | .error error => { events := [.status Search.opening], error? := some (.source error) }
        | .ok directory =>
          { events := framed (Note.skips directory ++ [Note.listed source 0])
              [.status (statusText 0 0 0)] [] } := by
  unfold Search.run
  cases hdirectory : source.directory with
  | error _ => rfl
  | ok directory =>
      have hrefs : directory.refs = [] := by simpa [Source.refs, hdirectory] using h
      simp [hrefs, Search.overPlaces, framed]

/-- Whatever the token, a run over places is its loop between records, none of them a
warning. -/
theorem run_of_places (hworkers : 1 ≤ search.maxWorkers) (h : source.refs ≠ []) :
    ∃ notes, (∀ record ∈ notes, record.level ≠ .warning) ∧ ∀ cancelAfter,
      ∃ ends, (∀ record ∈ ends, record.level ≠ .warning) ∧
        search.run source program arrange cancelAfter
          = { events := framed notes (search.visitAll source program cancelAfter
                source.refs.length {} (arrange source.refs)).events ends
              error? := (search.visitAll source program cancelAfter
                source.refs.length {} (arrange source.refs)).error?.map .pattern } := by
  unfold Search.run
  cases hdirectory : source.directory with
  | error _ => simp [Source.refs, hdirectory] at h
  | ok directory =>
      have hplaces : source.refs = directory.refs := by simp [Source.refs, hdirectory]
      have htotal : ¬ (directory.refs.length == 0) = true := by
        rw [← hplaces]
        simpa using h
      have hsome : ¬ search.maxWorkers ≤ 0 := by omega
      refine ⟨Note.skips directory ++ [Note.listed source directory.refs.length], ?_, ?_⟩
      · intro record hmem
        rcases List.mem_append.mp hmem with hskip | hlisted
        · obtain ⟨_, -, rfl⟩ := List.mem_map.mp hskip
          nofun
        · rw [List.mem_singleton.mp hlisted]
          nofun
      · intro cancelAfter
        simp only [hplaces, Search.overPlaces, if_neg htotal, if_neg hsome]
        cases (search.visitAll source program cancelAfter directory.refs.length {}
          (arrange directory.refs)).error? with
        | some error =>
            exact ⟨[], by simp, by rw [framed, List.map_nil, List.append_nil]; rfl⟩
        | none =>
            refine ⟨[Note.finished _ _], ?_, by rw [framed, List.append_assoc]; rfl⟩
            intro record hmem
            rw [List.mem_singleton.mp hmem]
            rintro ⟨⟩

/-- With places the run shows the ledger of their outcomes, as far as it comes. -/
theorem run_of_refs (hworkers : 1 ≤ search.maxWorkers) (h : source.refs ≠ []) :
    ∃ notes ends, search.run source program arrange none
      = { events := framed notes (ledger source.refs.length {}
            ((search.reached source program (arrange source.refs)).map
              (search.outcome source program))) ends
          error? := (search.breakdown? source program (arrange source.refs)).map .pattern } := by
  obtain ⟨notes, -, hrun⟩ := run_of_places search program arrange hworkers h
  obtain ⟨ends, -, hevents⟩ := hrun none
  exact ⟨notes, ends, by rw [hevents, visitAll_none]⟩

theorem outcomes_matched? (refs : List PageRef) :
    (refs.map (search.outcome source program)).filterMap Outcome.matched?
      = refs.filterMap (search.answer? source program) := by
  rw [List.filterMap_map]
  exact congrArg (List.filterMap · refs) (funext (matched?_outcome search program))

theorem outcomes_hit? (hslugs : source.KeepsSlugs) (refs : List PageRef) :
    (refs.map (search.outcome source program)).filterMap Outcome.hit?
      = refs.filterMap (search.hit? source program) := by
  rw [List.filterMap_map]
  exact congrArg (List.filterMap · refs) (funext (hit?_outcome search program hslugs))

end Run

/-! ## Every place is accounted for -/

/-- The status that tells a tally, but for how many pages remain. -/
def Tally.short (t : Tally) : String :=
  "found " ++ toString (t.found : Int) ++ " pages of " ++ toString (t.checked : Int) ++ " checked"

theorem text_eq_short_iff {total : Nat} {t : Tally} (h : t.checked ≤ total) :
    t.text total = t.short ↔ t.checked = total := by
  have htext : t.text total = t.short ++ if (t.checked : Int) < total
      then ", " ++ toString ((total : Int) - t.checked) ++ " remain" else "" := rfl
  rw [htext]
  split
  · rename_i hlt
    constructor
    · intro heq
      have hlength := congrArg String.length heq
      simp only [String.length_append] at hlength
      have htwo : ", ".length = 2 := rfl
      omega
    · intro heq
      omega
  · rename_i hge
    exact ⟨fun _ => by omega, fun _ => String.append_empty⟩

/-- How a run over some of a number of places accounts for each of them. -/
structure Search.Accounts (search : Search) (source : Source) (program : Program) (total : Nat)
    (order : List PageRef) (run : Run) : Prop where
  /-- Between what is shown at the opening and at the end, each place has its turn, and what
  is shown then is its failure, or the status after it with its hit right before. -/
  events : ∃ notes ends, run.events = framed notes
    (order.zipIdx.flatMap fun (ref, i) => (search.outcome source program ref).shown total
      (Tally.after {} ((order.take (i + 1)).map (search.outcome source program)))) ends
  /-- The hits are those on the places, in order. -/
  hits : run.hits = order.filterMap (search.hit? source program)
  /-- There is one status for each page that was had, and the `k`-th tells how many of the
  first `k` pages match. -/
  statuses : run.statuses
    = Search.opening :: progress total {} (order.filterMap (search.answer? source program))
  /-- After the opening a status tells the hits before it and the pages so far, itself
  counted. -/
  standing : ∀ pre text post, run.events = pre ++ .status text :: post → pre ≠ [] →
    ∃ t : Tally, t.found = (pre.filterMap Event.hit?).length ∧
      t.checked = (pre.filterMap Event.status?).length ∧
      t.found ≤ t.checked ∧ t.checked ≤ total ∧ text = t.text total ∧
      (text = t.short ↔ t.checked = total)
  /-- A status comes right after a hit. -/
  paired : ∀ pre hit post, run.events = pre ++ .hit hit :: post →
    ∃ text rest, post = .status text :: rest

/-- What is shown of the places, each in its turn, between some records is an account. -/
theorem accounts_of_framed {search : Search} {source : Source} {program : Program} {total : Nat}
    {order : List PageRef} {run : Run} (hslugs : source.KeepsSlugs)
    (htotal : order.length ≤ total) {notes ends : List Record}
    (h : run.events = framed notes
      (ledger total {} (order.map (search.outcome source program))) ends) :
    search.Accounts source program total order run where
  events := by
    refine ⟨notes, ends, ?_⟩
    rw [h, ledger_eq_flatMap, List.zipIdx_map, List.flatMap_map]
    simp only [List.map_take, Prod.map]
    rfl
  hits := by rw [Run.hits, h, hits_framed, hits_ledger, outcomes_hit? search program hslugs]
  statuses := by rw [Run.statuses, h, statuses_framed, statuses_ledger, outcomes_matched?]
  standing := by
    intro pre text post hsplit hpre
    obtain ⟨pre', post', rfl, hmiddle, -⟩ :=
      framed_split (by nofun) hpre (h.symm.trans hsplit)
    obtain ⟨htext, hle⟩ := ledger_status hmiddle
    rw [hits_framed, statuses_framed, List.length_cons]
    have hindex := ledger_status_index hmiddle
    rw [List.length_map] at hindex
    have hchecked : (pre'.filterMap Event.status?).length + 1 ≤ total :=
      Nat.le_trans hindex htotal
    rw [Nat.zero_add, Nat.zero_add] at htext
    subst htext
    exact ⟨_, rfl, rfl, hle, hchecked, rfl, text_eq_short_iff hchecked⟩
  paired := by
    intro pre hit post hsplit
    have hpre : pre ≠ [] := by
      rintro rfl
      rw [h] at hsplit
      exact nomatch (List.cons.inj hsplit).1
    obtain ⟨pre', post', -, hmiddle, rfl⟩ :=
      framed_split (by nofun) hpre (h.symm.trans hsplit)
    obtain ⟨text, rest, rfl⟩ := ledger_hit hmiddle
    exact ⟨text, rest ++ ends.map .log, rfl⟩

theorem accounts_run (search : Search) (program : Program) {source : Source}
    {arrange : List PageRef → List PageRef} (hslugs : source.KeepsSlugs)
    (hworkers : 1 ≤ search.maxWorkers) (horder : (arrange source.refs).Perm source.refs)
    (hrefs : source.refs ≠ []) :
    search.Accounts source program source.refs.length
      (search.reached source program (arrange source.refs))
      (search.run source program arrange none) := by
  obtain ⟨notes, ends, hrun⟩ := run_of_refs search program arrange hworkers hrefs
  have htotal : (search.reached source program (arrange source.refs)).length
      ≤ source.refs.length := horder.length_eq ▸ length_reached_le search source program _
  exact accounts_of_framed hslugs htotal (by rw [hrun])

/-- **A search accounts for every place of its sitemap, in whatever order the pages come**,
unless asking the program of a page breaks down, and then for every place before that.  The
places are the members of the sitemap that name a page.  Without any, the search shows no hit,
and once how it stands. -/
theorem run_accounts (search : Search) (program : Program) {source : Source} {places : List Json}
    {answers : String → Except SourceError Json} {arrange : List PageRef → List PageRef}
    (hsource : source = Site.sourceOf (.ok (.arr places)) answers)
    (hworkers : 1 ≤ search.maxWorkers) (horder : (arrange source.refs).Perm source.refs) :
    ((search.run source program arrange none).error? = none ↔
      search.Answers source program source.refs) ∧
      source.refs.map PageRef.slug = (places.filter Json.namesPage).map Json.slugText ∧
      (source.refs = [] →
        (search.run source program arrange none).hits = [] ∧
          (search.run source program arrange none).statuses
            = [Search.opening, statusText 0 0 0]) ∧
      (source.refs ≠ [] →
        search.Accounts source program source.refs.length
          (search.reached source program (arrange source.refs))
          (search.run source program arrange none)) ∧
      (search.Answers source program source.refs →
        search.reached source program (arrange source.refs) = arrange source.refs) := by
  have hslugs : source.KeepsSlugs := hsource ▸ keepsSlugs_sourceOf _ _
  have hdirectory : source.directory = .ok (places.map PageRef.ofJson) := by rw [hsource]; rfl
  have hplaces : source.refs = Directory.refs (places.map PageRef.ofJson) := by
    rw [Source.refs, hdirectory]
  have hread : source.refs.map PageRef.slug = (places.filter Json.namesPage).map Json.slugText :=
    hplaces ▸ slugs_of_places places
  have hreached (h : search.Answers source program source.refs) := (h.perm horder).reached
  by_cases hrefs : source.refs = []
  · have hrun := run_of_no_refs search program arrange hrefs
    rw [hdirectory] at hrun
    refine ⟨?_, hread, fun _ => ?_, fun hsome => absurd hrefs hsome, hreached⟩
    · rw [hrun, hrefs]
      exact ⟨fun _ => nofun, fun _ => rfl⟩
    · rw [hrun, Run.hits, Run.statuses, hits_framed, statuses_framed]
      exact ⟨rfl, rfl⟩
  · obtain ⟨_, _, hrun⟩ := run_of_refs search program arrange hworkers hrefs
    refine ⟨?_, hread, fun hnone => absurd hnone hrefs,
      accounts_run search program hslugs hworkers horder, hreached⟩
    rw [hrun, Option.map_eq_none_iff, breakdown?_eq_none_iff]
    exact ⟨fun h => h.perm horder.symm, fun h => h.perm horder⟩

/-- A slug that occurs twice, with a failure between, read from the last place to the first. -/
theorem run_accounts_repeated_slug :
    let place (slug : String) : Json := .obj [("slug", .str slug)]
    let places := [place "a", .null, place "b", place "a"]
    let answers (slug : String) : Except SourceError Json :=
      if slug == "a" then .ok (.obj [("story", .arr [.obj [("type", .str "quote")]])])
      else .error (.trouble .timeout "timed out")
    let source := Site.sourceOf (.ok (.arr places)) answers
    let search : Search := { maxWorkers := 2 }
    let program : Program := [.select .story "quote"]
    1 ≤ search.maxWorkers ∧ source.refs.reverse.Perm source.refs ∧
      search.Answers source program source.refs ∧
      search.Accounts source program 3 source.refs.reverse
        (search.run source program List.reverse none) ∧
      source.refs.map PageRef.slug = ["a", "b", "a"] ∧
      (search.run source program List.reverse none).hits = [⟨"a", "a", 1⟩, ⟨"a", "a", 1⟩] := by
  intro place places answers source search program
  have hworkers : 1 ≤ search.maxWorkers := by decide
  have horder : source.refs.reverse.Perm source.refs := List.reverse_perm _
  obtain ⟨hends, hread, -, hsome, hreached⟩ := run_accounts search program rfl hworkers horder
  have hanswers : search.Answers source program source.refs := hends.mp (by decide)
  have haccounts := hsome (by decide)
  rw [hreached hanswers] at haccounts
  have hhits : source.refs.reverse.filterMap (search.hit? source program)
      = [⟨"a", "a", 1⟩, ⟨"a", "a", 1⟩] := by decide
  exact ⟨hworkers, horder, hanswers, haccounts, hread.trans (by decide),
    haccounts.hits.trans hhits⟩

/-- Without places there is a status although no page was had, so the statuses after the
opening are not one for each page that was. -/
theorem empty_directory_shows_how_it_stands :
    ¬ ∀ (search : Search) (program : Program) (source : Source) (places : List Json)
      (answers : String → Except SourceError Json) (arrange : List PageRef → List PageRef),
      source = Site.sourceOf (.ok (.arr places)) answers → 1 ≤ search.maxWorkers →
        (arrange source.refs).Perm source.refs →
        (search.run source program arrange none).statuses.length
          = 1 + ((arrange source.refs).filterMap (search.answer? source program)).length := by
  intro hone
  have hempty :=
    hone {} [] _ [] (fun slug => .error (.trouble .other slug)) id rfl (by decide) (.refl _)
  revert hempty
  decide

end PageGrep
