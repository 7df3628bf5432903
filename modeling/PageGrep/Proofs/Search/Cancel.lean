/-
# Cancelling a search

A search looks at its token only between two pages, so what it shows of one page is never
cut in two: a hit and the status after it are shown both or not at all.  Cancelled right
after its `n`-th status, a search tells what it would have told otherwise, up to that
status and no further (`throughStatus`).  Cancelled before it starts, it still says that it
fetches the sitemap, as if it were cancelled right after that.

Compared is what a search *tells* (`Event.isTold`): its statuses, its hits and the warnings
of pages that cannot be had.  What else stands in the log (the members of the sitemap left
out, the counts at the end, that the search was cancelled at all) may differ.

As in `PageGrep.Proofs.Search.Ledger`, the induction over the places is for any tally.
Nothing is asked of the order in which the pages come.
-/
import PageGrep.Proofs.Search.Account

namespace PageGrep

/-! ## What is told -/

/-- Whether an event is a status, a hit or a warning. -/
def Event.isTold : Event → Bool
  | status _ | hit _ => true
  | log record => record.level == .warning

/-- What a run tells. -/
def Run.told (run : Run) : List Event := run.events.filter Event.isTold

/-- The events up to the `n`-th status, with it; all of them if there are fewer. -/
def throughStatus : (n : Nat) → List Event → List Event
  | 0, _ => []
  | _ + 1, [] => []
  | n + 1, .status text :: rest => .status text :: throughStatus n rest
  | n + 1, e :: rest => e :: throughStatus (n + 1) rest

theorem throughStatus_nil (n : Nat) : throughStatus n [] = [] := by
  cases n <;> rfl

theorem throughStatus_eq_self {n : Nat} {events : List Event}
    (h : (events.filterMap Event.status?).length < n) : throughStatus n events = events := by
  induction events generalizing n with
  | nil => exact throughStatus_nil n
  | cons e rest ih =>
      obtain ⟨n, rfl⟩ : ∃ m, n = m + 1 := ⟨n - 1, by omega⟩
      match e with
      | .status text =>
          rw [List.filterMap_cons_some (rfl : Event.status? (.status text) = some text),
            List.length_cons] at h
          rw [throughStatus, ih (by omega)]
      | .hit _ | .log _ =>
          rw [List.filterMap_cons_none rfl] at h
          rw [throughStatus]
          · rw [ih h]
          · nofun

theorem lt_of_throughStatus_eq {n : Nat} {events pre post : List Event} {e : Event}
    (h : throughStatus n events = pre ++ e :: post) :
    (pre.filterMap Event.status?).length < n := by
  induction events generalizing n pre with
  | nil => simp [throughStatus_nil] at h
  | cons first rest ih =>
      match n, first, pre with
      | 0, _, _ => simp [throughStatus] at h
      | n + 1, _, [] => exact Nat.succ_pos n
      | n + 1, .status text, p :: pre =>
          rw [throughStatus] at h
          obtain ⟨rfl, hrest⟩ := List.cons.inj h
          have hless := ih hrest
          rw [List.filterMap_cons_some (rfl : Event.status? (.status text) = some text),
            List.length_cons]
          omega
      | n + 1, .hit _, p :: pre | n + 1, .log _, p :: pre =>
          rw [throughStatus] at h
          · obtain ⟨rfl, hrest⟩ := List.cons.inj h
            rw [List.filterMap_cons_none rfl]
            exact ih hrest
          · nofun

theorem statuses_told (events : List Event) :
    (events.filter Event.isTold).filterMap Event.status? = events.filterMap Event.status? := by
  rw [List.filterMap_filter]
  refine congrArg (List.filterMap · events) (funext fun e => ?_)
  match e with
  | .status _ | .hit _ => rfl
  | .log _ => exact ite_self none

/-! ## The loop -/

theorem statuses_count (t : Tally) (o : Outcome) :
    (o.count t).statuses = t.statuses + o.matched?.toList.length := by
  rw [count_eq, Tally.statuses, Tally.statuses, Nat.add_right_comm]

/-- What is shown of one outcome is told in one piece: its status, if it has one, is the
last of it. -/
theorem throughStatus_shown (n total : Nat) (t : Tally) (o : Outcome) (rest : List Event) :
    throughStatus (n + 1) ((o.shown total t).filter Event.isTold ++ rest)
      = (o.shown total t).filter Event.isTold
        ++ throughStatus (n + 1 - o.matched?.toList.length) rest := by
  match o with
  | .failed _ _ | .checked _ true | .checked _ false | .broken _ => rfl

/-- The loop of a search that is cancelled tells the ledger as far as the status after
which it is. -/
theorem told_visitAll_some (search : Search) (source : Source) (program : Program)
    (n total : Nat) (t : Tally) (refs : List PageRef) :
    (search.visitAll source program (some n) total t refs).events.filter Event.isTold
      = throughStatus (n - t.statuses) ((ledger total t
          ((search.reached source program refs).map (search.outcome source program))).filter
            Event.isTold) := by
  induction refs generalizing t with
  | nil => exact (throughStatus_nil _).symm
  | cons ref rest ih =>
      by_cases hcut : n ≤ t.statuses
      · have hcancelled : t.isCancelled (some n) = true := decide_eq_true hcut
        rw [Search.visitAll, if_pos hcancelled, Nat.sub_eq_zero_of_le hcut, throughStatus]
        rfl
      · have hgoes : ¬ t.isCancelled (some n) = true := by simpa [Tally.isCancelled] using hcut
        obtain ⟨k, hk⟩ : ∃ k, n - t.statuses = k + 1 := ⟨n - t.statuses - 1, by omega⟩
        rw [Search.visitAll, if_neg hgoes, visit_eq, Search.reached, List.takeWhile_cons]
        cases (search.outcome source program ref).broken? with
        | some error => exact (throughStatus_nil _).symm
        | none =>
            rw [Search.reached] at ih
            simp only [List.filter_append, ih, Option.isNone_none, if_true, List.map_cons, ledger,
              hk, throughStatus_shown, statuses_count, ← Nat.sub_sub]

/-- A search that is cancelled breaks down on nothing else than it would have otherwise. -/
theorem error?_visitAll (search : Search) (source : Source) (program : Program)
    (cancelAfter : Option Nat) (total : Nat) (t : Tally) (refs : List PageRef)
    {error : Pattern.Breakdown}
    (h : (search.visitAll source program cancelAfter total t refs).error? = some error) :
    search.breakdown? source program refs = some error := by
  induction refs generalizing t with
  | nil => nomatch h
  | cons ref rest ih =>
      rw [Search.visitAll] at h
      split at h
      · cases h
      · rw [visit_eq] at h
        rw [Search.breakdown?, List.findSome?_cons]
        revert h
        cases (search.outcome source program ref).broken? with
        | some error' => exact id
        | none => exact ih _

/-! ## The run -/

theorem told_framed {notes ends : List Record} (middle : List Event)
    (hnotes : ∀ record ∈ notes, record.level ≠ .warning)
    (hends : ∀ record ∈ ends, record.level ≠ .warning) :
    (framed notes middle ends).filter Event.isTold
      = .status Search.opening :: middle.filter Event.isTold := by
  have hnone {records : List Record} (h : ∀ record ∈ records, record.level ≠ .warning) :
      (records.map Event.log).filter Event.isTold = [] := by
    rw [List.filter_map, List.map_eq_nil_iff, List.filter_eq_nil_iff]
    intro record hmem
    simpa [Event.isTold] using h record hmem
  rw [framed, List.filter_append, List.filter_append, hnone hends,
    List.filter_cons_of_pos rfl, hnone hnotes, List.append_nil, List.singleton_append]

theorem failed_of_mem_ledger {total : Nat} {t : Tally} {outcomes : List Outcome}
    {record : Record} (hmem : .log record ∈ ledger total t outcomes)
    (hwarning : record.level = .warning) :
    ∃ slug error, .failed slug error ∈ outcomes ∧ record = Note.failed slug error := by
  induction outcomes generalizing t with
  | nil => nomatch hmem
  | cons o rest ih =>
      rcases List.mem_append.mp hmem with hshown | hrest
      · cases o with
        | failed slug error =>
            refine ⟨slug, error, List.mem_cons_self, ?_⟩
            simpa [Outcome.shown] using hshown
        | checked page found =>
            cases found with
            | true =>
                have hmatched : record = Note.matched page.slug := by
                  simpa [Outcome.shown] using hshown
                rw [hmatched] at hwarning
                exact absurd hwarning (by simp [Note.matched])
            | false => simp [Outcome.shown] at hshown
        | broken error => simp [Outcome.shown] at hshown
      · obtain ⟨slug, error, hfailed, heq⟩ := ih hrest
        exact ⟨slug, error, List.mem_cons_of_mem _ hfailed, heq⟩

section Run

variable (search : Search) (program : Program) {source : Source}
  (arrange : List PageRef → List PageRef) (hworkers : 1 ≤ search.maxWorkers)
  (hrefs : source.refs ≠ [])

include hworkers hrefs

theorem told_run (cancelAfter : Option Nat) :
    (search.run source program arrange cancelAfter).told
      = .status Search.opening :: (search.visitAll source program cancelAfter
          source.refs.length {} (arrange source.refs)).events.filter Event.isTold := by
  obtain ⟨_, hnotes, hrun⟩ := run_of_places search program arrange hworkers hrefs
  obtain ⟨_, hends, hevents⟩ := hrun cancelAfter
  rw [Run.told, hevents, told_framed _ hnotes hends]

theorem told_run_some (n : Nat) :
    (search.run source program arrange (some n)).told
      = throughStatus (max n 1) (search.run source program arrange none).told := by
  obtain ⟨k, hk⟩ : ∃ k, max n 1 = k + 1 := ⟨max n 1 - 1, by omega⟩
  have hfirst : n - Tally.statuses {} = k := by
    have hone : Tally.statuses {} = 1 := rfl
    omega
  have hnone := told_run search program arrange hworkers hrefs none
  rw [visitAll_none] at hnone
  rw [hnone, told_run search program arrange hworkers hrefs (some n), told_visitAll_some, hk,
    hfirst, throughStatus]

theorem opening_of_told {n : Nat} {pre post : List Event} {e : Event}
    (hsplit : (search.run source program arrange (some n)).events = pre ++ e :: post)
    (htold : e.isTold = true) (hset : n ≤ (pre.filterMap Event.status?).length) :
    n = 0 ∧ pre = [] ∧ e = .status Search.opening := by
  have hcut : throughStatus (max n 1) (search.run source program arrange none).told
      = pre.filter Event.isTold ++ e :: post.filter Event.isTold := by
    rw [← told_run_some search program arrange hworkers hrefs, Run.told, hsplit,
      List.filter_append, List.filter_cons_of_pos htold]
  have hearly := lt_of_throughStatus_eq hcut
  rw [statuses_told] at hearly
  obtain ⟨_, _, hrun⟩ := run_of_places search program arrange hworkers hrefs
  obtain ⟨_, -, hevents⟩ := hrun (some n)
  rw [hevents] at hsplit
  match pre with
  | [] => exact ⟨by simpa using hset, rfl, (List.cons.inj hsplit).1.symm⟩
  | first :: pre =>
      obtain ⟨rfl, -⟩ := List.cons.inj hsplit
      rw [List.filterMap_cons_some (rfl : Event.status? (.status Search.opening) = some _),
        List.length_cons] at hearly hset
      omega

theorem failed_of_told {record : Record}
    (hmem : .log record ∈ (search.run source program arrange none).told) :
    ∃ ref ∈ arrange source.refs, ∃ error, source.page ref.slug = .error error ∧
      record = Note.failed ref.slug error := by
  rw [told_run search program arrange hworkers hrefs none, visitAll_none] at hmem
  obtain ⟨hledger, hwarning⟩ := List.mem_filter.mp ((List.mem_cons.mp hmem).resolve_left nofun)
  obtain ⟨slug, error, hfailed, heq⟩ :=
    failed_of_mem_ledger hledger (by simpa [Event.isTold] using hwarning)
  obtain ⟨ref, hreached, houtcome⟩ := List.mem_map.mp hfailed
  have href : ref ∈ arrange source.refs := (List.takeWhile_prefix _).mem hreached
  unfold Search.outcome at houtcome
  cases hpage : source.page ref.slug with
  | error error' =>
      rw [hpage] at houtcome
      obtain ⟨rfl, rfl⟩ := Outcome.failed.inj houtcome
      exact ⟨ref, href, error', hpage, heq⟩
  | ok page =>
      rw [hpage] at houtcome
      dsimp only at houtcome
      split at houtcome <;> nomatch houtcome

/-- A run over places fails only where looking for a pattern breaks down, and not elsewhere than
it would if it were not cancelled. -/
theorem error_of_run_of_places {cancelAfter : Option Nat} {error : SearchError}
    (h : (search.run source program arrange cancelAfter).error? = some error) :
    (search.run source program arrange none).error? = some error ∧ ∃ e, error = .pattern e := by
  obtain ⟨_, -, hrun⟩ := run_of_places search program arrange hworkers hrefs
  obtain ⟨_, -, hevents⟩ := hrun cancelAfter
  obtain ⟨_, -, hnone⟩ := hrun none
  rw [hevents, Option.map_eq_some_iff] at h
  obtain ⟨e, hbroken, rfl⟩ := h
  rw [hnone, visitAll_none, error?_visitAll search source program _ _ _ _ hbroken]
  exact ⟨rfl, e, rfl⟩

end Run

/-- **Cancelling a search cuts what it tells right after a status.** -/
theorem run_cancelled (search : Search) (program : Program) {source : Source}
    (arrange : List PageRef → List PageRef) (hworkers : 1 ≤ search.maxWorkers)
    (hrefs : source.refs ≠ []) :
    (∀ cancelAfter error, (search.run source program arrange cancelAfter).error? = some error →
      (search.run source program arrange none).error? = some error ∧
        ∃ e, error = .pattern e) ∧
    (∀ n, 1 ≤ n →
      (search.run source program arrange (some n)).told
          = throughStatus n (search.run source program arrange none).told ∧
        ((search.run source program arrange none).statuses.length < n →
          (search.run source program arrange (some n)).told
            = (search.run source program arrange none).told)) ∧
    (search.run source program arrange (some 0)).told
      = (search.run source program arrange (some 1)).told ∧
    (∀ n pre e post, (search.run source program arrange (some n)).events = pre ++ e :: post →
      e.isTold = true → n ≤ (pre.filterMap Event.status?).length →
        n = 0 ∧ pre = [] ∧ e = .status Search.opening) ∧
    ∀ record, .log record ∈ (search.run source program arrange none).told →
      ∃ ref ∈ arrange source.refs, ∃ error, source.page ref.slug = .error error ∧
        record = Note.failed ref.slug error := by
  have hsome := told_run_some search program arrange hworkers hrefs
  refine ⟨fun _ _ => error_of_run_of_places search program arrange hworkers hrefs, ?_,
    (hsome 0).trans (hsome 1).symm, ?_, ?_⟩
  · intro n hn
    rw [hsome, Nat.max_eq_left hn]
    refine ⟨rfl, fun hfewer => throughStatus_eq_self ?_⟩
    rwa [Run.told, statuses_told]
  · intro n pre e post hsplit htold hset
    exact opening_of_told search program arrange hworkers hrefs hsplit htold hset
  · intro record hmem
    exact failed_of_told search program arrange hworkers hrefs hmem

/-- Cancelled after its second status, a search of four pages tells nothing of the last two,
a failure among them. -/
theorem run_cancelled_second_status :
    let place (slug : String) : Json := .obj [("slug", .str slug)]
    let answers (slug : String) : Except SourceError Json :=
      if slug == "a" || slug == "c" then .error (.trouble .timeout "timed out") else .ok (.obj [])
    let source :=
      Site.sourceOf (.ok (.arr [place "a", place "b", place "c", place "d"])) answers
    let warning (slug : String) : Event :=
      .log ⟨.warning, "Page fetch failed: slug=" ++ slug ++ " error=timed out"⟩
    let told : List Event :=
      [.status "fetching sitemap", warning "a", .hit ⟨"b", "b", 0⟩,
        .status "found 1 pages of 1 checked, 3 remain"]
    1 ≤ Search.maxWorkers {} ∧ source.refs ≠ [] ∧
      (Search.run {} source [] id (some 2)).told = told ∧
      (Search.run {} source [] id none).told
        = told ++ [warning "c", .hit ⟨"d", "d", 0⟩,
            .status "found 2 pages of 2 checked, 2 remain"] := by
  intro place answers source warning told
  have hworkers : 1 ≤ Search.maxWorkers {} := by decide
  have hrefs : source.refs ≠ [] := by decide
  obtain ⟨-, hcut, -, -, -⟩ := run_cancelled {} [] id hworkers hrefs
  have hwhole : (Search.run {} source [] id none).told
      = told ++ [warning "c", .hit ⟨"d", "d", 0⟩,
          .status "found 2 pages of 2 checked, 2 remain"] := by decide
  exact ⟨hworkers, hrefs, (hcut 2 (by decide)).1.trans (hwhole ▸ rfl), hwhole⟩

end PageGrep
