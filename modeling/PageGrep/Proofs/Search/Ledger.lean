/-
# The ledger of a search

A search keeps two counters and shows what it finds while it goes through the places of a
directory.  Here the two are taken apart.  Each place has an *outcome* of its own, which
depends on the page that it leads to and on nothing else (`Search.outcome`), and the
*ledger* of a list of outcomes is what a search shows of them (`ledger`).  A search that is
not cancelled shows the ledger of the outcomes of its places (`visitAll_none`), up to the
first page in which a search for a pattern breaks down (`Search.reached`); this is the
only statement that looks into the loop.  What the ledger holds is then a matter of lists:

* its hits are the hits among the outcomes, and no outcome adds to those of another
  (`hits_ledger`);
* its statuses are one for each page that was had, and the `k`-th of them tells `k` and the
  number of hits among the first `k` pages (`statuses_ledger`);
* at each status the events before it account for what it tells (`ledger_status`), and
  after a hit comes a status (`ledger_hit`).

The counters are general throughout: the ledger starts at any tally, since that is what
the induction over the places needs.
-/
import PageGrep.Search.Run

namespace PageGrep

/-! ## Outcomes -/

/-- What comes of a place. -/
inductive Outcome where
  /-- The page cannot be had. -/
  | failed (slug : String) (error : SourceError)
  /-- The page was had, and the program holds of it or not. -/
  | checked (page : Page) (matched : Bool)
  /-- Asking the program of the page breaks down. -/
  | broken (error : Pattern.Breakdown)

/-- What comes of a place of a directory. -/
def Search.outcome (search : Search) (source : Source) (program : Program) (ref : PageRef) :
    Outcome :=
  match source.page ref.slug with
  | .error error => .failed ref.slug error
  | .ok page =>
    match matchPage page program search.chained with
    | .error error => .broken error
    | .ok matched => .checked page matched

/-- The status that tells a tally. -/
def Tally.text (total : Nat) (t : Tally) : String := statusText t.found t.checked total

namespace Outcome

/-- Whether the program holds of the page, if it was had. -/
def matched? : Outcome → Option Bool
  | checked _ matched => some matched
  | _ => none

/-- The hit, if there is one. -/
def hit? : Outcome → Option Hit
  | checked page true => some page.hit
  | _ => none

/-- What broke down, if something did. -/
def broken? : Outcome → Option Pattern.Breakdown
  | broken error => some error
  | _ => none

def count (t : Tally) : Outcome → Tally
  | checked _ matched => t.count matched
  | _ => t

/-- What is shown of an outcome; `after` is the tally once it is counted. -/
def shown (total : Nat) (after : Tally) : Outcome → List Event
  | failed slug error => [.log (Note.failed slug error)]
  | checked page matched =>
    (if matched then [.log (Note.matched page.slug), .hit page.hit] else [])
      ++ [.status (after.text total)]
  | broken _ => []

end Outcome

/-- The places before the first in the page of which a search breaks down. -/
def Search.reached (search : Search) (source : Source) (program : Program)
    (refs : List PageRef) : List PageRef :=
  refs.takeWhile fun ref => (search.outcome source program ref).broken?.isNone

/-- What a search breaks down on, if it does. -/
def Search.breakdown? (search : Search) (source : Source) (program : Program)
    (refs : List PageRef) : Option Pattern.Breakdown :=
  refs.findSome? fun ref => (search.outcome source program ref).broken?

/-- The tally once some outcomes are counted: a page found for each hit, a page checked for
each page that was had. -/
def Tally.after (t : Tally) (outcomes : List Outcome) : Tally :=
  ⟨t.found + (outcomes.filterMap Outcome.hit?).length,
    t.checked + (outcomes.filterMap Outcome.matched?).length⟩

/-- What is shown of some outcomes, one after the other. -/
def ledger (total : Nat) (t : Tally) : List Outcome → List Event
  | [] => []
  | o :: rest => o.shown total (o.count t) ++ ledger total (o.count t) rest

theorem Tally.after_nil (t : Tally) : t.after [] = t := rfl

theorem Tally.after_cons (t : Tally) (o : Outcome) (rest : List Outcome) :
    t.after (o :: rest) = (o.count t).after rest := by
  match o with
  | .failed _ _ | .broken _ => rfl
  | .checked _ true | .checked _ false =>
      simp [after, Outcome.count, Tally.count, Outcome.hit?, Outcome.matched?,
        List.filterMap_cons, Nat.add_assoc, Nat.add_comm 1]

/-! ## The search shows the ledger -/

section Search

variable (search : Search) (source : Source) (program : Program) (total : Nat)

theorem visit_eq (t : Tally) (ref : PageRef) :
    search.visit source program total t ref
      = match (search.outcome source program ref).broken? with
        | some error => .error error
        | none => .ok ((search.outcome source program ref).count t,
            (search.outcome source program ref).shown total
              ((search.outcome source program ref).count t)) := by
  unfold Search.visit Search.outcome
  cases source.page ref.slug with
  | error _ => rfl
  | ok page =>
      dsimp only [Search.check]
      cases matchPage page program search.chained with
      | error _ => rfl
      | ok _ => rfl

theorem visitAll_none (t : Tally) (refs : List PageRef) :
    search.visitAll source program none total t refs
      = { tally := t.after
            ((search.reached source program refs).map (search.outcome source program))
          events := ledger total t
            ((search.reached source program refs).map (search.outcome source program))
          error? := search.breakdown? source program refs } := by
  induction refs generalizing t with
  | nil => rfl
  | cons ref rest ih =>
      have hgoes : ¬ t.isCancelled none = true := nofun
      rw [Search.visitAll, if_neg hgoes, Search.reached, Search.breakdown?, List.takeWhile_cons,
        List.findSome?_cons, visit_eq]
      cases (search.outcome source program ref).broken? with
      | some error => rfl
      | none =>
          simp only [ih, Option.isNone_none, if_true, List.map_cons, Tally.after_cons, ledger]
          rfl

end Search

/-! ## What a ledger holds -/

/-- Each outcome stands in the ledger once and in its place, with the tally of the outcomes
up to it. -/
theorem ledger_eq_flatMap (total : Nat) (t : Tally) (outcomes : List Outcome) :
    ledger total t outcomes
      = outcomes.zipIdx.flatMap fun (o, i) => o.shown total (t.after (outcomes.take (i + 1))) := by
  induction outcomes generalizing t with
  | nil => rfl
  | cons o rest ih =>
      rw [ledger, ih, List.zipIdx_cons, List.flatMap_cons, List.zipIdx_succ, List.flatMap_map]
      simp only [List.take_succ_cons, List.take_zero, Tally.after_cons, Tally.after_nil]

theorem hits_shown (total : Nat) (t : Tally) (o : Outcome) :
    (o.shown total t).filterMap Event.hit? = o.hit?.toList := by
  match o with
  | .failed _ _ | .checked _ true | .checked _ false | .broken _ => rfl

theorem hits_ledger (total : Nat) (t : Tally) (outcomes : List Outcome) :
    (ledger total t outcomes).filterMap Event.hit? = outcomes.filterMap Outcome.hit? := by
  induction outcomes generalizing t with
  | nil => rfl
  | cons o rest ih =>
      rw [ledger, List.filterMap_append, hits_shown, ih, List.filterMap_cons]
      cases o.hit? <;> rfl

/-- How a search stands after each of some pages, of which it is known whether they match. -/
def progress (total : Nat) (t : Tally) (answers : List Bool) : List String :=
  (List.range answers.length).map fun k =>
    Tally.text total ⟨t.found + (answers.take (k + 1)).count true, t.checked + (k + 1)⟩

theorem progress_cons (total : Nat) (t : Tally) (matched : Bool) (rest : List Bool) :
    progress total t (matched :: rest)
      = (t.count matched).text total :: progress total (t.count matched) rest := by
  unfold progress
  rw [List.length_cons, List.range_succ_eq_map, List.map_cons, List.map_map]
  congr 1
  · cases matched <;> rfl
  · apply List.map_congr_left
    intro k _
    simp only [Function.comp, Nat.succ_eq_add_one, List.take_succ_cons, List.count_cons]
    congr 2
    · cases matched <;> simp [Tally.count, Nat.add_assoc, Nat.add_comm 1]
    · simp only [Tally.count, Nat.add_assoc, Nat.add_comm 1]

theorem statuses_ledger (total : Nat) (t : Tally) (outcomes : List Outcome) :
    (ledger total t outcomes).filterMap Event.status?
      = progress total t (outcomes.filterMap Outcome.matched?) := by
  induction outcomes generalizing t with
  | nil => rfl
  | cons o rest ih =>
      rw [ledger, List.filterMap_append, ih]
      match o with
      | .failed _ _ | .broken _ => rfl
      | .checked _ true | .checked _ false =>
          simp only [List.filterMap_cons, Outcome.matched?, progress_cons]
          rfl

/-! ## The events before a status

Counting what stands before a status gives back what the status tells.  A place in a ledger
is a place in what is shown of one outcome, after all that is shown of those before it, so
both statements split the ledger at its first outcome. -/

theorem append_eq_append_cons {α : Type} {xs ys pre post : List α} {a : α}
    (h : xs ++ ys = pre ++ a :: post) :
    (∃ pre', pre = xs ++ pre' ∧ ys = pre' ++ a :: post) ∨
      ∃ post', xs = pre ++ a :: post' ∧ post = post' ++ ys := by
  rcases List.append_eq_append_iff.mp h with ⟨as, hpre, hys⟩ | ⟨bs, hxs, hpost⟩
  · exact .inl ⟨as, hpre, hys⟩
  · cases bs with
    | nil => exact .inl ⟨[], by simpa using hxs.symm, by simpa using hpost.symm⟩
    | cons b bs =>
        obtain ⟨rfl, rfl⟩ := List.cons.inj hpost
        exact .inr ⟨bs, hxs, rfl⟩

theorem count_eq (t : Tally) (o : Outcome) :
    o.count t = ⟨t.found + o.hit?.toList.length, t.checked + o.matched?.toList.length⟩ := by
  match o with
  | .failed _ _ | .checked _ true | .checked _ false | .broken _ => rfl

theorem statuses_shown (total : Nat) (t : Tally) (o : Outcome) :
    (o.shown total t).filterMap Event.status? = o.matched?.toList.map fun _ => t.text total := by
  match o with
  | .failed _ _ | .checked _ true | .checked _ false | .broken _ => rfl

theorem length_hit?_le_length_matched? (o : Outcome) :
    o.hit?.toList.length ≤ o.matched?.toList.length := by
  match o with
  | .failed _ _ | .broken _ => exact Nat.le_refl 0
  | .checked _ true => exact Nat.le_refl 1
  | .checked _ false => exact Nat.zero_le 1

/-- What is shown of one outcome shows its hit, if there is one, before its only status. -/
theorem shown_status {o : Outcome} {total : Nat} {t : Tally} {pre post : List Event}
    {text : String} (h : o.shown total t = pre ++ .status text :: post) :
    text = t.text total ∧ o.matched?.toList.length = 1 ∧
      pre.filterMap Event.hit? = o.hit?.toList ∧ pre.filterMap Event.status? = [] := by
  match o with
  | .failed _ _ | .broken _ =>
      rcases pre with _ | ⟨e, pre⟩ <;> simp [Outcome.shown] at h
  | .checked _ false =>
      rcases pre with _ | ⟨e, pre⟩ <;> simp [Outcome.shown] at h
      obtain ⟨rfl, rfl⟩ := h
      exact ⟨rfl, rfl, rfl, rfl⟩
  | .checked _ true =>
      rcases pre with _ | ⟨e, _ | ⟨e', _ | ⟨e'', pre⟩⟩⟩ <;> simp [Outcome.shown] at h
      obtain ⟨rfl, rfl, rfl, rfl⟩ := h
      exact ⟨rfl, rfl, rfl, rfl⟩

theorem shown_hit {o : Outcome} {total : Nat} {t : Tally} {pre post : List Event} {hit : Hit}
    (h : o.shown total t = pre ++ .hit hit :: post) : post = [.status (t.text total)] := by
  match o with
  | .failed _ _ | .checked _ false | .broken _ =>
      rcases pre with _ | ⟨e, pre⟩ <;> simp [Outcome.shown] at h
  | .checked _ true =>
      rcases pre with _ | ⟨e, _ | ⟨e', _ | ⟨e'', pre⟩⟩⟩ <;> simp [Outcome.shown] at h
      exact h.2.2.symm

/-- Each status tells the hits and the statuses before it, itself counted with the
statuses. -/
theorem ledger_status {total : Nat} {t : Tally} {outcomes : List Outcome}
    {pre post : List Event} {text : String}
    (h : ledger total t outcomes = pre ++ .status text :: post) :
    text = Tally.text total ⟨t.found + (pre.filterMap Event.hit?).length,
        t.checked + (pre.filterMap Event.status?).length + 1⟩ ∧
      (pre.filterMap Event.hit?).length ≤ (pre.filterMap Event.status?).length + 1 := by
  induction outcomes generalizing t pre with
  | nil => simp [ledger] at h
  | cons o rest ih =>
      have hone := length_hit?_le_length_matched? o
      rcases append_eq_append_cons h with ⟨pre', rfl, h'⟩ | ⟨post', h', -⟩
      · obtain ⟨htext, hle⟩ := ih h'
        simp only [htext, count_eq, List.filterMap_append, hits_shown, statuses_shown,
          List.length_append, List.length_map, Nat.add_assoc]
        exact ⟨trivial, by omega⟩
      · obtain ⟨htext, hchecked, hhits, hstatuses⟩ := shown_status h'
        rw [htext, count_eq, hhits, hstatuses, hchecked]
        exact ⟨rfl, by rwa [hchecked] at hone⟩

theorem length_progress (total : Nat) (t : Tally) (answers : List Bool) :
    (progress total t answers).length = answers.length := by
  rw [progress, List.length_map, List.length_range]

theorem ledger_status_index {total : Nat} {t : Tally} {outcomes : List Outcome}
    {pre post : List Event} {text : String}
    (h : ledger total t outcomes = pre ++ .status text :: post) :
    (pre.filterMap Event.status?).length + 1 ≤ outcomes.length := by
  have hstatuses := congrArg List.length (statuses_ledger total t outcomes)
  have hsome : Event.status? (.status text) = some text := rfl
  rw [length_progress, h, List.filterMap_append, List.length_append,
    List.filterMap_cons_some hsome, List.length_cons] at hstatuses
  have hhad : (outcomes.filterMap Outcome.matched?).length ≤ outcomes.length :=
    List.length_filterMap_le Outcome.matched? outcomes
  omega

theorem ledger_hit {total : Nat} {t : Tally} {outcomes : List Outcome}
    {pre post : List Event} {hit : Hit}
    (h : ledger total t outcomes = pre ++ .hit hit :: post) :
    ∃ text rest, post = .status text :: rest := by
  induction outcomes generalizing t pre with
  | nil => simp [ledger] at h
  | cons o rest ih =>
      rcases append_eq_append_cons h with ⟨pre', -, h'⟩ | ⟨post', h', rfl⟩
      · exact ih h'
      · rw [shown_hit h']
        exact ⟨_, _, rfl⟩

/-! ## Why a search fails -/

namespace Search

variable {search : Search}

theorem error_of_overPlaces (hworkers : 0 < search.maxWorkers) {source : Source}
    {program : Program} {cancelAfter : Option Nat} {total : Nat} {places : List PageRef}
    {error : SearchError}
    (h : (search.overPlaces source program cancelAfter total places).error? = some error) :
    ∃ e, error = .pattern e := by
  rw [overPlaces, if_neg (Int.not_le.mpr hworkers)] at h
  split at h
  · nomatch h
  · dsimp only at h
    split at h
    · rename_i e _
      exact ⟨e, (Option.some.inj h).symm⟩
    · nomatch h

/-- A search by one worker or more fails where its source cannot be listed, and else just where
looking for a pattern breaks down. -/
theorem error_of_run (hworkers : 0 < search.maxWorkers) {source : Source} {program : Program}
    {arrange : List PageRef → List PageRef} {cancelAfter : Option Nat} {error : SearchError}
    (h : (search.run source program arrange cancelAfter).error? = some error) :
    (∃ e, source.directory = .error e ∧ error = .source e) ∨ ∃ e, error = .pattern e := by
  unfold run at h
  cases hdirectory : source.directory with
  | error e =>
      rw [hdirectory] at h
      exact .inl ⟨e, rfl, (Option.some.inj h).symm⟩
  | ok directory =>
      rw [hdirectory] at h
      exact .inr (error_of_overPlaces hworkers h)

end Search

end PageGrep
