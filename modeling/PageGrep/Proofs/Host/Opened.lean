/-
# The pages that are opened for results

A result tells the pages to open only by the text that refers to them.  From the reference
of a hit its title is read back, and nothing besides, just if it can be the title of a
reference at all (`linkTitles_reference_iff`): brackets that open may stand anywhere in it,
since a reference starts at the first two of a text, and the number of members that follows
has none.  For hits with such titles one page is opened for each, in order, and only the
first beside the page that it comes from (`opened_for_hits`).
-/
import PageGrep.Host.Item
import PageGrep.Proofs.Json.RoundTrip
import PageGrep.Proofs.Page.Link

namespace PageGrep

/-! ## References of hits -/

/-- The reference of a hit as text with references: a title, and how many members there are. -/
def Hit.linked (h : Hit) : Linked :=
  ⟨[], [(h.title.toList, ' ' :: '(' :: ((toString h.storyCount).toList ++ [')']))]⟩

theorem Hit.text_linked (h : Hit) : h.linked.text = h.reference.toList := by
  have hopen : "[[" = String.ofList ['[', '['] := by decide +kernel
  have hclose : "]] (" = String.ofList [']', ']', ' ', '('] := by decide +kernel
  have hend : ")" = String.ofList [')'] := by decide +kernel
  rw [Hit.reference, hopen, hclose, hend]
  simp only [String.toList_append, String.toList_ofList, linked, Linked.text, Linked.written,
    referenceTo, List.flatMap_cons, List.flatMap_nil, List.nil_append, List.append_nil,
    List.cons_append, List.append_assoc]

theorem Hit.isLeftmost_linked {h : Hit} (htitle : IsTitle h.title.toList) :
    h.linked.IsLeftmost := by
  have hcount := Json.not_mem_toString (c := '[') rfl (by decide) h.storyCount
  have hnone : '[' ∉ ' ' :: '(' :: ((toString h.storyCount).toList ++ [')']) := by
    simp only [List.mem_cons, List.mem_append, hcount, List.not_mem_nil]
    decide
  exact ⟨trivial, htitle, hasNoLink_of_not_mem [] hnone⟩

theorem isTitle_of_mem_linkTitles {text title : String} (h : title ∈ linkTitles text) :
    IsTitle title.toList := by
  obtain ⟨l, hcut, -, hleftmost⟩ := Stretch.exists_linked text
  rw [linkTitles, hcut, titles_stretches, Linked.titles] at h
  obtain ⟨link, hmem, rfl⟩ := List.mem_map.mp h
  rw [String.toList_ofList]
  exact Linked.isTitle_of_mem hleftmost link hmem

/-- The title of a hit is read back from its reference just if it can be the title of one. -/
theorem linkTitles_reference_iff (h : Hit) :
    linkTitles h.reference = [h.title] ↔ IsTitle h.title.toList := by
  constructor
  · intro hread
    exact isTitle_of_mem_linkTitles (hread ▸ List.mem_singleton_self h.title)
  · intro htitle
    have hcut := Stretch.ofText_of_isLeftmost h.text_linked (Hit.isLeftmost_linked htitle)
    rw [linkTitles, hcut, titles_stretches, Linked.titles, Hit.linked, List.map_singleton,
      String.ofList_toList]

theorem isTitle_toList_iff {title : String} :
    IsTitle title.toList ↔ title ≠ "" ∧ ']' ∉ title.toList := by
  rw [IsTitle, ne_eq, String.toList_eq_nil_iff]

/-! ## Opening -/

/-- The pages opened for hits: one for each in order, the first beside the origin. -/
structure OpensHits {α : Type} (origin : Option α) (hits : List Hit)
    (opened : List (String × Option α)) : Prop where
  /-- There is one page for each hit. -/
  length : opened.length = hits.length
  /-- It has the title of the hit, and only the first stands beside the origin. -/
  page : ∀ (i : Nat) (hit : Hit), hits[i]? = some hit →
    opened[i]? = some (hit.title, if i = 0 then origin else none)

theorem opensHits_openAll {α : Type} (origin : Option α) (hits : List Hit) :
    OpensHits origin hits (openAll origin (hits.map Hit.title)) := by
  cases hits with
  | nil => exact ⟨rfl, nofun⟩
  | cons first rest =>
      refine ⟨by simp [openAll], fun i hit hhit => ?_⟩
      cases i with
      | zero =>
          obtain rfl : first = hit := Option.some.inj hhit
          rfl
      | succ i =>
          have hrest : rest[i]? = some hit := hhit
          simp [openAll, hrest]

theorem flatMap_linkTitles {hits : List Hit} (h : ∀ hit ∈ hits, IsTitle hit.title.toList) :
    (hits.map Hit.reference).flatMap linkTitles = hits.map Hit.title := by
  induction hits with
  | nil => rfl
  | cons hit hits ih =>
      obtain ⟨hhit, hhits⟩ := List.forall_mem_cons.mp h
      rw [List.map_cons, List.flatMap_cons, (linkTitles_reference_iff hit).mpr hhit, ih hhits]
      rfl

/-- **The pages of hits are opened one by one, if their titles can be read back**, and they can
be just if none is empty or has a closing bracket. -/
theorem opened_for_hits :
    (∀ hit : Hit, linkTitles hit.reference = [hit.title] ↔
      hit.title ≠ "" ∧ ']' ∉ hit.title.toList) ∧
    ∀ (α : Type) (origin : Option α) (hits : List Hit),
      (∀ hit ∈ hits, hit.title ≠ "" ∧ ']' ∉ hit.title.toList) →
        OpensHits origin hits (openResults origin (hits.map Hit.reference)) := by
  constructor
  · intro hit
    rw [linkTitles_reference_iff, isTitle_toList_iff]
  · intro α origin hits htitles
    have hread := flatMap_linkTitles fun hit hmem => isTitle_toList_iff.mpr (htitles hit hmem)
    rw [openResults, hread]
    exact opensHits_openAll origin hits

/-- Titles with brackets that open and a line break; one with a closing bracket is not read
back. -/
theorem opened_for_hits_brackets :
    let hits : List Hit := [⟨"a", "[[a", 2⟩, ⟨"b", "[b\n[[", 0⟩, ⟨"c", "(1)", 10⟩]
    (∀ hit ∈ hits, hit.title ≠ "" ∧ ']' ∉ hit.title.toList) ∧
      OpensHits (some "here") hits (openResults (some "here") (hits.map Hit.reference)) ∧
      linkTitles (Hit.reference ⟨"d", "d] [[d", 1⟩) ≠ ["d] [[d"] := by
  intro hits
  have htitles : ∀ hit ∈ hits, hit.title ≠ "" ∧ ']' ∉ hit.title.toList := by decide +kernel
  refine ⟨htitles, opened_for_hits.2 String (some "here") hits htitles, fun hread => ?_⟩
  have htitle := (opened_for_hits.1 ⟨"d", "d] [[d", 1⟩).mp hread
  exact htitle.2 (by decide +kernel)

end PageGrep
