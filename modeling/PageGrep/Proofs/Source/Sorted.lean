/-
# Whether a directory is listed in the order of its slugs

A directory is put in the order of the names of its files, and a slug is taken from each name
after that.  Names in order do not always leave slugs in order: `a-b.json` stands before `a.json`,
for a hyphen comes before a dot, but the slug `a` comes before `a-b`.

What can go wrong is one thing only.  A file *cuts in* before another that has the ending if its
name goes on from the stem of the other with something that comes before the ending (`CutsIn`).
Of two names in order the slugs are out of order just if the first cuts in before the second
(`slugOf_le_iff`), so the slugs of a whole directory are in order just if no file with a page cuts
in before another.
-/
import Mathlib.Data.List.Infix
import Mathlib.Data.String.Basic
import PageGrep.Proofs.Source.Folder

namespace PageGrep.Folder

/-! ## The order of texts -/

theorem lt_append {stem rest : List Char} (h : rest ≠ []) : stem < stem ++ rest := by
  induction stem with
  | nil =>
      obtain ⟨c, cs, rfl⟩ := List.exists_cons_of_ne_nil h
      exact List.nil_lt_cons c cs
  | cons x stem ih =>
      rw [List.cons_append, List.cons_lt_cons_iff]
      exact .inr ⟨rfl, ih⟩

theorem append_lt_append_iff {stem rest rest' : List Char} :
    stem ++ rest < stem ++ rest' ↔ rest < rest' := by
  induction stem with
  | nil => rfl
  | cons x stem ih => simpa using ih

/-- What lies between a text and its continuation goes on from the text with something less. -/
theorem exists_append_of_between {cs stem rest : List Char} (hlow : stem < cs)
    (hhigh : cs < stem ++ rest) :
    ∃ between, between ≠ [] ∧ between < rest ∧ cs = stem ++ between := by
  induction stem generalizing cs with
  | nil => exact ⟨cs, fun hnil => lt_irrefl _ (hnil ▸ hlow), hhigh, rfl⟩
  | cons x stem ih =>
      cases cs with
      | nil => exact absurd hlow (List.not_lt_nil _)
      | cons c cs =>
          rw [List.cons_append, List.cons_lt_cons_iff] at hhigh
          rcases List.cons_lt_cons_iff.mp hlow with hx | ⟨rfl, hlow'⟩
          · -- the two characters would come before each other
            rcases hhigh with hc | ⟨rfl, -⟩
            · exact absurd (hx.trans hc) (lt_irrefl _)
            · exact absurd hx (lt_irrefl _)
          · rcases hhigh with hx | ⟨-, hhigh'⟩
            · exact absurd hx (lt_irrefl _)
            · obtain ⟨between, hsome, hless, rfl⟩ := ih hlow' hhigh'
              exact ⟨between, hsome, hless, rfl⟩

/-! ## Two files -/

/-- The first of two names goes on from the stem of the second, which has the ending, with
something that comes before the ending. -/
def CutsIn (name other : String) : Prop :=
  ∃ stem rest, stem ≠ "" ∧ rest ≠ "" ∧ rest < ending ∧ name = stem ++ rest ∧ other = stem ++ ending

theorem slugOf_le (name : String) : slugOf name ≤ name := by
  rcases slugOf_eq_or name with hslug | ⟨-, hslug⟩
  · rw [hslug]
  · generalize slugOf name = stem at hslug ⊢
    subst hslug
    rw [String.le_iff_toList_le, String.toList_append]
    exact (lt_append (by decide)).le

theorem not_lt_of_suffix {rest : List Char} (hsome : rest ≠ []) (h : rest <:+ ending.toList) :
    ¬ rest < ending.toList := by
  have hall : ∀ rest ∈ ending.toList.tails, rest ≠ [] → ¬ rest < ending.toList := by decide
  exact hall rest ((List.mem_tails _ _).mpr h) hsome

theorem CutsIn.lt {name other : String} (h : CutsIn name other) : name < other := by
  obtain ⟨stem, rest, -, -, hless, rfl, rfl⟩ := h
  rw [String.lt_iff_toList_lt] at hless ⊢
  rw [String.toList_append, String.toList_append]
  exact append_lt_append_iff.mpr hless

theorem CutsIn.slugOf_lt {name other : String} (h : CutsIn name other) :
    slugOf other < slugOf name := by
  obtain ⟨stem, rest, hstem, hrest, hless, rfl, rfl⟩ := h
  have hsome : rest.toList ≠ [] := mt String.toList_eq_nil_iff.mp hrest
  rw [slugOf_append hstem, String.lt_iff_toList_lt]
  rcases slugOf_eq_or (stem ++ rest) with hslug | ⟨-, hslug⟩
  · rw [hslug, String.toList_append]
    exact lt_append hsome
  · generalize slugOf (stem ++ rest) = slug at hslug ⊢
    have hchars : slug.toList ++ ending.toList = stem.toList ++ rest.toList := by
      rw [← String.toList_append, hslug, String.toList_append]
    rcases List.append_eq_append_iff.mp hchars with ⟨more, -, hending⟩ | ⟨more, hslug, hrest⟩
    · -- the slug would be no longer than the stem, and the rest an end of the ending
      rw [String.lt_iff_toList_lt] at hless
      exact absurd hless (not_lt_of_suffix hsome ⟨more, hending.symm⟩)
    · rw [hslug]
      refine lt_append fun hnil => ?_
      subst hnil
      rw [String.lt_iff_toList_lt, hrest] at hless
      exact lt_irrefl _ hless

/-- A file cuts in before another just if its name comes before and its slug after. -/
theorem cutsIn_iff {name other : String} :
    CutsIn name other ↔ name < other ∧ slugOf other < slugOf name := by
  refine ⟨fun h => ⟨h.lt, h.slugOf_lt⟩, fun ⟨hname, hslug⟩ => ?_⟩
  have hlow : slugOf other < name := hslug.trans_le (slugOf_le name)
  rcases slugOf_eq_or other with hother | ⟨hstem, hother⟩
  · rw [hother] at hlow
    exact absurd (hname.trans hlow) (lt_irrefl _)
  · generalize slugOf other = stem at hlow hstem hother
    subst hother
    rw [String.lt_iff_toList_lt] at hlow hname
    rw [String.toList_append] at hname
    obtain ⟨between, hsome, hless, hchars⟩ := exists_append_of_between hlow hname
    refine ⟨stem, String.ofList between, hstem, ?_, ?_, ?_, rfl⟩
    · rw [Ne, ← String.toList_eq_nil_iff, String.toList_ofList]
      exact hsome
    · rw [String.lt_iff_toList_lt, String.toList_ofList]
      exact hless
    · apply String.toList_injective
      rw [String.toList_append, String.toList_ofList, hchars]

instance (name other : String) : Decidable (CutsIn name other) :=
  decidable_of_iff _ cutsIn_iff.symm

theorem slugOf_le_iff {name other : String} (h : name < other) :
    slugOf name ≤ slugOf other ↔ ¬ CutsIn name other := by
  rw [cutsIn_iff, not_and, not_lt]
  exact (imp_iff_right h).symm

/-! ## A directory -/

/-- Whether some file with a page cuts in before another. -/
def HasCutIn (files : Files) (place : Place) : Prop :=
  ∃ name other, isPage files place name = true ∧ isPage files place other = true ∧
    CutsIn name other

section Directory

variable {files : Files} {path : Path} {place : Place} {names : List String}

theorem sublist_of_pageFiles {asked : List String} (h : pageFiles files path asked = .ok names) :
    names.Sublist asked := by
  induction asked generalizing names with
  | nil =>
      cases h
      exact .slnil
  | cons name rest ih =>
      obtain ⟨isFile, -, h⟩ := bind_eq_ok_iff.mp h
      obtain ⟨others, hothers, h⟩ := bind_eq_ok_iff.mp h
      cases h
      split
      · exact (ih hothers).cons_cons name
      · exact (ih hothers).cons name

theorem pairwise_of_sortedFiles (h : sortedFiles files path place = .ok names) :
    names.Pairwise (· ≤ ·) := by
  have hsorted : ((files.namesIn place).mergeSort fun a b => decide (a ≤ b)).Pairwise
      fun a b => decide (a ≤ b) = true := by
    refine List.pairwise_mergeSort (fun a b c hab hbc => ?_) (fun a b => ?_) _
    · rw [decide_eq_true_eq] at hab hbc ⊢
      exact hab.trans hbc
    · simpa using le_total a b
  exact (hsorted.imp fun h => of_decide_eq_true h).sublist (sublist_of_pageFiles h)

/-- Slugs of names in order are in order just if none of the names cuts in before another. -/
theorem pairwise_slugOf_iff (h : names.Pairwise (· < ·)) :
    (names.map slugOf).Pairwise (· ≤ ·)
      ↔ ¬ ∃ name ∈ names, ∃ other ∈ names, CutsIn name other := by
  rw [List.pairwise_map]
  constructor
  · rintro hslugs ⟨name, hname, other, hother, hcuts⟩
    have hforth : names.Pairwise fun a b => a < b → slugOf a ≤ slugOf b :=
      hslugs.imp fun hab => Function.const _ hab
    have hback : names.Pairwise fun a b => b < a → slugOf b ≤ slugOf a :=
      h.imp fun hab hba => absurd hba hab.asymm
    have hall := List.Pairwise.forall_of_forall_of_flip (fun _ _ _ => le_rfl) hforth hback
    exact (slugOf_le_iff hcuts.lt).mp (hall hname hother hcuts.lt) hcuts
  · intro hnone
    exact h.imp_of_mem fun hname hother hlt =>
      (slugOf_le_iff hlt).mpr fun hcuts => hnone ⟨_, hname, _, hother, hcuts⟩

/-- **A directory is listed in the order of its slugs just if no file cuts in before another.** -/
theorem slugs_in_order_iff (h : files.HasDirectory path place) :
    ((∃ listing, directory files path = .ok listing) ↔ Fits files path place) ∧
    ∀ listing, directory files path = .ok listing →
      (((Directory.refs listing).map PageRef.slug).Pairwise (· ≤ ·) ↔ ¬ HasCutIn files place) := by
  by_cases hfits : Fits files path place
  · obtain ⟨names, hpages, hfound⟩ := sortedFiles_of_fits h hfits
    have hdirectory := directory_of_sorted h hfound
    have hlt : names.Pairwise (· < ·) :=
      ((pairwise_of_sortedFiles hfound).and hpages.nodup).imp fun hab => hab.1.lt_of_ne hab.2
    refine ⟨iff_of_true ⟨_, hdirectory⟩ hfits, fun listing hlisting => ?_⟩
    obtain rfl := Except.ok.inj (hdirectory.symm.trans hlisting)
    have hslugs : (names.map refOf).map PageRef.slug = names.map slugOf := List.map_map
    rw [refs_map_refOf, hslugs, pairwise_slugOf_iff hlt, HasCutIn]
    simp only [hpages.mem_iff, exists_and_left]
  · obtain ⟨name, -, -, herror⟩ := directory_of_not_fits h hfits
    refine ⟨iff_of_false ?_ hfits, fun listing hlisting => nomatch herror.symm.trans hlisting⟩
    rintro ⟨listing, hlisting⟩
    nomatch herror.symm.trans hlisting

/-- A name that goes on with a letter, and one that goes on from a stem with the ending further
down: both have their place behind the shorter slug. -/
theorem slugs_in_order_iff_longer_names :
    let files : Files := { entries := [
      (["pages"], .directory), (["pages", "ab.json"], .octets [123, 125]),
      (["pages", "a.json"], .octets [123, 125]), (["pages", "a.json.old"], .octets [123, 125]),
      (["pages", "a"], .octets [123, 125]), (["pages", "a-"], .directory)] }
    let path : Path := ⟨0, ["pages"]⟩
    files.HasDirectory path ["pages"] ∧ ¬ HasCutIn files ["pages"] ∧
      ∃ listing, directory files path = .ok listing ∧
        ((Directory.refs listing).map PageRef.slug).Pairwise (· ≤ ·) := by
  intro files path
  have hdirectory : files.HasDirectory path ["pages"] :=
    ⟨by decide +kernel, by decide +kernel, by decide +kernel⟩
  have hnone : ¬ HasCutIn files ["pages"] := by
    rintro ⟨name, other, hpage, hpage', hcuts⟩
    have hpairs : ∀ name ∈ files.namesIn ["pages"], ∀ other ∈ files.namesIn ["pages"],
        isPage files ["pages"] name = true → ¬ CutsIn name other := by
      decide +kernel
    exact hpairs name (mem_namesIn_of_isPage hdirectory hpage) other
      (mem_namesIn_of_isPage hdirectory hpage') hpage hcuts
  obtain ⟨hlisted, horder⟩ := slugs_in_order_iff hdirectory
  obtain ⟨listing, hlisting⟩ := hlisted.mpr (by decide +kernel)
  exact ⟨hdirectory, hnone, listing, hlisting, (horder listing hlisting).mpr hnone⟩

/-- Two files with the ending of which one cuts in: their slugs are listed the wrong way round. -/
theorem hyphen_cuts_in :
    let files : Files := { entries := [
      (["pages"], .directory), (["pages", "a-b.json"], .octets [123, 125]),
      (["pages", "a.json"], .octets [123, 125])] }
    let path : Path := ⟨0, ["pages"]⟩
    files.HasDirectory path ["pages"] ∧
      ∃ listing, directory files path = .ok listing ∧
        (Directory.refs listing).map PageRef.slug = ["a-b", "a"] ∧
        ¬ ((Directory.refs listing).map PageRef.slug).Pairwise (· ≤ ·) := by
  intro files path
  have hdirectory : files.HasDirectory path ["pages"] :=
    ⟨by decide +kernel, by decide +kernel, by decide +kernel⟩
  have hnames : (files.namesIn ["pages"]).mergeSort (fun a b => decide (a ≤ b))
      = ["a-b.json", "a.json"] := List.mergeSort_of_pairwise (by decide +kernel)
  have hfound : sortedFiles files path ["pages"] = .ok ["a-b.json", "a.json"] := by
    rw [sortedFiles, hnames]
    rfl
  refine ⟨hdirectory, _, directory_of_sorted hdirectory hfound, ?_⟩
  rw [refs_map_refOf]
  decide +kernel

end Directory

end PageGrep.Folder
