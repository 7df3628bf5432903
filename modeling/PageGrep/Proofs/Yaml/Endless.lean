/-
# Documents side by side without end

Laying one document over another follows the mappings that the two have under the same keys.  A
mapping may hold itself, so this need not come to an end (`Document.HasEndlessWay`).  It is seen
after finitely many levels (`isEndless_iff`): on a way that is longer than there are pairs of
places, one pair comes twice, and what lies between can be gone through again and again.
-/
import Mathlib.Data.Finset.Card
import Mathlib.Data.Finset.Prod
import PageGrep.Yaml.Value

namespace PageGrep.Yaml.Document

variable {lower upper : Document} {way : Nat → Nat × Nat}

/-- From the two outermost nodes a way through what is side by side never stops. -/
def HasEndlessWay (lower upper : Document) : Prop :=
  ∃ way : Nat → Nat × Nat, way 0 = (lower.root, upper.root) ∧
    ∀ n, way (n + 1) ∈ lower.beside upper (way n)

theorem ne_nil_besideAfter_iff {n : Nat} {places : List (Nat × Nat)} :
    lower.besideAfter upper n places ≠ []
      ↔ ∃ way : Nat → Nat × Nat, way 0 ∈ places ∧
          ∀ i < n, way (i + 1) ∈ lower.beside upper (way i) := by
  induction n generalizing places with
  | zero =>
      constructor
      · intro hsome
        obtain ⟨p, hp⟩ := List.exists_mem_of_ne_nil _ hsome
        exact ⟨fun _ => p, hp, nofun⟩
      · rintro ⟨way, hstart, -⟩
        exact List.ne_nil_of_mem hstart
  | succ n ih =>
      have hstep : lower.besideAfter upper (n + 1) places ≠ []
          ↔ lower.besideAfter upper n (places.flatMap (lower.beside upper)).eraseDups ≠ [] := by
        rw [besideAfter]
        split
        · rename_i hnone
          obtain rfl := List.isEmpty_iff.mp hnone
          refine iff_of_false (fun h => h rfl) (mt ih.mp ?_)
          rintro ⟨way, hstart, -⟩
          simp at hstart
        · rfl
      rw [hstep, ih]
      constructor
      · rintro ⟨way, hstart, hway⟩
        obtain ⟨p, hp, hfirst⟩ := List.mem_flatMap.mp (List.mem_eraseDups.mp hstart)
        refine ⟨fun i => i.casesOn p way, hp, fun i hi => ?_⟩
        cases i with
        | zero => exact hfirst
        | succ i => exact hway i (by omega)
      · rintro ⟨way, hstart, hway⟩
        exact ⟨fun i => way (i + 1),
          List.mem_eraseDups.mpr (List.mem_flatMap.mpr ⟨way 0, hstart, hway 0 (by omega)⟩),
          fun i hi => hway (i + 1) (by omega)⟩

theorem lt_size_of_pairsAt {d : Document} {place : Nat} {pair : Nat × Nat}
    (h : pair ∈ d.pairsAt place) : place < d.worths.size := by
  rw [pairsAt] at h
  split at h
  · rename_i hat
    exact (Array.getElem?_eq_some_iff.mp hat).1
  · nomatch h

theorem mem_of_beside {p q : Nat × Nat} (h : q ∈ lower.beside upper p) :
    (∃ key, (key, q.1) ∈ lower.pairsAt p.1) ∧ ∃ key, (key, q.2) ∈ upper.pairsAt p.2 := by
  obtain ⟨⟨key, value⟩, hupper, hfound⟩ := List.mem_filterMap.mp h
  obtain ⟨⟨k, v⟩, hfind, rfl⟩ := Option.map_eq_some_iff.mp hfound
  exact ⟨⟨k, List.mem_of_find?_eq_some hfind⟩, key, hupper⟩

/-- Counting up below a bound, and from there on again and again from where it turns back. -/
def turning (back bound : Nat) : Nat → Nat
  | 0 => 0
  | n + 1 => if turning back bound n + 1 = bound then back else turning back bound n + 1

theorem turning_lt {back bound : Nat} (h : back < bound) (n : Nat) :
    turning back bound n < bound := by
  induction n with
  | zero => exact Nat.zero_lt_of_lt h
  | succ n ih =>
      rw [turning]
      split <;> omega

theorem exists_endless_of_return {i j : Nat} (hij : i < j) (hreturn : way i = way j)
    (hway : ∀ n < j, way (n + 1) ∈ lower.beside upper (way n)) :
    ∃ on : Nat → Nat × Nat, on 0 = way 0 ∧ ∀ n, on (n + 1) ∈ lower.beside upper (on n) := by
  refine ⟨way ∘ turning i j, rfl, fun n => ?_⟩
  have hnext : way (turning i j (n + 1)) = way (turning i j n + 1) := by
    rw [turning]
    split
    · rename_i hend
      rw [hreturn, hend]
    · rfl
  rw [Function.comp_apply, Function.comp_apply, hnext]
  exact hway _ (turning_lt hij n)

/-- **What is side by side is without end just where so many levels down something is left.** -/
theorem isEndless_iff : lower.isEndless upper = true ↔ lower.HasEndlessWay upper := by
  have hlevels : lower.isEndless upper = true
      ↔ lower.besideAfter upper (lower.worths.size * upper.worths.size + 1)
          [(lower.root, upper.root)] ≠ [] := by
    simp [isEndless]
  rw [hlevels, ne_nil_besideAfter_iff]
  constructor
  · rintro ⟨way, hstart, hway⟩
    have hmaps : ∀ n ∈ Finset.range (lower.worths.size * upper.worths.size + 1),
        way n ∈ Finset.range lower.worths.size ×ˢ Finset.range upper.worths.size := by
      intro n hn
      obtain ⟨⟨_, hlower⟩, _, hupper⟩ := mem_of_beside (hway n (Finset.mem_range.mp hn))
      exact Finset.mem_product.mpr ⟨Finset.mem_range.mpr (lt_size_of_pairsAt hlower),
        Finset.mem_range.mpr (lt_size_of_pairsAt hupper)⟩
    obtain ⟨i, hi, j, hj, hne, hreturn⟩ :=
      Finset.exists_ne_map_eq_of_card_lt_of_maps_to (by simp) hmaps
    rw [Finset.mem_range] at hi hj
    obtain ⟨on, hon, hnext⟩ : ∃ on : Nat → Nat × Nat, on 0 = way 0 ∧
        ∀ n, on (n + 1) ∈ lower.beside upper (on n) := by
      rcases Nat.lt_or_gt_of_ne hne with hij | hji
      · exact exists_endless_of_return hij hreturn fun n hn => hway n (by omega)
      · exact exists_endless_of_return hji hreturn.symm fun n hn => hway n (by omega)
    exact ⟨on, hon.trans (List.mem_singleton.mp hstart), hnext⟩
  · rintro ⟨way, hstart, hway⟩
    exact ⟨way, List.mem_singleton.mpr hstart, fun i _ => hway i⟩

end PageGrep.Yaml.Document
