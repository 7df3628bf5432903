/-
# Valuing the nodes of a settings text

What a node is worth is found step by step.  A scalar that is valued keeps its value, and a list,
a set or a mapping stays one, while its parts are met (`Valuation.Grown`).  So the keys that a
mapping had when it was filled are its keys in the end, and no name stands twice among them
(`IsKeyed`): the pairs were put in one by one, each under a key of its own or in the place of one
that is the same.

Merging changes nodes only, and never what they are worth (`Valuing.LeavesWorths`); of the other
steps each has one lemma that says how the valuation grows by it, up to the whole run
(`grown_fillAll`).
-/
import Mathlib.Data.List.Basic
import PageGrep.Proofs.Config.Layers
import PageGrep.Proofs.Except
import PageGrep.Yaml.Value

namespace PageGrep.Yaml

def Worth.isPlain : Worth → Bool
  | .plain _ _ => true
  | _ => false

/-! ## Keys -/

section Keys

variable {look look' : Nat → Option Worth} {keys : List Nat}

/-- The name that the key at a place is, by what each node is worth. -/
def nameAt? (look : Nat → Option Worth) (place : Nat) : Option String :=
  match look place with
  | some (.plain v _) => v.name?
  | _ => none

/-- Every key has a value of its own, and no name stands twice among them. -/
structure IsKeyed (look : Nat → Option Worth) (keys : List Nat) : Prop where
  plain : ∀ key ∈ keys, ∃ v single, look key = some (.plain v single)
  nodup : (keys.filterMap (nameAt? look)).Nodup

theorem isKeyed_nil : IsKeyed look [] := ⟨nofun, List.nodup_nil⟩

theorem IsKeyed.mono (h : IsKeyed look keys)
    (hlook : ∀ place v single, look place = some (.plain v single) →
      look' place = some (.plain v single)) : IsKeyed look' keys := by
  constructor
  · intro key hkey
    obtain ⟨v, single, hv⟩ := h.plain key hkey
    exact ⟨v, single, hlook _ _ _ hv⟩
  · have hsame : keys.filterMap (nameAt? look') = keys.filterMap (nameAt? look) := by
      refine List.filterMap_congr fun key hkey => ?_
      obtain ⟨v, single, hv⟩ := h.plain key hkey
      rw [nameAt?, nameAt?, hv, hlook _ _ _ hv]
    rw [hsame]
    exact h.nodup

theorem exists_of_nameAt? {place : Nat} {name : String} (h : nameAt? look place = some name) :
    ∃ single, look place = some (.plain (.str name) single) := by
  unfold nameAt? at h
  split at h
  · rename_i v single hv
    exact ⟨single, Value.name?_eq_some_iff.mp h ▸ hv⟩
  · nomatch h

end Keys

/-! ## Valuations -/

namespace Valuation

/-- What the node at a place is worth, if that is known. -/
def worth? (s : Valuation) (place : Nat) : Option Worth := s.worths.getD place none

/-- The node at a place will never be worth a value of its own. -/
def IsOpen (s : Valuation) (place : Nat) : Prop :=
  s.worths.size ≤ place ∨ ∃ w, s.worth? place = some w ∧ w.isPlain = false

/-- Scalars are worth no mapping, and only those that are no number equal no other; mappings have
their keys; and what was noted is no scalar. -/
structure IsSound (s : Valuation) : Prop where
  scalar : ∀ place v single, s.worth? place = some (.plain v single) →
    v.isMapping = false ∧ (single = true → v.isNaN = true)
  keyed : ∀ place pairs, s.worth? place = some (.map pairs) → IsKeyed s.worth? (pairs.map Prod.fst)
  noted : ∀ place ∈ s.noted, s.IsOpen place

/-- A sound valuation that came from another: values of their own are kept, and what is worth
other nodes is so still. -/
structure Grown (s s' : Valuation) : Prop where
  sound : s'.IsSound
  size : s'.worths.size = s.worths.size
  kept : ∀ place w, s.worth? place = some w →
    ∃ w', s'.worth? place = some w' ∧ w'.isPlain = w.isPlain ∧ (w.isPlain = true → w' = w)

variable {s s' s'' : Valuation} {place : Nat} {w : Worth}

theorem IsSound.grown (hs : s.IsSound) : s.Grown s :=
  ⟨hs, rfl, fun _ w h => ⟨w, h, rfl, fun _ => rfl⟩⟩

theorem Grown.trans (h : s.Grown s') (h' : s'.Grown s'') : s.Grown s'' := by
  refine ⟨h'.sound, h'.size.trans h.size, fun place w hw => ?_⟩
  obtain ⟨w', hw', hplain', hsame'⟩ := h.kept place w hw
  obtain ⟨w'', hw'', hplain'', hsame''⟩ := h'.kept place w' hw'
  refine ⟨w'', hw'', hplain''.trans hplain', fun hplain => ?_⟩
  rw [hsame'' (hplain'.trans hplain), hsame' hplain]

theorem Grown.plain (h : s.Grown s') {v : Value} {single : Bool}
    (hv : s.worth? place = some (.plain v single)) :
    s'.worth? place = some (.plain v single) := by
  obtain ⟨w, hw, -, hsame⟩ := h.kept place _ hv
  rw [hw, hsame rfl]

theorem Grown.isOpen (h : s.Grown s') (hopen : s.IsOpen place) : s'.IsOpen place := by
  rcases hopen with hout | ⟨w, hw, hplain⟩
  · exact .inl (h.size ▸ hout)
  · obtain ⟨w', hw', hplain', -⟩ := h.kept place w hw
    exact .inr ⟨w', hw', hplain'.trans hplain⟩

theorem Grown.isKeyed (h : s.Grown s') {keys : List Nat} (hkeyed : IsKeyed s.worth? keys) :
    IsKeyed s'.worth? keys :=
  hkeyed.mono fun _ _ _ hv => h.plain hv

theorem IsSound.grown_of_eq (hs : s.IsSound) (hworths : s'.worths = s.worths)
    (hnoted : s'.noted = s.noted) : s.Grown s' := by
  have hsame : s' = { s with nodes := s'.nodes } := by
    rw [← hworths, ← hnoted]
  rw [hsame]
  exact ⟨⟨hs.scalar, hs.keyed, hs.noted⟩, rfl, fun _ w h => ⟨w, h, rfl, fun _ => rfl⟩⟩

/-- The valuation after it is said what the node at a place is worth. -/
def withWorth (s : Valuation) (place : Nat) (worth : Worth) : Valuation :=
  { s with worths := s.worths.setIfInBounds place (some worth) }

theorem worth?_withWorth {other : Nat} :
    (s.withWorth place w).worth? other
      = if place = other ∧ place < s.worths.size then some w else s.worth? other := by
  simp only [withWorth, worth?, Array.getD_eq_getD_getElem?, Array.getElem?_setIfInBounds]
  grind

/-- What may be said of a node: that it is a scalar if nothing is known of it yet, or that it is
none; and then of a mapping that it has keys. -/
theorem IsSound.grown_withWorth (hs : s.IsSound)
    (hplace : s.worth? place = none ∨ s.IsOpen place ∧ w.isPlain = false)
    (hscalar : ∀ v single, w = .plain v single →
      v.isMapping = false ∧ (single = true → v.isNaN = true))
    (hkeyed : ∀ pairs, w = .map pairs → IsKeyed s.worth? (pairs.map Prod.fst)) :
    s.Grown (s.withWorth place w) := by
  have hsize : (s.withWorth place w).worths.size = s.worths.size := Array.size_setIfInBounds
  have hkept : ∀ other old, s.worth? other = some old →
      ∃ w', (s.withWorth place w).worth? other = some w' ∧ w'.isPlain = old.isPlain
        ∧ (old.isPlain = true → w' = old) := by
    intro other old hold
    rw [worth?_withWorth]
    split
    · rename_i hsaid
      obtain ⟨rfl, hbound⟩ := hsaid
      rcases hplace with hnone | ⟨hout | ⟨old', hold', hopen⟩, hplain⟩
      · nomatch hnone.symm.trans hold
      · omega
      · obtain rfl : old' = old := Option.some.inj (hold'.symm.trans hold)
        exact ⟨w, rfl, hplain.trans hopen.symm, fun h => nomatch hopen.symm.trans h⟩
    · exact ⟨old, hold, rfl, fun _ => rfl⟩
  have hplain : ∀ other v single, s.worth? other = some (.plain v single) →
      (s.withWorth place w).worth? other = some (.plain v single) := by
    intro other v single hv
    obtain ⟨w', hw', -, hsame⟩ := hkept other _ hv
    rw [hw', hsame rfl]
  refine ⟨⟨fun other v single hv => ?_, fun other pairs hpairs => ?_, fun other hother => ?_⟩,
    hsize, hkept⟩
  · rw [worth?_withWorth] at hv
    split at hv
    · exact hscalar v single (Option.some.inj hv)
    · exact hs.scalar other v single hv
  · refine (?_ : IsKeyed s.worth? (pairs.map Prod.fst)).mono hplain
    rw [worth?_withWorth] at hpairs
    split at hpairs
    · exact hkeyed pairs (Option.some.inj hpairs)
    · exact hs.keyed other pairs hpairs
  · rcases hs.noted other hother with hout | ⟨old, hold, hopen⟩
    · exact .inl (hsize ▸ hout)
    · obtain ⟨w', hw', hsame, -⟩ := hkept other old hold
      exact .inr ⟨w', hw', hsame.trans hopen⟩

theorem IsSound.grown_noting (hs : s.IsSound) (hopen : s.IsOpen place) :
    s.Grown { s with noted := place :: s.noted } := by
  refine ⟨⟨hs.scalar, hs.keyed, ?_⟩, rfl, fun _ w h => ⟨w, h, rfl, fun _ => rfl⟩⟩
  exact List.forall_mem_cons.mpr ⟨hopen, hs.noted⟩

theorem isOpen_withWorth (hopen : w.isPlain = false) : (s.withWorth place w).IsOpen place := by
  by_cases hbound : place < s.worths.size
  · refine .inr ⟨w, ?_, hopen⟩
    rw [worth?_withWorth, if_pos ⟨rfl, hbound⟩]
  · refine .inl ?_
    rw [withWorth, Array.size_setIfInBounds]
    exact Nat.le_of_not_lt hbound

end Valuation

/-! ## Steps that leave the worth of nodes -/

namespace Valuing

variable {α β : Type}

/-- Two steps come to a result if the first one does and the second one from there. -/
theorem bind_run_eq_ok_iff {x : Valuing α} {f : α → Valuing β} {s s'' : Valuation} {b : β} :
    (x >>= f).run s = .ok (b, s'')
      ↔ ∃ a s', x.run s = .ok (a, s') ∧ (f a).run s' = .ok (b, s'') := by
  rw [StateT.run_bind, bind_eq_ok_iff]
  exact ⟨fun ⟨⟨a, s'⟩, h⟩ => ⟨a, s', h⟩, fun ⟨a, s', h⟩ => ⟨(a, s'), h⟩⟩

/-- A step neither says what a node is worth nor notes one. -/
def LeavesWorths (x : Valuing α) : Prop :=
  ∀ s a s', x.run s = .ok (a, s') → s'.worths = s.worths ∧ s'.noted = s.noted

theorem LeavesWorths.grown {x : Valuing α} (hx : LeavesWorths x) {s s' : Valuation} {a : α}
    (hs : s.IsSound) (h : x.run s = .ok (a, s')) : s.Grown s' :=
  hs.grown_of_eq (hx s a s' h).1 (hx s a s' h).2

namespace LeavesWorths

theorem pure (a : α) : LeavesWorths (Pure.pure a : Valuing α) := by
  intro s b s' h
  cases h
  exact ⟨rfl, rfl⟩

theorem bind {x : Valuing α} {f : α → Valuing β} (hx : LeavesWorths x)
    (hf : ∀ a, LeavesWorths (f a)) : LeavesWorths (x >>= f) := by
  intro s b s'' h
  obtain ⟨a, s', hxs, hfs⟩ := bind_run_eq_ok_iff.mp h
  obtain ⟨hworths, hnoted⟩ := hx s a s' hxs
  obtain ⟨hworths', hnoted'⟩ := hf a s' b s'' hfs
  exact ⟨hworths'.trans hworths, hnoted'.trans hnoted⟩

theorem get : LeavesWorths (MonadState.get : Valuing Valuation) := by
  intro s a s' h
  cases h
  exact ⟨rfl, rfl⟩

theorem throw (fault : Fault) : LeavesWorths (throw fault : Valuing α) := fun _ _ _ h => nomatch h

theorem malformed : LeavesWorths (malformed : Valuing α) := throw .malformed

theorem mapM {f : α → Valuing β} (hf : ∀ a, LeavesWorths (f a)) (xs : List α) :
    LeavesWorths (xs.mapM f) := by
  induction xs with
  | nil => exact pure []
  | cons x xs ih =>
      rw [List.mapM_cons]
      exact bind (hf x) fun _ => bind ih fun _ => pure _

theorem findM? {f : α → Valuing Bool} (hf : ∀ a, LeavesWorths (f a)) (xs : List α) :
    LeavesWorths (xs.findM? f) := by
  induction xs with
  | nil => exact pure none
  | cons x xs ih =>
      refine bind (hf x) fun found => ?_
      cases found with
      | true => exact pure _
      | false => exact ih

theorem nodeAt (place : Nat) : LeavesWorths (nodeAt place) := by
  refine bind get fun s => ?_
  split
  · exact pure _
  · exact malformed

theorem pairsAt (place : Nat) : LeavesWorths (pairsAt place) := by
  refine bind (nodeAt place) fun node => ?_
  split
  · exact pure _
  · exact malformed

theorem change (place : Nat) (f : Node → Node) : LeavesWorths (change place f) := by
  intro s a s' h
  cases h
  exact ⟨rfl, rfl⟩

theorem setPairs (place : Nat) (pairs : List (Nat × Nat)) : LeavesWorths (setPairs place pairs) :=
  change place _

theorem textAt (fuel place : Nat) : LeavesWorths (textAt fuel place) := by
  induction fuel generalizing place with
  | zero => exact malformed
  | succ fuel ih =>
      refine bind (nodeAt place) fun node => ?_
      split
      · exact pure _
      · exact malformed
      · refine bind (findM? (fun ⟨key, _⟩ => bind (nodeAt key) fun _ => pure _) _) fun found => ?_
        split
        · exact ih _
        · exact malformed

theorem mergedPairs {nested : Nat → Valuing Unit} (hnested : ∀ place, LeavesWorths (nested place))
    (place : Nat) : LeavesWorths (mergedPairs nested place) := by
  refine bind (nodeAt place) fun node => ?_
  split
  · exact malformed
  · exact bind (hnested place) fun _ => pairsAt place
  · exact bind (mapM (fun item => bind (hnested item) fun _ => pairsAt item) _) fun _ => pure _

theorem flattenFrom {nested : Nat → Valuing Unit} (hnested : ∀ place, LeavesWorths (nested place))
    (place : Nat) (so : List (Nat × Nat)) (index steps : Nat) :
    LeavesWorths (flattenFrom nested place so index steps) := by
  induction steps generalizing so index with
  | zero => exact bind (pairsAt place) fun _ => setPairs place _
  | succ steps ih =>
      refine bind (pairsAt place) fun pairs => ?_
      split
      · exact bind (pairsAt place) fun _ => setPairs place _
      · refine bind (nodeAt _) fun node => ?_
        split
        · refine bind (pairsAt place) fun _ => bind (setPairs place _) fun _ => ?_
          exact bind (mergedPairs hnested _) fun _ => ih _ _
        · exact bind (change _ _) fun _ => ih _ _
        · exact ih _ _

theorem flatten (fuel place : Nat) : LeavesWorths (flatten fuel place) := by
  induction fuel generalizing place with
  | zero => exact malformed
  | succ fuel ih => exact bind (pairsAt place) fun _ => flattenFrom ih place _ _ _

end LeavesWorths

/-! ## Scalars -/

theorem isMapping_of_stampOf {text : String} {v : Value} (h : stampOf text = .ok v) :
    v.isMapping = false := by
  rw [stampOf] at h
  split at h
  · nomatch h
  · split at h
    · obtain ⟨_, -, h⟩ := bind_eq_ok_iff.mp h
      cases h
      rfl
    · obtain ⟨_, -, h⟩ := bind_eq_ok_iff.mp h
      obtain ⟨_, -, h⟩ := bind_eq_ok_iff.mp h
      obtain ⟨_, -, h⟩ := bind_eq_ok_iff.mp h
      cases h
      rfl

theorem isMapping_of_scalarValue {tag : Tag} {text : String} {v : Value}
    (h : scalarValue tag text = .ok v) : v.isMapping = false := by
  have hmapped {γ : Type} {f : γ → Value} (hf : ∀ c, (f c).isMapping = false) {x : Except Fault γ}
      (h : f <$> x = .ok v) : v.isMapping = false := by
    obtain ⟨c, -, rfl⟩ := map_eq_ok_iff.mp h
    exact hf c
  unfold scalarValue at h
  split at h
  · cases h; rfl
  · exact hmapped (fun _ => rfl) h
  · exact hmapped (fun _ => rfl) h
  · exact hmapped (fun _ => rfl) h
  · exact hmapped (fun _ => rfl) h
  · exact isMapping_of_stampOf h
  · cases h; rfl
  · nomatch h

variable {s s' : Valuation} {place : Nat}

theorem plain_of_scalarWorth {w : Worth} (h : (scalarWorth place).run s = .ok (w, s')) :
    s'.worths = s.worths ∧ s'.noted = s.noted
      ∧ ∃ v single, w = .plain v single ∧ v.isMapping = false
        ∧ (single = true → v.isNaN = true) := by
  obtain ⟨_, _, hget, h⟩ := bind_run_eq_ok_iff.mp h
  cases hget
  obtain ⟨text, s₁, htext, h⟩ := bind_run_eq_ok_iff.mp h
  obtain ⟨node, s₂, hnode, h⟩ := bind_run_eq_ok_iff.mp h
  have hworths := (LeavesWorths.nodeAt place _ _ _ hnode).1.trans
    (LeavesWorths.textAt _ place _ _ _ htext).1
  have hnoted := (LeavesWorths.nodeAt place _ _ _ hnode).2.trans
    (LeavesWorths.textAt _ place _ _ _ htext).2
  have hvalued (tag : Tag) (h : (do
      let v ← scalarValue tag text
      return .plain v (v.isNaN && !spellsNaN text) : Valuing Worth).run s₂ = .ok (w, s')) :
      s' = s₂ ∧ ∃ v single, w = .plain v single ∧ v.isMapping = false
        ∧ (single = true → v.isNaN = true) := by
    obtain ⟨v, s₃, hv, h⟩ := bind_run_eq_ok_iff.mp h
    obtain ⟨v', hscalar, hv'⟩ := bind_eq_ok_iff.mp hv
    cases hv'
    cases h
    refine ⟨rfl, v, _, rfl, isMapping_of_scalarValue hscalar, fun hsingle => ?_⟩
    exact (Bool.and_eq_true_iff.mp hsingle).1
  split at h
  · nomatch h
  · obtain ⟨rfl, hplain⟩ := hvalued _ h
    exact ⟨hworths, hnoted, hplain⟩

/-! ## Meeting nodes -/

theorem grown_meet {u : Unit} (hs : s.IsSound) (h : (meet place).run s = .ok (u, s')) :
    s.Grown s' := by
  obtain ⟨known, _, hknown, h⟩ := bind_run_eq_ok_iff.mp h
  cases hknown
  split at h
  · cases h
    exact hs.grown
  · rename_i hunknown
    have hnone : s.worth? place = none := Option.not_isSome_iff_eq_none.mp hunknown
    obtain ⟨node, s₁, hnode, h⟩ := bind_run_eq_ok_iff.mp h
    have hfirst := (LeavesWorths.nodeAt place).grown hs hnode
    have hnone₁ : s₁.worth? place = none := by
      rwa [Valuation.worth?, (LeavesWorths.nodeAt place _ _ _ hnode).1]
    dsimp only at h
    split at h
    · obtain ⟨_, s₂, hsaid, h⟩ := bind_run_eq_ok_iff.mp h
      cases hsaid
      cases h
      have hopen : (hollow node.tag).isPlain = false := by cases node.tag <;> rfl
      have hsaid := hfirst.sound.grown_withWorth (w := hollow node.tag) (.inl hnone₁)
        (fun _ _ h => by rw [h] at hopen; nomatch hopen)
        (fun pairs h => by
          have hempty : pairs = [] := by cases htag : node.tag <;> simp_all [hollow]
          rw [hempty]
          exact isKeyed_nil)
      exact (hfirst.trans hsaid).trans
        (hsaid.sound.grown_noting (Valuation.isOpen_withWorth hopen))
    · obtain ⟨w, s₂, hw, h⟩ := bind_run_eq_ok_iff.mp h
      obtain ⟨hworths₂, hnoted₂, v, single, rfl, hscalar⟩ := plain_of_scalarWorth hw
      have hsecond := hfirst.sound.grown_of_eq hworths₂ hnoted₂
      have hnone₂ : s₂.worth? place = none := by rwa [Valuation.worth?, hworths₂]
      cases h
      refine (hfirst.trans hsecond).trans (hsecond.sound.grown_withWorth (.inl hnone₂) ?_ nofun)
      rintro _ _ ⟨⟩
      exact hscalar

/-- A step after which the valuation has grown, for each of some nodes, from any valuation that
came from the first. -/
theorem grown_forM {f : Nat → Valuing Unit} {places : List Nat} {u : Unit} (hs : s.IsSound)
    (hf : ∀ place ∈ places, ∀ s₁ s₂ u, s.Grown s₁ → (f place).run s₁ = .ok (u, s₂) → s₁.Grown s₂)
    (h : (places.forM f).run s = .ok (u, s')) : s.Grown s' := by
  induction places generalizing s with
  | nil =>
      cases h
      exact hs.grown
  | cons place places ih =>
      obtain ⟨_, s₁, hfirst, h⟩ := bind_run_eq_ok_iff.mp h
      obtain ⟨hplace, hplaces⟩ := List.forall_mem_cons.mp hf
      have hgrown := hplace s s₁ _ hs.grown hfirst
      exact hgrown.trans (ih hgrown.sound
        (fun other hother s₂ s₃ u hs₂ => hplaces other hother s₂ s₃ u (hgrown.trans hs₂)) h)

/-! ## Filling -/

theorem sameKey_of_nameAt? (hs : s.IsSound) {a b : Nat} {name : String}
    (ha : nameAt? s.worth? a = some name) (hb : nameAt? s.worth? b = some name) :
    sameKey s.worths a b = true := by
  obtain ⟨single, hworth⟩ := exists_of_nameAt? ha
  obtain ⟨single', hworth'⟩ := exists_of_nameAt? hb
  have hsingle : single = false := Bool.eq_false_iff.mpr fun h =>
    nomatch (hs.scalar _ _ _ hworth).2 h
  have hsingle' : single' = false := Bool.eq_false_iff.mpr fun h =>
    nomatch (hs.scalar _ _ _ hworth').2 h
  subst hsingle hsingle'
  rw [Valuation.worth?] at hworth hworth'
  simp [sameKey, hworth, hworth', Value.sameKey]

theorem keys_putPair (worths : Array (Option Worth)) (key value : Nat) (so : List (Nat × Nat)) :
    (putPair worths key value so).map Prod.fst = so.map Prod.fst
      ∨ (putPair worths key value so).map Prod.fst = so.map Prod.fst ++ [key]
        ∧ ∀ k ∈ so.map Prod.fst, sameKey worths k key = false := by
  induction so with
  | nil => exact .inr ⟨rfl, nofun⟩
  | cons pair so ih =>
      obtain ⟨k, old⟩ := pair
      rw [putPair]
      split
      · exact .inl rfl
      · rename_i hother
        rcases ih with ih | ⟨ih, hnew⟩
        · exact .inl (congrArg (k :: ·) ih)
        · exact .inr ⟨congrArg (k :: ·) ih,
            List.forall_mem_cons.mpr ⟨Bool.eq_false_iff.mpr hother, hnew⟩⟩

/-- A pair that is put in leaves the keys as they are or adds one that is the same as none. -/
theorem isKeyed_putPair (hs : s.IsSound) {key : Nat} (value : Nat) {so : List (Nat × Nat)}
    (hso : IsKeyed s.worth? (so.map Prod.fst))
    (hkey : ∃ v single, s.worth? key = some (.plain v single)) :
    IsKeyed s.worth? ((putPair s.worths key value so).map Prod.fst) := by
  rcases keys_putPair s.worths key value so with hkeys | ⟨hkeys, hnew⟩
  · rw [hkeys]
    exact hso
  · rw [hkeys]
    refine ⟨?_, ?_⟩
    · rw [List.forall_mem_append]
      exact ⟨hso.plain, List.forall_mem_singleton.mpr hkey⟩
    · rw [List.filterMap_append, List.nodup_append]
      refine ⟨hso.nodup, ?_, ?_⟩
      · cases hname : nameAt? s.worth? key <;> simp [hname]
      · intro name hname other hother heq
        subst heq
        obtain ⟨k, hk, hkname⟩ := List.mem_filterMap.mp hname
        obtain ⟨k', hk', hkname'⟩ := List.mem_filterMap.mp hother
        obtain rfl := List.mem_singleton.mp hk'
        exact nomatch (hnew k hk).symm.trans (sameKey_of_nameAt? hs hkname hkname')

theorem grown_entries {so pairs filled : List (Nat × Nat)} (hs : s.IsSound)
    (hso : IsKeyed s.worth? (so.map Prod.fst))
    (h : (entries so pairs).run s = .ok (filled, s')) :
    s.Grown s' ∧ IsKeyed s'.worth? (filled.map Prod.fst) := by
  induction pairs generalizing so s with
  | nil =>
      cases h
      exact ⟨hs.grown, hso⟩
  | cons pair pairs ih =>
      obtain ⟨key, value⟩ := pair
      obtain ⟨_, s₁, hkey, h⟩ := bind_run_eq_ok_iff.mp h
      have hfirst := grown_meet hs hkey
      obtain ⟨known, _, hknown, h⟩ := bind_run_eq_ok_iff.mp h
      cases hknown
      split at h
      · rename_i v single hplain
        obtain ⟨_, s₂, hvalue, h⟩ := bind_run_eq_ok_iff.mp h
        obtain ⟨_, _, hget, h⟩ := bind_run_eq_ok_iff.mp h
        cases hget
        have hsecond := grown_meet hfirst.sound hvalue
        have hboth := hfirst.trans hsecond
        have hput := isKeyed_putPair hboth.sound value (hboth.isKeyed hso)
          ⟨v, single, hsecond.plain hplain⟩
        obtain ⟨hrest, hfilled⟩ := ih hboth.sound hput h
        exact ⟨hboth.trans hrest, hfilled⟩
      · nomatch h

theorem grown_couple {pair : Nat × Nat} (hs : s.IsSound)
    (h : (couple place).run s = .ok (pair, s')) : s.Grown s' := by
  obtain ⟨node, s₁, hnode, h⟩ := bind_run_eq_ok_iff.mp h
  have hfirst := (LeavesWorths.nodeAt place).grown hs hnode
  split at h
  · obtain ⟨_, s₂, hkey, h⟩ := bind_run_eq_ok_iff.mp h
    obtain ⟨_, s₃, hvalue, h⟩ := bind_run_eq_ok_iff.mp h
    cases h
    have hsecond := grown_meet hfirst.sound hkey
    exact (hfirst.trans hsecond).trans (grown_meet hsecond.sound hvalue)
  · nomatch h

theorem grown_couples {places : List Nat} {pairs : List (Nat × Nat)} (hs : s.IsSound)
    (h : (places.mapM couple).run s = .ok (pairs, s')) : s.Grown s' := by
  induction places generalizing s pairs with
  | nil =>
      cases h
      exact hs.grown
  | cons place places ih =>
      rw [List.mapM_cons] at h
      obtain ⟨_, s₁, hfirst, h⟩ := bind_run_eq_ok_iff.mp h
      obtain ⟨_, s₂, hrest, h⟩ := bind_run_eq_ok_iff.mp h
      cases h
      have hgrown := grown_couple hs hfirst
      exact hgrown.trans (ih hgrown.sound hrest)

/-- The parts of what was noted at a place were met, and now are what it is worth. -/
theorem grown_of_parts {s₁ : Valuation} {w : Worth} (hopen : s.IsOpen place) (h : s.Grown s₁)
    (hw : w.isPlain = false)
    (hkeyed : ∀ pairs, w = .map pairs → IsKeyed s₁.worth? (pairs.map Prod.fst)) :
    s.Grown (s₁.withWorth place w) := by
  refine h.trans (h.sound.grown_withWorth (.inr ⟨h.isOpen hopen, hw⟩) ?_ hkeyed)
  rintro v single rfl
  nomatch hw

/-- The entries of a mapping that was noted, after it has merged what it merges. -/
theorem grown_flattened {limit : Nat} {u : Unit} {s₁ s₂ : Valuation}
    {pairs filled : List (Nat × Nat)} (hs : s.IsSound)
    (hflat : (flatten limit place).run s = .ok (u, s₁))
    (hpairs : (pairsAt place).run s₁ = .ok (pairs, s₂))
    (hfilled : (entries [] pairs).run s₂ = .ok (filled, s')) :
    s.Grown s' ∧ IsKeyed s'.worth? (filled.map Prod.fst) := by
  have hflat := (LeavesWorths.flatten limit place).grown hs hflat
  have hboth := hflat.trans ((LeavesWorths.pairsAt place).grown hflat.sound hpairs)
  obtain ⟨hrest, hkeyed⟩ := grown_entries hboth.sound (by exact isKeyed_nil) hfilled
  exact ⟨hboth.trans hrest, hkeyed⟩

theorem grown_fill {limit : Nat} {u : Unit} (hs : s.IsSound) (hopen : s.IsOpen place)
    (h : (fill limit place).run s = .ok (u, s')) : s.Grown s' := by
  obtain ⟨node, s₁, hnode, h⟩ := bind_run_eq_ok_iff.mp h
  have hfirst := (LeavesWorths.nodeAt place).grown hs hnode
  have hcouples {items : List Nat}
      (h : (do setWorth place (.couples (← items.mapM couple))).run s₁ = .ok (u, s')) :
      s.Grown s' := by
    obtain ⟨pairs, s₂, hpairs, h⟩ := bind_run_eq_ok_iff.mp h
    cases h
    exact grown_of_parts hopen (hfirst.trans (grown_couples hfirst.sound hpairs)) rfl nofun
  split at h
  · obtain ⟨_, s₂, hitems, h⟩ := bind_run_eq_ok_iff.mp h
    cases h
    have hmet := grown_forM hfirst.sound (fun _ _ _ _ _ hgrown => grown_meet hgrown.sound) hitems
    exact grown_of_parts hopen (hfirst.trans hmet) rfl nofun
  · exact hcouples h
  · exact hcouples h
  · obtain ⟨_, s₂, hflat, h⟩ := bind_run_eq_ok_iff.mp h
    obtain ⟨pairs, s₃, hpairs, h⟩ := bind_run_eq_ok_iff.mp h
    obtain ⟨filled, s₄, hfilled, h⟩ := bind_run_eq_ok_iff.mp h
    cases h
    obtain ⟨hgrown, hkeyed⟩ := grown_flattened hfirst.sound hflat hpairs hfilled
    exact grown_of_parts hopen (hfirst.trans hgrown) rfl fun _ h => Worth.map.inj h ▸ hkeyed
  · obtain ⟨_, s₂, hflat, h⟩ := bind_run_eq_ok_iff.mp h
    obtain ⟨pairs, s₃, hpairs, h⟩ := bind_run_eq_ok_iff.mp h
    obtain ⟨filled, s₄, hfilled, h⟩ := bind_run_eq_ok_iff.mp h
    cases h
    obtain ⟨hgrown, -⟩ := grown_flattened hfirst.sound hflat hpairs hfilled
    exact grown_of_parts hopen (hfirst.trans hgrown) rfl nofun
  · nomatch h

theorem grown_fillAll {limit rounds : Nat} {u : Unit} (hs : s.IsSound)
    (h : (fillAll limit rounds).run s = .ok (u, s')) : s.Grown s' := by
  induction rounds generalizing s with
  | zero =>
      cases h
      exact hs.grown
  | succ rounds ih =>
      obtain ⟨_, _, hget, h⟩ := bind_run_eq_ok_iff.mp h
      cases hget
      dsimp only at h
      split at h
      · obtain ⟨_, _, hemptied, h⟩ := bind_run_eq_ok_iff.mp h
        cases hemptied
        obtain ⟨_, s₁, hfilled, h⟩ := bind_run_eq_ok_iff.mp h
        have hemptied : s.Grown { s with noted := [] } :=
          ⟨⟨hs.scalar, hs.keyed, nofun⟩, rfl, fun _ w h => ⟨w, h, rfl, fun _ => rfl⟩⟩
        have hfilled := grown_forM hemptied.sound (fun place hplace s₂ s₃ u hgrown =>
          grown_fill hgrown.sound ((hemptied.trans hgrown).isOpen
            (hs.noted place (List.mem_reverse.mp hplace)))) hfilled
        exact (hemptied.trans hfilled).trans (ih hfilled.sound h)
      · cases h
        exact hs.grown

end Valuing

/-! ## The whole run -/

theorem isSound_start (nodes : Array Node) (count : Nat) :
    Valuation.IsSound ⟨nodes, Array.replicate count none, []⟩ := by
  have hnone (place : Nat) :
      Valuation.worth? ⟨nodes, Array.replicate count none, []⟩ place = none := by
    rw [Valuation.worth?, Array.getD_eq_getD_getElem?, Array.getElem?_replicate]
    split <;> rfl
  exact
    { scalar := fun place _ _ h => nomatch (hnone place).symm.trans h
      keyed := fun place _ h => nomatch (hnone place).symm.trans h
      noted := nofun }

/-- What each node is worth in the end; one of which nothing is known is worth nothing. -/
def Valuation.settled (s : Valuation) : Array Worth :=
  s.worths.map fun worth => worth.getD (.plain .null false)

theorem isSound_of_worths {g : Graph} {worths : Array Worth} (h : g.worths = .ok worths) :
    ∃ s : Valuation, s.IsSound ∧ worths = s.settled := by
  obtain ⟨⟨_, s⟩, hrun, h⟩ := bind_eq_ok_iff.mp h
  cases h
  obtain ⟨_, s₁, hmet, hfilled⟩ := Valuing.bind_run_eq_ok_iff.mp hrun
  have hgrown := Valuing.grown_meet (isSound_start _ _) hmet
  exact ⟨s, (Valuing.grown_fillAll hgrown.sound hfilled).sound, rfl⟩

end PageGrep.Yaml
