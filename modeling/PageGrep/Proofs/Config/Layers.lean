/-
# What settings laid over others change

A setting is found by the names on the way to it through mappings in mappings
(`Mapping.at?`).  Laid over others, settings replace what they state and leave the rest:
`Value.at?_layered_eq_some_iff` says what is found on every way, from what the two layers have
there.  A way may be cut off: where the upper layer has no mapping, nothing of the lower one is left
below (`Value.EndsAbove`).

Laying the same settings over once more changes nothing (`Mapping.layered_layered`), and
neither does laying settings over themselves (`Mapping.layered_self`).  Both are about settings of
which every key is a name and none stands twice, at every level (`Mapping.IsNamed`).
-/
import PageGrep.Proofs.Config.Names

namespace PageGrep

/-! ## Ways -/

namespace Value

def isMapping : Value → Bool
  | .map _ => true
  | _ => false

/-- What stands under a name in a value, if it is a mapping. -/
def under? (name : String) : Value → Option Value
  | .map m => Mapping.named? name m
  | _ => none

/-- The names in a value, if it is a mapping. -/
def names : Value → List String
  | .map m => Mapping.names m
  | _ => []

/-- What names lead to, one after the other. -/
def at? : List String → Value → Option Value
  | [], v => some v
  | name :: path, v => (v.under? name).bind (at? path)

/-- Before its last name a way comes to a value that is no mapping. -/
def EndsAbove (v : Value) (path : List String) : Prop :=
  ∃ above, above <+: path ∧ above ≠ path ∧ ∃ w, v.at? above = some w ∧ w.isMapping = false

variable {v w : Value} {name : String} {path : List String}

theorem isMapping_iff : v.isMapping = true ↔ ∃ m, v = .map m := by
  cases v with
  | map m => exact ⟨fun _ => ⟨m, rfl⟩, fun _ => rfl⟩
  | _ => exact ⟨nofun, nofun⟩

theorem under?_of_not_mapping (h : v.isMapping = false) : v.under? name = none := by
  cases v with
  | map _ => nomatch h
  | _ => rfl

theorem exists_map_of_under? (h : v.under? name = some w) : ∃ m, v = .map m := by
  cases v with
  | map m => exact ⟨m, rfl⟩
  | _ => nomatch h

theorem exists_map_of_at? {m : Mapping} (h : v.at? path = some (.map m)) : ∃ m, v = .map m := by
  cases path with
  | nil => exact ⟨m, Option.some.inj h⟩
  | cons name path =>
      obtain ⟨w, hw, -⟩ := Option.bind_eq_some_iff.mp h
      exact exists_map_of_under? hw

theorem names_of_not_mapping (h : v.isMapping = false) : v.names = [] := by
  cases v with
  | map _ => nomatch h
  | _ => rfl

theorem endsAbove_cons_iff :
    v.EndsAbove (name :: path)
      ↔ v.isMapping = false ∨ ∃ w, v.under? name = some w ∧ w.EndsAbove path := by
  constructor
  · rintro ⟨above, hprefix, hne, u, hu, hleaf⟩
    cases above with
    | nil =>
        cases hu
        exact .inl hleaf
    | cons n above =>
        obtain ⟨rfl, hrest⟩ := List.cons_prefix_cons.mp hprefix
        obtain ⟨w, hw, hu⟩ := Option.bind_eq_some_iff.mp hu
        exact .inr ⟨w, hw, above, hrest, fun h => hne (h ▸ rfl), u, hu, hleaf⟩
  · rintro (hleaf | ⟨w, hw, above, hprefix, hne, u, hu, hleaf⟩)
    · exact ⟨[], List.nil_prefix, nofun, v, rfl, hleaf⟩
    · refine ⟨name :: above, List.cons_prefix_cons.mpr ⟨rfl, hprefix⟩, ?_, u, ?_, hleaf⟩
      · exact fun h => hne (List.cons.inj h).2
      · rw [at?, hw]
        exact hu

theorem not_endsAbove_nil : ¬ v.EndsAbove [] :=
  fun ⟨_, hprefix, hne, _⟩ => hne (List.prefix_nil.mp hprefix)

instance decEndsAbove : (path : List String) → (v : Value) → Decidable (v.EndsAbove path)
  | [], _ => .isFalse not_endsAbove_nil
  | name :: path, v =>
    have : Decidable (∃ w, v.under? name = some w ∧ w.EndsAbove path) :=
      match v.under? name with
      | none => .isFalse nofun
      | some w =>
        have := decEndsAbove path w
        decidable_of_iff (w.EndsAbove path) (by simp)
    decidable_of_iff _ endsAbove_cons_iff.symm

/-! ## Laying one value over another -/

variable {lower : Option Value} {upper : Value}

theorem layered_of_not_mapping (h : upper.isMapping = false) : layered lower upper = upper := by
  cases upper with
  | map pairs => nomatch h
  | _ => simp [layered]

theorem layered_maps {m m' : Mapping} :
    layered (some (.map m)) (.map m') = .map (Mapping.layered m m') := by
  rw [layered]

/-- Of two mappings one is laid over the other; else the upper value stands as it is. -/
theorem layered_cases (lower : Option Value) (upper : Value) :
    layered lower upper = upper
      ∨ ∃ below m, lower = some (.map below) ∧ upper = .map m
          ∧ layered lower upper = .map (Mapping.layered below m) := by
  cases upper with
  | map m =>
      cases lower with
      | none => exact .inl (by rw [layered]; nofun)
      | some w =>
          cases w with
          | map below => exact .inr ⟨below, m, rfl, rfl, layered_maps⟩
          | _ => exact .inl (by rw [layered]; nofun)
  | _ => exact .inl (layered_of_not_mapping rfl)

@[simp] theorem layered_none : layered none v = v := by
  rcases layered_cases none v with h | ⟨_, _, hnone, _⟩
  · exact h
  · nomatch hnone

theorem layered_of_lower_not_mapping (h : w.isMapping = false) : layered (some w) v = v := by
  rcases layered_cases (some w) v with hlaid | ⟨_, _, hlower, _⟩
  · exact hlaid
  · rw [Option.some.inj hlower] at h
    nomatch h

@[simp] theorem isMapping_layered : (layered lower upper).isMapping = upper.isMapping := by
  rcases layered_cases lower upper with h | ⟨_, _, -, rfl, h⟩
  · rw [h]
  · rw [h]
    rfl

theorem exists_map_of_layered {m : Mapping} (h : layered lower upper = .map m) :
    ∃ m, upper = .map m := by
  rw [← isMapping_iff, ← isMapping_layered, h]
  rfl

end Value

/-! ## Every level -/

namespace Mapping

/-- Something holds of a mapping and of every mapping in it, at every level. -/
inductive Throughout (P : Mapping → Prop) : Mapping → Prop
  | intro {m : Mapping} : P m → (∀ key inner, (key, .map inner) ∈ m → Throughout P inner) →
      Throughout P m

/-- Every key of a mapping is a name, and none stands twice. -/
structure HasNames (m : Mapping) : Prop where
  named : ∀ pair ∈ m, ∃ name, pair.1 = .str name
  nodup : (names m).Nodup

/-- No name stands twice in a mapping or in one in it; there may be other keys. -/
def IsClear : Mapping → Prop := Throughout fun m => (names m).Nodup

/-- The keys of a mapping and of those in it are names, none of which stands twice. -/
def IsNamed : Mapping → Prop := Throughout HasNames

/-- What names lead to from a mapping. -/
def at? (m : Mapping) (path : List String) : Option Value := (Value.map m).at? path

/-- A way comes to its end before its last name. -/
def EndsAbove (m : Mapping) (path : List String) : Prop := (Value.map m).EndsAbove path

/-- The names of what names lead to, none if they lead to no mapping. -/
def namesAt (m : Mapping) (path : List String) : List String :=
  (m.at? path).elim [] Value.names

instance (m : Mapping) (path : List String) : Decidable (m.EndsAbove path) :=
  Value.decEndsAbove path (.map m)

variable {P Q : Mapping → Prop} {m lower upper : Mapping} {name : String} {path : List String}

theorem Throughout.here (h : Throughout P m) : P m := by
  cases h with
  | intro here _ => exact here

theorem Throughout.inside (h : Throughout P m) {key : Value} {inner : Mapping}
    (hmem : (key, .map inner) ∈ m) : Throughout P inner := by
  cases h with
  | intro _ below => exact below _ _ hmem

theorem Throughout.imp (hPQ : ∀ m, P m → Q m) (h : Throughout P m) : Throughout Q m := by
  induction h with
  | intro here _ ih => exact .intro (hPQ _ here) ih

instance (m : Mapping) : Decidable m.HasNames :=
  decidable_of_iff ((∀ pair ∈ m, pair.1.name?.isSome = true) ∧ m.names.Nodup) <| by
    simp only [Option.isSome_iff_exists, Value.name?_eq_some_iff]
    exact ⟨fun h => ⟨h.1, h.2⟩, fun h => ⟨h.1, h.2⟩⟩

theorem isNamed_of_flat (hm : m.HasNames) (hflat : ∀ pair ∈ m, pair.2.isMapping = false) :
    m.IsNamed :=
  .intro hm fun _ _ hmem => nomatch hflat _ hmem

theorem IsNamed.isClear (h : m.IsNamed) : m.IsClear := h.imp fun _ => HasNames.nodup

theorem Throughout.of_at? (h : Throughout P m) {inner : Mapping}
    (hinner : m.at? path = some (.map inner)) : Throughout P inner := by
  induction path generalizing m with
  | nil =>
      cases hinner
      exact h
  | cons name path ih =>
      obtain ⟨v, hv, hinner⟩ := Option.bind_eq_some_iff.mp hinner
      obtain ⟨m', rfl⟩ := Value.exists_map_of_at? hinner
      exact ih (h.inside (mem_of_named? hv)) hinner

theorem HasNames.keys_eq (h : m.HasNames) : m.map Prod.fst = m.names.map .str := by
  obtain ⟨hnamed, -⟩ := h
  induction m with
  | nil => rfl
  | cons pair m ih =>
      obtain ⟨key, value⟩ := pair
      obtain ⟨name, rfl⟩ : ∃ name, key = .str name := hnamed _ List.mem_cons_self
      rw [List.map_cons, ih fun pair hpair => hnamed pair (List.mem_cons_of_mem _ hpair),
        names_cons]
      rfl

/-- Keys that are the same keep one of the two, so what holds of all keys holds of those after
putting. -/
theorem forall_key_put {P : Value → Prop} {key value : Value} (hkey : P key)
    (hm : ∀ pair ∈ m, P pair.1) : ∀ pair ∈ put key value m, P pair.1 := by
  induction m with
  | nil =>
      intro pair hpair
      rw [List.mem_singleton.mp hpair]
      exact hkey
  | cons first m ih =>
      obtain ⟨k, old⟩ := first
      obtain ⟨hk, hm⟩ := List.forall_mem_cons.mp hm
      rw [put]
      split
      · exact List.forall_mem_cons.mpr ⟨hk, hm⟩
      · exact List.forall_mem_cons.mpr ⟨hk, ih hm⟩

theorem forall_key_layered {P : Value → Prop} (hlower : ∀ pair ∈ lower, P pair.1)
    (hupper : ∀ pair ∈ upper, P pair.1) : ∀ pair ∈ layered lower upper, P pair.1 := by
  induction upper generalizing lower with
  | nil => exact hlower
  | cons pair rest ih =>
      obtain ⟨key, value⟩ := pair
      obtain ⟨hkey, hrest⟩ := List.forall_mem_cons.mp hupper
      rw [layered]
      exact ih (forall_key_put hkey hlower) hrest

theorem HasNames.layered (hlower : lower.HasNames) (hupper : upper.HasNames) :
    (Mapping.layered lower upper).HasNames where
  named := forall_key_layered (P := fun key => ∃ name, key = .str name) hlower.named hupper.named
  nodup := by
    rw [names_layered hupper.nodup, List.nodup_append]
    refine ⟨hlower.nodup, hupper.nodup.filter _, fun name hname other hother => ?_⟩
    rintro rfl
    exact of_decide_eq_true (List.mem_filter.mp hother).2 hname

end Mapping

/-! ## What is found -/

/-- A value has its mappings throughout clear. -/
def Value.IsClear : Value → Prop
  | .map m => Mapping.IsClear m
  | _ => True

theorem Value.isClear_of_not_mapping {v : Value} (h : v.isMapping = false) : v.IsClear := by
  cases v with
  | map _ => nomatch h
  | _ => trivial

theorem Value.IsClear.under? {v w : Value} {name : String} (hv : v.IsClear)
    (h : v.under? name = some w) : w.IsClear := by
  cases v with
  | map m =>
      cases w with
      | map inner => exact Mapping.Throughout.inside hv (Mapping.mem_of_named? h)
      | _ => trivial
  | _ => nomatch h

/-- What stands under a name in layers: what the upper one has there, laid over what the lower
one has, or this alone if the upper one is a mapping that says nothing there. -/
theorem Value.under?_layered {lower : Option Value} {upper : Value} (hupper : upper.IsClear)
    (name : String) :
    (layered lower upper).under? name
      = match upper.under? name with
        | some v => some (layered (lower.bind (under? name)) v)
        | none => if upper.isMapping = false then none else lower.bind (under? name) := by
  cases hmap : upper.isMapping with
  | false => rw [layered_of_not_mapping hmap, under?_of_not_mapping hmap]; rfl
  | true =>
      obtain ⟨m, rfl⟩ := isMapping_iff.mp hmap
      rcases lower with - | w
      · rw [layered_none]
        cases (map m).under? name <;> simp
      · cases hw : w.isMapping with
        | false =>
            rw [layered_of_lower_not_mapping hw, Option.bind_some, under?_of_not_mapping hw]
            cases (map m).under? name <;> simp
        | true =>
            obtain ⟨below, rfl⟩ := isMapping_iff.mp hw
            rw [layered_maps]
            exact Mapping.named?_layered hupper.here

/-- What a way leads to in layers: where the upper one has something, that, laid over what the
lower one has there; where it has nothing, and no end above, what the lower one has. -/
theorem Value.at?_layered_eq_some_iff {upper v : Value} (hupper : upper.IsClear)
    (lower : Option Value) (path : List String) :
    (layered lower upper).at? path = some v
      ↔ (∃ w, upper.at? path = some w ∧ layered (lower.bind (at? path)) w = v)
        ∨ upper.at? path = none ∧ ¬ upper.EndsAbove path ∧ lower.bind (at? path) = some v := by
  induction path generalizing lower upper with
  | nil =>
      simp [at?]
  | cons name path ih =>
      have hbelow : (lower.bind (under? name)).bind (at? path) = lower.bind (at? (name :: path)) :=
        Option.bind_assoc ..
      rw [endsAbove_cons_iff]
      rw [at?, at?, under?_layered hupper]
      cases hentry : upper.under? name with
      | some w =>
          obtain ⟨m, rfl⟩ := exists_map_of_under? hentry
          simp only [Option.bind_some, ih (hupper.under? hentry), hbelow]
          simp [isMapping]
      | none =>
          cases hmap : upper.isMapping with
          | false => simp
          | true => simp [hbelow]

/-- The names of a mapping laid over a value: those of the value, in order, then those that are
new, in order. -/
theorem Value.names_layered {lower : Option Value} {upper : Mapping} (hupper : upper.names.Nodup) :
    (layered lower (.map upper)).names
      = lower.elim [] names ++ upper.names.filter
          fun name => decide (name ∉ lower.elim [] names) := by
  have hnew : upper.names = upper.names.filter fun name => decide (name ∉ ([] : List String)) :=
    (List.filter_eq_self.mpr fun _ _ => by simp).symm
  rcases lower with - | w
  · rw [layered_none]
    exact hnew
  · cases hw : w.isMapping with
    | false =>
        rw [layered_of_lower_not_mapping hw, Option.elim_some, names_of_not_mapping hw]
        exact hnew
    | true =>
        obtain ⟨below, rfl⟩ := isMapping_iff.mp hw
        rw [layered_maps]
        exact Mapping.names_layered hupper

namespace Mapping

section Layered

variable {lower upper : Mapping} {path : List String}

theorem at?_layered_eq_some_iff (hupper : upper.IsClear) {v : Value} :
    (layered lower upper).at? path = some v
      ↔ (∃ w, upper.at? path = some w ∧ Value.layered (lower.at? path) w = v)
        ∨ upper.at? path = none ∧ ¬ upper.EndsAbove path ∧ lower.at? path = some v := by
  have hupper : (Value.map upper).IsClear := hupper
  have h := Value.at?_layered_eq_some_iff (v := v) hupper (some (.map lower)) path
  rwa [Value.layered_maps] at h

/-- Layers have a value that is no mapping where the upper one has it, or where the lower one
has it and the upper one neither says anything nor ends above. -/
theorem at?_layered_of_not_mapping (hupper : upper.IsClear) {v : Value}
    (hv : v.isMapping = false) :
    (layered lower upper).at? path = some v
      ↔ upper.at? path = some v
        ∨ lower.at? path = some v ∧ upper.at? path = none ∧ ¬ upper.EndsAbove path := by
  rw [at?_layered_eq_some_iff hupper]
  refine or_congr ⟨?_, fun h => ⟨v, h, Value.layered_of_not_mapping hv⟩⟩
    ⟨fun ⟨hnone, hend, h⟩ => ⟨h, hnone, hend⟩, fun ⟨h, hnone, hend⟩ => ⟨hnone, hend, h⟩⟩
  rintro ⟨w, hw, rfl⟩
  rw [Value.isMapping_layered] at hv
  rw [hw, Value.layered_of_not_mapping hv]

/-- Layers have a mapping where the upper one has one, or where the lower one has one and the
upper one neither says anything nor ends above. -/
theorem exists_at?_layered_eq_map_iff (hupper : upper.IsClear) :
    (∃ m, (layered lower upper).at? path = some (.map m))
      ↔ (∃ m, upper.at? path = some (.map m))
        ∨ (∃ m, lower.at? path = some (.map m)) ∧ upper.at? path = none
          ∧ ¬ upper.EndsAbove path := by
  constructor
  · rintro ⟨m, hm⟩
    rcases (at?_layered_eq_some_iff hupper).mp hm with ⟨w, hw, hlaid⟩ | ⟨hnone, hend, hlower⟩
    · obtain ⟨m', rfl⟩ := Value.exists_map_of_layered hlaid
      exact .inl ⟨m', hw⟩
    · exact .inr ⟨⟨m, hlower⟩, hnone, hend⟩
  · rintro (⟨m, hm⟩ | ⟨⟨m, hm⟩, hnone, hend⟩)
    · have hmap : (Value.layered (lower.at? path) (.map m)).isMapping = true :=
        Value.isMapping_layered
      obtain ⟨m', hm'⟩ := Value.isMapping_iff.mp hmap
      exact ⟨m', (at?_layered_eq_some_iff hupper).mpr (.inl ⟨.map m, hm, hm'⟩)⟩
    · exact ⟨m, (at?_layered_eq_some_iff hupper).mpr (.inr ⟨hnone, hend, hm⟩)⟩

/-- The names of a mapping in layers are those that the lower layer has there, in its order,
then those that only the upper one has, in its order. -/
theorem namesAt_layered (hupper : upper.IsClear)
    (h : ∃ m, (layered lower upper).at? path = some (.map m)) :
    (layered lower upper).namesAt path
      = lower.namesAt path ++ (upper.namesAt path).filter
          fun name => decide (name ∉ lower.namesAt path) := by
  obtain ⟨m, hm⟩ := h
  unfold namesAt
  rcases (at?_layered_eq_some_iff hupper).mp hm with ⟨w, hw, hlaid⟩ | ⟨hnone, -, hin⟩
  · obtain ⟨m', rfl⟩ := Value.exists_map_of_layered hlaid
    rw [hm, hw, Option.elim_some, Option.elim_some, ← hlaid]
    exact Value.names_layered (hupper.of_at? hw).here
  · rw [hm, hnone, hin]
    simp

theorem IsNamed.layered (hlower : lower.IsNamed) (hupper : upper.IsNamed) :
    (Mapping.layered lower upper).IsNamed := by
  induction hupper generalizing lower with
  | @intro upper hupper hinside ih =>
      have hhere := HasNames.layered hlower.here hupper
      refine .intro hhere fun key inner hmem => ?_
      obtain ⟨name, rfl⟩ : ∃ name, key = .str name := hhere.named _ hmem
      have hnamed := named?_eq_some_of_mem hhere.nodup hmem
      rw [named?_layered hupper.nodup] at hnamed
      cases hstated : named? name upper with
      | none =>
          rw [hstated] at hnamed
          exact hlower.inside (mem_of_named? hnamed)
      | some v =>
          rw [hstated] at hnamed
          have hlaid := Option.some.inj hnamed
          rcases Value.layered_cases (named? name lower) v with h | ⟨below, m, hbelow, rfl, h⟩
          · obtain rfl : v = .map inner := h.symm.trans hlaid
            exact hinside _ _ (mem_of_named? hstated)
          · rw [← Value.map.inj (h.symm.trans hlaid)]
            exact ih _ _ (mem_of_named? hstated) (hlower.inside (mem_of_named? hbelow))

/-! ## Laying over again -/

/-- What the lower layer has already as the upper one would leave it stays as it is. -/
theorem layered_eq_self {m : Mapping}
    (h : ∀ pair ∈ upper, ∃ v, get? pair.1 m = some v ∧ Value.layered (some v) pair.2 = v) :
    Mapping.layered m upper = m := by
  induction upper with
  | nil => rw [Mapping.layered]
  | cons pair rest ih =>
      obtain ⟨key, value⟩ := pair
      obtain ⟨⟨v, hv, hlaid⟩, hrest⟩ := List.forall_mem_cons.mp h
      rw [Mapping.layered, hv, hlaid, put_of_get? hv, ih hrest]

theorem layered_of_disjoint (hupper : upper.HasNames)
    (hnew : ∀ name ∈ names upper, name ∉ names lower) :
    Mapping.layered lower upper = lower ++ upper := by
  induction upper generalizing lower with
  | nil => rw [Mapping.layered, List.append_nil]
  | cons pair rest ih =>
      obtain ⟨key, value⟩ := pair
      obtain ⟨⟨name, hkey⟩, hrest⟩ := List.forall_mem_cons.mp hupper.named
      obtain rfl : key = .str name := hkey
      have hnodup := hupper.nodup
      rw [names_cons, List.nodup_append] at hnodup
      have hnone : get? (.str name) lower = none :=
        named?_eq_none_iff.mpr (hnew name (mem_names_of_mem List.mem_cons_self))
      rw [Mapping.layered, hnone, Value.layered_none, put_of_get?_eq_none hnone,
        ih ⟨hrest, hnodup.2.1⟩, List.append_assoc]
      · rfl
      · intro other hother
        rw [names_append, List.mem_append, not_or]
        refine ⟨hnew other ?_, fun h => hnodup.2.2 other h other hother rfl⟩
        rw [names_cons]
        exact List.mem_append_right _ hother

theorem layered_nil {m : Mapping} (hm : m.HasNames) : Mapping.layered [] m = m :=
  layered_of_disjoint hm fun _ _ => by simp

theorem layered_layered (lower : Mapping) (hupper : upper.IsNamed) :
    Mapping.layered (Mapping.layered lower upper) upper = Mapping.layered lower upper := by
  induction hupper generalizing lower with
  | @intro upper hupper hinside ih =>
      refine layered_eq_self fun pair hpair => ?_
      obtain ⟨key, value⟩ := pair
      obtain ⟨name, hkey⟩ := hupper.named _ hpair
      obtain rfl : key = .str name := hkey
      refine ⟨Value.layered (named? name lower) value, ?_, ?_⟩
      · refine (named?_layered hupper.nodup).trans ?_
        rw [named?_eq_some_of_mem hupper.nodup hpair]
      · rcases Value.layered_cases (named? name lower) value with h | ⟨below, m, -, rfl, h⟩
        · rw [h]
          cases hmap : value.isMapping with
          | false => exact Value.layered_of_not_mapping hmap
          | true =>
              -- a mapping over itself is one laid twice over the empty mapping
              obtain ⟨m, rfl⟩ := Value.isMapping_iff.mp hmap
              have hself := ih _ _ hpair []
              rw [layered_nil (hinside _ _ hpair).here] at hself
              rw [Value.layered_maps, hself]
        · rw [h, Value.layered_maps, ih _ _ hpair]

theorem layered_self {m : Mapping} (hm : m.IsNamed) : Mapping.layered m m = m := by
  have h := layered_layered [] hm
  rwa [layered_nil hm.here] at h

end Layered

end Mapping

end PageGrep
