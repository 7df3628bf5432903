/-
# Names in a mapping

Settings stand under the texts among the keys of a mapping.  Other keys may stand between
them; no text is the same key as one that is no text (`Value.name?_eq_of_sameKey`), so what is
put under a key is seen under the name of that key and nowhere else (`Mapping.named?_put`).

The main statements say what one level of a mapping is after others are laid over it: what stands
under a name (`Mapping.named?_layered`), and which names there are, in which order
(`Mapping.names_layered`).
-/
import PageGrep.Config.Layers

namespace PageGrep

/-- The name that a key is, if it is one. -/
def Value.name? : Value → Option String
  | .str s => some s
  | _ => none

namespace Value

theorem name?_eq_some_iff {v : Value} {name : String} : v.name? = some name ↔ v = .str name := by
  cases v with
  | str s => exact ⟨fun h => congrArg Value.str (Option.some.inj h), fun h => h ▸ rfl⟩
  | _ => exact ⟨nofun, nofun⟩

theorem name?_eq_of_sameKey {a b : Value} (h : a.sameKey b = true) : a.name? = b.name? := by
  cases a with
  | str s =>
      cases b with
      | str t => exact congrArg some (beq_iff_eq.mp h)
      | _ => nomatch h
  | _ =>
      cases b with
      | str t => simp [sameKey, whole?] at h
      | _ => rfl

theorem sameKey_str_iff {v : Value} {name : String} :
    v.sameKey (.str name) = true ↔ v.name? = some name := by
  refine ⟨name?_eq_of_sameKey, fun h => ?_⟩
  rw [name?_eq_some_iff.mp h]
  exact beq_self_eq_true name

end Value

namespace Mapping

/-- The names among the keys of a mapping, in order. -/
def names (m : Mapping) : List String := m.filterMap fun pair => pair.1.name?

variable {name : String} {key value : Value} {m lower upper : Mapping}

@[simp] theorem names_nil : names [] = [] := rfl

theorem names_cons : names ((key, value) :: m) = key.name?.toList ++ names m := by
  unfold names
  cases h : key.name? <;> simp [h]

@[simp] theorem named?_nil : named? name [] = none := rfl

theorem named?_cons :
    named? name ((key, value) :: m)
      = if key.name? = some name then some value else named? name m := by
  unfold named? get?
  rw [List.find?_cons]
  by_cases h : key.name? = some name
  · rw [if_pos h, Value.sameKey_str_iff.mpr h]
    rfl
  · rw [if_neg h, Bool.eq_false_iff.mpr (mt Value.sameKey_str_iff.mp h)]

theorem names_append : names (lower ++ upper) = names lower ++ names upper :=
  List.filterMap_append

theorem named?_eq_none_iff : named? name m = none ↔ name ∉ names m := by
  induction m with
  | nil => simp
  | cons pair m ih =>
      obtain ⟨key, value⟩ := pair
      rw [named?_cons, names_cons]
      by_cases h : key.name? = some name
      · simp [h]
      · simp [h, ih]

theorem mem_of_named? (h : named? name m = some value) : (.str name, value) ∈ m := by
  induction m with
  | nil => nomatch h
  | cons pair m ih =>
      obtain ⟨key, old⟩ := pair
      rw [named?_cons] at h
      split at h
      · rename_i hname
        rw [Value.name?_eq_some_iff.mp hname, Option.some.inj h]
        exact List.mem_cons_self
      · exact List.mem_cons_of_mem _ (ih h)

theorem mem_names_of_mem (h : (.str name, value) ∈ m) : name ∈ names m :=
  List.mem_filterMap.mpr ⟨_, h, rfl⟩

theorem named?_eq_some_of_mem (hm : (names m).Nodup) (h : (.str name, value) ∈ m) :
    named? name m = some value := by
  induction m with
  | nil => nomatch h
  | cons pair m ih =>
      obtain ⟨key, old⟩ := pair
      rw [names_cons, List.nodup_append] at hm
      rw [named?_cons]
      rcases List.mem_cons.mp h with heq | hmem
      · cases heq
        exact if_pos rfl
      · rw [if_neg, ih hm.2.1 hmem]
        intro hname
        exact hm.2.2 name (by simp [hname]) name (mem_names_of_mem hmem) rfl

/-! ## Putting -/

/-- What is put under a key is found under the name of that key, and under no other. -/
theorem named?_put :
    named? name (put key value m)
      = if key.name? = some name then some value else named? name m := by
  induction m with
  | nil => rw [put, named?_cons]
  | cons pair m ih =>
      obtain ⟨k, old⟩ := pair
      rw [put]
      split
      · rename_i hsame
        rw [named?_cons, named?_cons, Value.name?_eq_of_sameKey hsame]
        split <;> rfl
      · rename_i hother
        rw [named?_cons, named?_cons, ih]
        split
        · rename_i hk
          rw [if_neg]
          intro hkey
          refine hother ?_
          rw [Value.name?_eq_some_iff.mp hkey]
          exact Value.sameKey_str_iff.mpr hk
        · rfl

theorem names_put_of_none (h : key.name? = none) : names (put key value m) = names m := by
  induction m with
  | nil => rw [put, names_cons, h]; rfl
  | cons pair m ih =>
      obtain ⟨k, old⟩ := pair
      rw [put]
      split
      · rw [names_cons, names_cons]
      · rw [names_cons, names_cons, ih]

theorem names_put_str :
    names (put (.str name) value m)
      = if name ∈ names m then names m else names m ++ [name] := by
  induction m with
  | nil => rfl
  | cons pair m ih =>
      obtain ⟨k, old⟩ := pair
      rw [put, names_cons]
      by_cases hk : k.name? = some name
      · rw [if_pos (Value.sameKey_str_iff.mpr hk), names_cons, hk]
        exact (if_pos List.mem_cons_self).symm
      · rw [if_neg (mt Value.sameKey_str_iff.mp hk), names_cons, ih]
        by_cases hmem : name ∈ names m
        · simp [hmem]
        · simp [hmem, hk]

theorem put_of_get? (h : get? key m = some value) : put key value m = m := by
  induction m with
  | nil => nomatch h
  | cons pair m ih =>
      obtain ⟨k, old⟩ := pair
      rw [get?, List.find?_cons] at h
      rw [put]
      split at h
      · rename_i hsame
        obtain rfl : old = value := Option.some.inj h
        exact if_pos hsame
      · rename_i hother
        rw [if_neg (Bool.eq_false_iff.mp hother), ih h]

theorem put_of_get?_eq_none (h : get? key m = none) : put key value m = m ++ [(key, value)] := by
  induction m with
  | nil => rfl
  | cons pair m ih =>
      obtain ⟨k, old⟩ := pair
      rw [get?, List.find?_cons] at h
      rw [put]
      split at h
      · nomatch h
      · rename_i hother
        rw [if_neg (Bool.eq_false_iff.mp hother), ih h]
        rfl

/-! ## Laying over -/

/-- What stands under a name after others are laid over: what they have there, laid over what
stood there, else what stood there. -/
theorem named?_layered (hupper : (names upper).Nodup) :
    named? name (layered lower upper)
      = match named? name upper with
        | some v => some (Value.layered (named? name lower) v)
        | none => named? name lower := by
  induction upper generalizing lower with
  | nil => rw [layered, named?_nil]
  | cons pair rest ih =>
      obtain ⟨key, value⟩ := pair
      rw [names_cons, List.nodup_append] at hupper
      rw [layered, ih hupper.2.1, named?_put, named?_cons]
      by_cases hkey : key.name? = some name
      · have hrest : named? name rest = none := by
          rw [named?_eq_none_iff]
          intro hmem
          exact hupper.2.2 name (by simp [hkey]) name hmem rfl
        rw [hrest, if_pos hkey, if_pos hkey, Value.name?_eq_some_iff.mp hkey]
        rfl
      · rw [if_neg hkey, if_neg hkey]

/-- The names keep their order, and those that only the upper mapping has follow in its order. -/
theorem names_layered (hupper : (names upper).Nodup) :
    names (layered lower upper)
      = names lower ++ (names upper).filter fun name => decide (name ∉ names lower) := by
  induction upper generalizing lower with
  | nil => simp [layered]
  | cons pair rest ih =>
      obtain ⟨key, value⟩ := pair
      rw [names_cons, List.nodup_append] at hupper
      rw [layered, ih hupper.2.1, names_cons]
      cases hkey : key.name? with
      | none => rw [names_put_of_none hkey]; rfl
      | some name =>
          rw [Value.name?_eq_some_iff.mp hkey, names_put_str]
          by_cases hmem : name ∈ names lower
          · rw [if_pos hmem]
            simp [hmem]
          · rw [if_neg hmem, Option.toList_some, List.singleton_append, List.filter_cons,
              if_pos (decide_eq_true hmem), List.append_assoc, List.singleton_append]
            have hrest : ∀ other ∈ names rest,
                decide (other ∉ names lower ++ [name]) = decide (other ∉ names lower) := by
              intro other hother
              have hne : other ≠ name := fun h =>
                hupper.2.2 name (by simp [hkey]) other hother h.symm
              simp [hne]
            rw [List.filter_congr hrest]

end Mapping

end PageGrep
