/-
# What is read is exact

Not every value is held exactly by its written form, but a value that was read from a text
nearly is.  A name that is given again in an object replaces what it had, so no object has
a name twice (`nodup_ofFields`); and a whole number with too many digits is refused, so one
that was read is written with no more digits than are read again (`isShort_decimalValue`).
What is left are the numbers of the binary format, which may be written in other words than
they were read from: without them a value that was read is exact (`isExact_of_parse`).

The induction follows the readers.  Of fields that were read, those that are replaced need
not be free of such numbers, so what is shown of each value on its own is that it is exact
if it is free of them.
-/
import Mathlib.Algebra.Group.Nat.Defs
import PageGrep.Proofs.Except
import PageGrep.Proofs.Json.RoundTrip

namespace PageGrep.Json

/-! ## Numbers of the binary format -/

mutual

/-- Whether there is no number of the binary format anywhere in a value. -/
def HasNoFloat : Json → Prop
  | .null | .bool _ | .int _ | .str _ => True
  | .float _ => False
  | .arr items => HaveNoFloat items
  | .obj fields => HoldNoFloat fields

/-- Whether there is no such number in the items of a list. -/
def HaveNoFloat : List Json → Prop
  | [] => True
  | item :: items => item.HasNoFloat ∧ HaveNoFloat items

/-- Whether there is no such number in the values of fields. -/
def HoldNoFloat : List (String × Json) → Prop
  | [] => True
  | (_, value) :: fields => value.HasNoFloat ∧ HoldNoFloat fields

end

theorem haveNoFloat_iff {items : List Json} : HaveNoFloat items ↔ ∀ v ∈ items, v.HasNoFloat := by
  induction items with
  | nil => simp [HaveNoFloat]
  | cons item items ih => rw [HaveNoFloat, ih, List.forall_mem_cons]

theorem holdNoFloat_iff {fields : List (String × Json)} :
    HoldNoFloat fields ↔ ∀ f ∈ fields, f.2.HasNoFloat := by
  induction fields with
  | nil => simp [HoldNoFloat]
  | cons field fields ih => rw [HoldNoFloat, ih, List.forall_mem_cons]

/-- Whether a value is held exactly by its written form but for such numbers. -/
def IsExactButFloats (v : Json) : Prop := v.HasNoFloat → v.IsExact

/-! ## Whole numbers -/

theorem foldl_digits_lt {digits : List Char} (h : ∀ c ∈ digits, isDecimal c = true) (n : Nat) :
    digits.foldl (fun n c => n * 10 + (c.toNat - 48)) n < (n + 1) * 10 ^ digits.length := by
  induction digits generalizing n with
  | nil => simp
  | cons c digits ih =>
      obtain ⟨hc, hdigits⟩ := List.forall_mem_cons.mp h
      have hdigit : c.toNat - 48 < 10 := by
        have hnine : '9'.toNat = 57 := rfl
        simp only [isDecimal, Text.isBasicDigit, Bool.and_eq_true, decide_eq_true_eq] at hc
        omega
      calc List.foldl (fun n c => n * 10 + (c.toNat - 48)) n (c :: digits)
          < (n * 10 + (c.toNat - 48) + 1) * 10 ^ digits.length := ih hdigits _
        _ ≤ (n + 1) * 10 * 10 ^ digits.length := Nat.mul_le_mul_right _ (by omega)
        _ = (n + 1) * 10 ^ (c :: digits).length := by
          rw [List.length_cons, Nat.pow_succ', Nat.mul_assoc]

theorem isShort_decimalValue {digits : List Char} (h : ∀ c ∈ digits, isDecimal c = true)
    (hlimit : digits.length ≤ Text.Numeral.digitLimit) : IsShort (decimalValue digits) := by
  have hvalue : decimalValue digits < 10 ^ digits.length := by
    simpa [decimalValue] using foldl_digits_lt h 0
  have hpower : 10 ^ digits.length ≤ 10 ^ Text.Numeral.digitLimit :=
    Nat.pow_le_pow_right (by decide) hlimit
  exact (Nat.length_toDigits_le_iff (by decide) (by decide)).mpr (Nat.lt_of_lt_of_le hvalue hpower)

theorem isDecimal_of_readWhole {cs whole rest : List Char}
    (h : readWhole cs = some (whole, rest)) : ∀ c ∈ whole, isDecimal c = true := by
  unfold readWhole at h
  split at h
  · cases h
    exact List.forall_mem_singleton.mpr rfl
  · split at h
    · cases h
      exact List.all_eq_true.mp List.all_takeWhile
    · nomatch h
  · nomatch h

theorem isExactButFloats_of_readNumber {cs rest : List Char} {v : Json}
    (h : readNumber cs = .ok (v, rest)) : v.IsExactButFloats := by
  unfold readNumber at h
  split at h
  rename_i negative unsigned _
  split at h
  · nomatch h
  · rename_i whole after hwhole
    split at h
    split at h
    split at h
    · split at h
      · nomatch h
      · rename_i hlimit
        have hshort := isShort_decimalValue (isDecimal_of_readWhole hwhole) (Nat.not_lt.mp hlimit)
        obtain ⟨rfl, -⟩ := Prod.mk.inj (Except.ok.inj h)
        intro _
        rw [IsExact]
        split
        · rwa [Int.natAbs_neg, Int.natAbs_natCast]
        · rwa [Int.natAbs_natCast]
    · obtain ⟨rfl, -⟩ := Prod.mk.inj (Except.ok.inj h)
      intro hfloat
      rw [HasNoFloat] at hfloat
      exact hfloat.elim

theorem isExactButFloats_of_readWord? {cs rest : List Char} {v : Json}
    (h : readWord? cs = some (v, rest)) : v.IsExactButFloats := by
  have hwords : ∀ entry ∈ words, entry.2.IsExactButFloats := by
    simp [words, IsExactButFloats, HasNoFloat, IsExact]
  obtain ⟨entry, hmem, hfound⟩ := List.exists_of_findSome?_eq_some h
  dsimp only at hfound
  split at hfound
  · cases hfound
    exact hwords entry hmem
  · nomatch hfound

/-! ## Objects -/

section Put

variable {α : Type} {name : String} {value : α} {fields : List (String × α)}

/-- The names are the same if the name is there; else it comes last. -/
theorem names_put (name : String) (value : α) (fields : List (String × α)) :
    (put name value fields).map Prod.fst
      = if name ∈ fields.map Prod.fst then fields.map Prod.fst
        else fields.map Prod.fst ++ [name] := by
  induction fields with
  | nil => rfl
  | cons field fields ih =>
      obtain ⟨key, old⟩ := field
      by_cases hkey : key = name
      · subst hkey
        simp [put]
      · have hne : name ≠ key := Ne.symm hkey
        simp only [put, beq_iff_eq, if_neg hkey, List.map_cons, ih, List.mem_cons, hne, false_or]
        split <;> rfl

theorem nodup_put (h : (fields.map Prod.fst).Nodup) :
    ((put name value fields).map Prod.fst).Nodup := by
  rw [names_put]
  split
  · exact h
  · rename_i hnew
    rw [List.nodup_append]
    refine ⟨h, by simp, ?_⟩
    intro other hother last hlast heq
    rw [List.mem_singleton.mp hlast] at heq
    exact hnew (heq ▸ hother)

theorem of_mem_put {f : String × α} (h : f ∈ put name value fields) :
    f.2 = value ∨ f ∈ fields := by
  induction fields with
  | nil =>
      rw [List.mem_singleton.mp h]
      exact .inl rfl
  | cons field fields ih =>
      obtain ⟨key, old⟩ := field
      rw [put] at h
      split at h
      · rcases List.mem_cons.mp h with rfl | hmem
        · exact .inl rfl
        · exact .inr (List.mem_cons_of_mem _ hmem)
      · rcases List.mem_cons.mp h with rfl | hmem
        · exact .inr List.mem_cons_self
        · exact (ih hmem).imp_right (List.mem_cons_of_mem _)

end Put

/-- Fields put one after the other have different names, and their values are among those that
were put. -/
theorem foldl_put_spec {α : Type} {P : α → Prop} (done : List (String × α))
    {fields : List (String × α)} (hnames : (done.map Prod.fst).Nodup) (hdone : ∀ f ∈ done, P f.2)
    (hfields : ∀ f ∈ fields, P f.2) :
    ((fields.foldl (fun done field => put field.1 field.2 done) done).map Prod.fst).Nodup ∧
      ∀ f ∈ fields.foldl (fun done field => put field.1 field.2 done) done, P f.2 := by
  induction fields generalizing done with
  | nil => exact ⟨hnames, hdone⟩
  | cons field fields ih =>
      obtain ⟨hfield, hfields⟩ := List.forall_mem_cons.mp hfields
      refine ih _ (nodup_put hnames) ?_ hfields
      intro f hf
      rcases of_mem_put hf with heq | hmem
      · rwa [heq]
      · exact hdone f hmem

theorem isExactButFloats_ofFields {fields : List (String × Json)}
    (h : ∀ f ∈ fields, f.2.IsExactButFloats) : (ofFields fields).IsExactButFloats := by
  obtain ⟨hnames, hvalues⟩ := foldl_put_spec [] List.nodup_nil (List.forall_mem_nil _) h
  intro hfloat
  rw [ofFields, HasNoFloat, holdNoFloat_iff] at hfloat
  rw [ofFields, IsExact, holdExact_iff]
  exact ⟨hnames, fun f hf => hvalues f hf (hfloat f hf)⟩

theorem isExactButFloats_arr {items : List Json} (h : ∀ v ∈ items, v.IsExactButFloats) :
    (arr items).IsExactButFloats := by
  intro hfloat
  rw [HasNoFloat, haveNoFloat_iff] at hfloat
  rw [IsExact, areExact_iff]
  exact fun v hv => h v hv (hfloat v hv)

/-! ## Values -/

/-- What the readers of values, items and fields give is exact but for numbers of the binary
format, with so much fuel. -/
structure ReadsExact (fuel : Nat) : Prop where
  value : ∀ {cs v rest}, readValue fuel cs = .ok (v, rest) → v.IsExactButFloats
  items : ∀ {cs items rest}, readItems fuel cs = .ok (items, rest) →
    ∀ v ∈ items, v.IsExactButFloats
  fields : ∀ {cs fields rest}, readFields fuel cs = .ok (fields, rest) →
    ∀ f ∈ fields, f.2.IsExactButFloats

theorem readsExact_zero : ReadsExact 0 where
  value h := by
    rw [readValue] at h
    cases h
  items h := by
    rw [readItems] at h
    cases h
  fields h := by
    rw [readFields] at h
    cases h

section Step

variable {fuel : Nat} (ih : ReadsExact fuel) {cs rest : List Char}
include ih

theorem ReadsExact.value_succ {v : Json} (h : readValue (fuel + 1) cs = .ok (v, rest)) :
    v.IsExactButFloats := by
  rw [readValue.eq_def] at h
  dsimp only at h
  split at h
  -- a text
  · obtain ⟨⟨s, after⟩, -, heq⟩ := map_eq_ok_iff.mp h
    cases heq
    exact fun _ => by rw [IsExact]; trivial
  -- a list
  · split at h
    · cases h
      exact isExactButFloats_arr (List.forall_mem_nil _)
    · obtain ⟨⟨items, after⟩, hitems, heq⟩ := map_eq_ok_iff.mp h
      cases heq
      exact isExactButFloats_arr (ih.items hitems)
  -- an object
  · split at h
    · cases h
      exact isExactButFloats_ofFields (List.forall_mem_nil _)
    · obtain ⟨⟨fields, after⟩, hfields, heq⟩ := map_eq_ok_iff.mp h
      cases heq
      exact isExactButFloats_ofFields (ih.fields hfields)
  -- a word or a number
  · split at h
    · rename_i found hword
      cases h
      exact isExactButFloats_of_readWord? hword
    · exact isExactButFloats_of_readNumber h

theorem ReadsExact.items_succ {items : List Json}
    (h : readItems (fuel + 1) cs = .ok (items, rest)) : ∀ v ∈ items, v.IsExactButFloats := by
  rw [readItems] at h
  split at h
  · cases h
  · rename_i first after hfirst
    have hexact := ih.value hfirst
    split at h
    · cases h
      exact List.forall_mem_singleton.mpr hexact
    · obtain ⟨⟨others, last⟩, hothers, heq⟩ := map_eq_ok_iff.mp h
      cases heq
      exact List.forall_mem_cons.mpr ⟨hexact, ih.items hothers⟩
    · cases h

theorem ReadsExact.fields_succ {fields : List (String × Json)}
    (h : readFields (fuel + 1) cs = .ok (fields, rest)) :
    ∀ f ∈ fields, f.2.IsExactButFloats := by
  rw [readFields.eq_def] at h
  dsimp only at h
  split at h
  · split at h
    · cases h
    · split at h
      · split at h
        · cases h
        · rename_i first after hfirst
          have hexact := ih.value hfirst
          split at h
          · cases h
            exact List.forall_mem_singleton.mpr hexact
          · obtain ⟨⟨others, last⟩, hothers, heq⟩ := map_eq_ok_iff.mp h
            cases heq
            exact List.forall_mem_cons.mpr ⟨hexact, ih.fields hothers⟩
          · cases h
      · cases h
  · cases h

end Step

theorem readsExact (fuel : Nat) : ReadsExact fuel := by
  induction fuel with
  | zero => exact readsExact_zero
  | succ fuel ih => exact ⟨ih.value_succ, ih.items_succ, ih.fields_succ⟩

theorem isExact_of_parse {s : String} {v : Json} (h : parse s = .ok v)
    (hfloat : v.HasNoFloat) : v.IsExact := by
  have hchars : parseChars s.toList = .ok v := by
    rw [parse] at h
    split at h
    · rename_i value hvalue
      rw [hvalue, Except.ok.inj h]
    · cases h
  rw [parseChars.eq_def] at hchars
  split at hchars
  · cases hchars
  · split at hchars
    · cases hchars
    · rename_i value after hvalue
      split at hchars
      · cases hchars
        exact (readsExact _).value hvalue hfloat
      · cases hchars

end PageGrep.Json
