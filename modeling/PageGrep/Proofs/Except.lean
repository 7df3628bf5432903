/-
# Results that may be refused

What is read or checked in steps comes to a result if every step does.  The lemmas here take
such a result apart step by step, so that no proof about it opens the definition of a bind.
-/

namespace PageGrep

variable {ε α β : Type}

theorem map_eq_ok_iff {f : α → β} {x : Except ε α} {b : β} :
    x.map f = .ok b ↔ ∃ a, x = .ok a ∧ f a = b := by
  cases x <;> simp [Except.map]

theorem map_eq_error_iff {f : α → β} {x : Except ε α} {e : ε} :
    x.map f = .error e ↔ x = .error e := by
  cases x <;> simp [Except.map]

theorem bind_eq_ok_iff {x : Except ε α} {f : α → Except ε β} {b : β} :
    x >>= f = .ok b ↔ ∃ a, x = .ok a ∧ f a = .ok b := by
  cases x <;> simp [bind, Except.bind]

theorem mapError_eq_ok_iff {ε' : Type} {f : ε → ε'} {x : Except ε α} {a : α} :
    x.mapError f = .ok a ↔ x = .ok a := by
  cases x with
  | error _ => exact ⟨nofun, nofun⟩
  | ok _ => constructor <;> (rintro ⟨⟩; rfl)

theorem eq_ok_of_unless {p : Prop} [Decidable p] {e : ε} {rest : Unit → Except ε α} {a : α}
    (h : (if p then throw e >>= rest else rest ()) = .ok a) : ¬ p ∧ rest () = .ok a := by
  by_cases hp : p
  · rw [if_pos hp] at h
    nomatch h
  · rw [if_neg hp] at h
    exact ⟨hp, h⟩

/-! ## Errors of steps -/

section Errors

variable {P : ε → Prop}

/-- The errors of two steps are those of the first and, if it comes to a result, of the
second. -/
theorem forall_error_bind {x : Except ε α} {f : α → Except ε β}
    (hx : ∀ e, x = .error e → P e) (hf : ∀ a, x = .ok a → ∀ e, f a = .error e → P e) :
    ∀ e, x >>= f = .error e → P e := by
  intro e h
  cases x with
  | error e' => exact hx e (congrArg Except.error (Except.error.inj h))
  | ok a => exact hf a rfl e h

theorem forall_error_pure (a : α) : ∀ e : ε, (pure a : Except ε α) = .error e → P e :=
  nofun

theorem forall_error_unless {p : Prop} [Decidable p] {fault : ε} {rest : Unit → Except ε α}
    (hp : p → P fault) (hrest : ¬ p → ∀ e, rest () = .error e → P e) :
    ∀ e, (if p then throw fault >>= rest else rest ()) = .error e → P e := by
  intro e h
  by_cases hfault : p
  · rw [if_pos hfault] at h
    cases h
    exact hp hfault
  · rw [if_neg hfault] at h
    exact hrest hfault e h

end Errors

/-! ## Views of results -/

theorem eq_ok_of_toOption {x : Except ε α} {a : α} (h : x.toOption = some a) : x = .ok a := by
  cases x with
  | error _ => nomatch h
  | ok _ => exact congrArg Except.ok (Option.some.inj h)

theorem exists_of_toOption_map {f : α → β} {x : Except ε α} {b : β}
    (h : (x.map f).toOption = some b) : ∃ a, x = .ok a ∧ f a = b :=
  map_eq_ok_iff.mp (eq_ok_of_toOption h)

/-- The error, if there is one. -/
def errorOf? : Except ε α → Option ε
  | .error e => some e
  | .ok _ => none

theorem eq_error_of_errorOf? {x : Except ε α} {e : ε} (h : errorOf? x = some e) :
    x = .error e := by
  cases x with
  | error _ => exact congrArg Except.error (Option.some.inj h)
  | ok _ => nomatch h

theorem exists_of_mapM_eq_error {f : α → Except ε β} {xs : List α} {e : ε}
    (h : xs.mapM f = .error e) : ∃ x ∈ xs, f x = .error e := by
  induction xs with
  | nil => nomatch h
  | cons x xs ih =>
      rw [List.mapM_cons] at h
      cases hx : f x with
      | error e' =>
          rw [hx] at h
          cases h
          exact ⟨x, List.mem_cons_self, hx⟩
      | ok y =>
          cases hxs : xs.mapM f with
          | error e' =>
              rw [hx, hxs] at h
              obtain ⟨x', hmem, hx'⟩ := ih (hxs.trans h)
              exact ⟨x', List.mem_cons_of_mem _ hmem, hx'⟩
          | ok ys =>
              rw [hx, hxs] at h
              nomatch h

/-! ## Asking whether it holds of any -/

section AnyM

variable {asked : α → Except ε Bool} {xs : List α}

/-- What is asked of one element after the other comes to an answer only if it does of each
element that is asked. -/
theorem any_of_anyM_eq_ok {holds : α → Bool} (h : ∀ x b, asked x = .ok b → holds x = b) {b : Bool}
    (hasked : xs.anyM asked = .ok b) : xs.any holds = b := by
  induction xs with
  | nil =>
      cases hasked
      rfl
  | cons x xs ih =>
      rw [List.anyM_cons] at hasked
      obtain ⟨first, hfirst, hrest⟩ := bind_eq_ok_iff.mp hasked
      rw [List.any_cons, h x first hfirst]
      cases first with
      | false => exact ih hrest
      | true =>
          cases hrest
          rfl

theorem exists_of_anyM_eq_true (h : xs.anyM asked = .ok true) : ∃ x ∈ xs, asked x = .ok true := by
  induction xs with
  | nil => nomatch h
  | cons x xs ih =>
      rw [List.anyM_cons] at h
      obtain ⟨first, hfirst, hrest⟩ := bind_eq_ok_iff.mp h
      cases first with
      | true => exact ⟨x, List.mem_cons_self, hfirst⟩
      | false =>
          obtain ⟨x', hmem, hx'⟩ := ih hrest
          exact ⟨x', List.mem_cons_of_mem x hmem, hx'⟩

theorem exists_of_anyM_eq_error {e : ε} (h : xs.anyM asked = .error e) :
    ∃ x ∈ xs, asked x = .error e := by
  induction xs with
  | nil => nomatch h
  | cons x xs ih =>
      rw [List.anyM_cons] at h
      cases hx : asked x with
      | error e' =>
          rw [hx] at h
          cases h
          exact ⟨x, List.mem_cons_self, hx⟩
      | ok first =>
          rw [hx] at h
          cases first with
          | false =>
              obtain ⟨x', hmem, hx'⟩ := ih h
              exact ⟨x', List.mem_cons_of_mem x hmem, hx'⟩
          | true => nomatch h

end AnyM

end PageGrep
