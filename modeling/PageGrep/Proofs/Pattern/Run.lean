/-
# Greedy runs of one character

A greedy run of a class is walked from the most characters down.  So if what follows succeeds
after the longest run, the walk ends there, and nothing that was marked has to be taken back
(`walkRun_of_longest`); and if what follows fails after every run that the text has at the place,
the walk fails (`walkRun_of_none`).  Positions are told by the characters before them, so that
what is proved of a walk is said of the text and not of numbers.
-/
import PageGrep.Pattern.Basic

namespace PageGrep.Pattern

/-! ## Texts -/

/-- The code points of a text, as they are searched. -/
def codes (cs : List Char) : Array Nat := (cs.map Char.toNat).toArray

@[simp] theorem size_codes (cs : List Char) : (codes cs).size = cs.length := by
  rw [codes, List.size_toArray, List.length_map]

theorem getElem?_codes (front rest : List Char) :
    (codes (front ++ rest))[front.length]? = rest.head?.map Char.toNat := by
  cases rest <;> simp [codes]

def Class.takes (c : Class) (x : Char) : Bool := c.holds x.toNat

theorem Class.holdsAt_codes (c : Class) (front rest : List Char) :
    c.holdsAt (codes (front ++ rest)) front.length = rest.head?.any c.takes := by
  have hhead := getElem?_codes front rest
  rw [holdsAt]
  split
  · rename_i hlt
    rw [Array.getElem?_eq_getElem hlt] at hhead
    cases rest with
    | nil => nomatch hhead
    | cons x rest => rw [Option.some.inj hhead, List.head?_cons, Option.any_some, takes]
  · rename_i hge
    rw [Array.getElem?_eq_none (Nat.not_lt.mp hge)] at hhead
    rw [Option.map_eq_none_iff.mp hhead.symm, Option.any_none]

theorem runLength_codes (c : Class) (front rest : List Char) (so : Nat) :
    runLength (codes (front ++ rest)) c front.length so rest.length
      = so + (rest.takeWhile c.takes).length := by
  induction rest generalizing front so with
  | nil => rfl
  | cons x rest ih =>
      rw [List.length_cons, runLength, c.holdsAt_codes, List.head?_cons, Option.any_some,
        List.takeWhile_cons]
      split
      · have hnext := ih (front ++ [x]) (so + 1)
        rw [List.append_assoc, List.singleton_append, List.length_append, List.length_singleton]
          at hnext
        rw [hnext, List.length_cons]
        omega
      · rfl

theorem holds_lastLineEnd_codes (front rest : List Char) :
    Condition.lastLineEnd.holds (codes (front ++ rest)) front.length = true
      ↔ rest = [] ∨ rest = ['\n'] := by
  cases rest with
  | nil => simp [Condition.holds]
  | cons x rest =>
      have hfeed : x.toNat = 10 ↔ x = '\n' := Char.toNat_inj (d := '\n')
      have hcode : (codes (front ++ x :: rest)).getD front.length 0 = x.toNat := by
        rw [Array.getD_eq_getD_getElem?, getElem?_codes]
        rfl
      have hlast : front.length + 1 = (codes (front ++ x :: rest)).size ↔ rest = [] := by
        rw [size_codes, List.length_append, List.length_cons, ← List.length_eq_zero_iff]
        omega
      simp only [Condition.holds, hcode, Bool.or_eq_true, Bool.and_eq_true, beq_iff_eq, hlast,
        hfeed]
      simp [and_comm]

/-! ## Trails -/

namespace Trail

/-- A trail on which nothing was taken back: the places that were marked one after the other, and
room for more. -/
def along (places : List Nat) (room noted : Nat) : Trail :=
  ⟨(places.map some ++ List.replicate room none).toArray, places.length, noted⟩

@[simp] theorem note_along (places : List Nat) (room noted pos : Nat) :
    (along places room noted).note pos = along places room pos := rfl

theorem mark_along {places : List Nat} (number : Nat) (h : places.length = number)
    (room noted pos : Nat) :
    (along places (room + 1) noted).mark number pos = along (places ++ [pos]) room noted := by
  subst h
  simp [along, mark, forget, List.replicate_succ]

/-- The text that a group holds. -/
def textOf? (cs : List Char) (t : Trail) (group : Nat) : Option String :=
  (t.held? group).map fun ends => String.ofList ((cs.drop ends.1).take (ends.2 - ends.1))

theorem textOf?_along {cs front part rest : List Char} {places : List Nat} {group : Nat}
    (hcs : cs = front ++ (part ++ rest)) (hfirst : places[2 * group]? = some front.length)
    (hlast : places[2 * group + 1]? = some (front ++ part).length) (room noted : Nat) :
    (along places room noted).textOf? cs (group + 1) = some (String.ofList part) := by
  have hmarks (i : Nat) {place : Nat} (h : places[i]? = some place) :
      (along places room noted).marks.getD i none = some place := by
    obtain ⟨hi, hplace⟩ := List.getElem?_eq_some_iff.mp h
    simp [along, List.getElem?_append_left, hi, hplace]
  have hheld : (along places room noted).held? (group + 1)
      = some (front.length, (front ++ part).length) := by
    have hcounting : 2 * (group + 1) ≤ (along places room noted).counting :=
      (List.getElem?_eq_some_iff.mp hlast).1
    have hentered : 2 * (group + 1) - 2 = 2 * group := by omega
    have hleft : 2 * (group + 1) - 1 = 2 * group + 1 := by omega
    rw [held?, if_pos hcounting, hentered, hleft, hmarks _ hfirst, hmarks _ hlast]
    simp
  rw [textOf?, hheld, hcs]
  simp

end Trail

/-! ## Walks -/

section Walks

variable {text : Array Nat} {looping : Bool} {pos count : Nat} {k : Rest} {t t' : Trail}

theorem shorten_of_longest (h : k (pos + count) (t.note (pos + count)) = (true, t')) :
    shorten text looping none 0 pos k count t = (true, t') := by
  rw [shorten]
  simp [h]

theorem shorten_of_none (h : ∀ n ≤ count, ∀ t, (k (pos + n) t).1 = false) :
    (shorten text looping none 0 pos k count t).1 = false := by
  induction count generalizing t with
  | zero =>
      have hlast : k (pos + 0) (t.note (pos + 0)) = (false, (k (pos + 0) (t.note (pos + 0))).2) :=
        Prod.ext (h 0 (Nat.le_refl 0) _) rfl
      rw [shorten, hlast]
      rfl
  | succ count ih =>
      have hfirst : k (pos + (count + 1)) (t.note (pos + (count + 1)))
          = (false, (k (pos + (count + 1)) (t.note (pos + (count + 1)))).2) :=
        Prod.ext (h (count + 1) (Nat.le_refl _) _) rfl
      rw [shorten, hfirst]
      exact ih fun n hn => h n (Nat.le_succ_of_le hn)

/-- A greedy run without bounds of a class of characters as they are is walked from its longest
form down. -/
theorem walkRun_greedy {c : Class} (hc : c.isFoldedSet = false) (front rest : List Char) :
    walkRun (codes (front ++ rest)) looping none .greedy 0 none c front.length k t
      = shorten (codes (front ++ rest)) looping none 0 front.length k
          (rest.takeWhile c.takes).length (t.note front.length) := by
  simp [walkRun, runLength_codes, counted, hc]

theorem walkRun_of_longest {c : Class} (hc : c.isFoldedSet = false) {front rest : List Char}
    (h : k (front ++ rest.takeWhile c.takes).length
      ((t.note front.length).note (front ++ rest.takeWhile c.takes).length) = (true, t')) :
    walkRun (codes (front ++ rest)) looping none .greedy 0 none c front.length k t
      = (true, t') := by
  rw [walkRun_greedy hc]
  rw [List.length_append] at h
  exact shorten_of_longest h

theorem walkRun_of_none {c : Class} (hc : c.isFoldedSet = false) {front rest : List Char}
    (h : ∀ run more, rest = run ++ more → (∀ x ∈ run, c.takes x = true) →
      ∀ t, (k (front ++ run).length t).1 = false) :
    (walkRun (codes (front ++ rest)) looping none .greedy 0 none c front.length k t).1 = false := by
  rw [walkRun_greedy hc]
  refine shorten_of_none fun n hn t => ?_
  have hlonger : n ≤ rest.length := Nat.le_trans hn (List.takeWhile_prefix _).length_le
  have hrun : rest.take n <+: rest.takeWhile c.takes :=
    List.prefix_of_prefix_length_le (List.take_prefix n rest) (List.takeWhile_prefix _)
      (Nat.le_trans (List.length_take_le n rest) hn)
  have hfails := h (rest.take n) (rest.drop n) (List.take_append_drop n rest).symm
    (fun x hx => (List.all_eq_true.mp List.all_takeWhile) x (hrun.mem hx)) t
  rwa [List.length_append, List.length_take_of_le hlonger] at hfails

end Walks

end PageGrep.Pattern
