/-
# Texts and the references in them

A text with references is the text before the first one, and each title with the text after
the reference to it (`Linked`).  Which texts these are is settled by two rules that know
nothing of how a text is cut: a title is not empty and has no closing bracket, and nowhere in
a text between references does a reference start (`Linked.IsLeftmost`).  Every text falls
into pieces of this kind when it is cut (`exists_linked`), and there is only one way to do so
(`ofText_of_isLeftmost`).  Nothing of the text is lost, and what follows a reference cannot
change it.
-/
import PageGrep.Page.Link

namespace PageGrep

/-! ## References -/

/-- A reference to a title as it is written. -/
def referenceTo (title : List Char) : List Char := '[' :: '[' :: (title ++ [']', ']'])

/-- Whether a text can be the title of a reference. -/
def IsTitle (title : List Char) : Prop := title ≠ [] ∧ ']' ∉ title

instance (title : List Char) : Decidable (IsTitle title) :=
  inferInstanceAs (Decidable (_ ∧ _))

namespace Stretch

theorem linkAt?_reference {title : List Char} (h : IsTitle title) (after : List Char) :
    linkAt? (referenceTo title ++ after) = some (title, after) := by
  obtain ⟨hne, hclosing⟩ := h
  have hall : ∀ c ∈ title, (c != ']') = true := by
    intro c hc
    rw [bne_iff_ne]
    rintro rfl
    exact hclosing hc
  have hend : (']' :: ']' :: after).takeWhile (· != ']') = [] := rfl
  have htake : (title ++ ']' :: ']' :: after).takeWhile (· != ']') = title := by
    rw [List.takeWhile_append_of_pos hall, hend, List.append_nil]
  have hdrop : (title ++ ']' :: ']' :: after).dropWhile (· != ']') = ']' :: ']' :: after := by
    rw [List.dropWhile_append_of_pos hall]
    rfl
  obtain ⟨c, cs, rfl⟩ := List.exists_cons_of_ne_nil hne
  have hwritten : referenceTo (c :: cs) ++ after
      = '[' :: '[' :: (c :: cs ++ ']' :: ']' :: after) := by
    simp [referenceTo]
  rw [hwritten, linkAt?]
  simp only [htake, hdrop]

theorem eq_reference_of_linkAt? {cs title after : List Char}
    (h : linkAt? cs = some (title, after)) :
    IsTitle title ∧ cs = referenceTo title ++ after := by
  unfold linkAt? at h
  split at h
  · rename_i rest
    have hparts := List.takeWhile_append_dropWhile (p := (· != ']')) (l := rest)
    have hall : ∀ c ∈ rest.takeWhile (· != ']'), (c != ']') = true :=
      List.all_eq_true.mp List.all_takeWhile
    dsimp only at h
    split at h
    · nomatch h
    · rename_i hdrop hne
      obtain ⟨rfl, rfl⟩ := Prod.mk.inj (Option.some.inj h)
      refine ⟨⟨hne, fun hmem => ?_⟩, ?_⟩
      · exact absurd (hall ']' hmem) (by decide)
      · rw [hdrop] at hparts
        simp only [referenceTo, List.cons_append, List.append_assoc, List.nil_append, hparts]
    · nomatch h
  · nomatch h

/-- A reference is found at the front of a text just if the text starts with one as it is
written. -/
theorem linkAt?_eq_some_iff {cs title after : List Char} :
    linkAt? cs = some (title, after) ↔ IsTitle title ∧ cs = referenceTo title ++ after := by
  constructor
  · exact eq_reference_of_linkAt?
  · rintro ⟨htitle, rfl⟩
    exact linkAt?_reference htitle after

end Stretch

/-! ## Texts between references -/

/-- Whether no reference starts in a piece of a text that some characters follow. -/
def HasNoLink (rest : List Char) : List Char → Prop
  | [] => True
  | c :: piece => Stretch.linkAt? (c :: (piece ++ rest)) = none ∧ HasNoLink rest piece

theorem hasNoLink_of_not_mem (rest : List Char) {piece : List Char} (h : '[' ∉ piece) :
    HasNoLink rest piece := by
  induction piece with
  | nil => trivial
  | cons c piece ih =>
      rw [List.mem_cons, not_or] at h
      refine ⟨?_, ih h.2⟩
      cases hlink : Stretch.linkAt? (c :: (piece ++ rest)) with
      | none => rfl
      | some found =>
          obtain ⟨-, heq⟩ := Stretch.linkAt?_eq_some_iff.mp hlink
          exact absurd (List.cons.inj heq).1.symm h.1

/-- A text with references: the characters before the first one, and each title with the
characters after the reference to it. -/
structure Linked where
  first : List Char
  links : List (List Char × List Char) := []
deriving DecidableEq, Repr

namespace Linked

/-- References, each with what follows it, as they are written. -/
def written (links : List (List Char × List Char)) : List Char :=
  links.flatMap fun link => referenceTo link.1 ++ link.2

def text (l : Linked) : List Char := l.first ++ written l.links

/-- The titles that are referred to, in order. -/
def titles (l : Linked) : List String := l.links.map fun link => String.ofList link.1

/-- The text in markup: an anchor for each reference, what is between them escaped. -/
def markup (l : Linked) : String :=
  Text.escape (String.ofList l.first) ++ String.join (l.links.map fun link =>
    anchor (String.ofList link.1) ++ Text.escape (String.ofList link.2))

def stretches (l : Linked) : List Stretch :=
  .plain l.first :: l.links.flatMap fun link => [.link link.1, .plain link.2]

/-- Whether these are the references that are found from the front on. -/
def IsLeftmostFrom : List Char → List (List Char × List Char) → Prop
  | first, [] => HasNoLink [] first
  | first, link :: links =>
    HasNoLink (written (link :: links)) first ∧ IsTitle link.1 ∧ IsLeftmostFrom link.2 links

/-- Whether the references of a text are those that are found from the front on. -/
def IsLeftmost (l : Linked) : Prop := IsLeftmostFrom l.first l.links

theorem hasNoLink_of_isLeftmostFrom {first : List Char} {links : List (List Char × List Char)}
    (h : IsLeftmostFrom first links) : HasNoLink (written links) first := by
  cases links with
  | nil => exact h
  | cons link links => exact h.1

theorem isLeftmostFrom_cons {c : Char} {first : List Char} {links : List (List Char × List Char)}
    (hlink : Stretch.linkAt? (c :: (first ++ written links)) = none)
    (h : IsLeftmostFrom first links) : IsLeftmostFrom (c :: first) links := by
  cases links with
  | nil => exact ⟨hlink, h⟩
  | cons link links => exact ⟨⟨hlink, h.1⟩, h.2⟩

theorem isTitle_of_mem {first : List Char} {links : List (List Char × List Char)}
    (h : IsLeftmostFrom first links) : ∀ link ∈ links, IsTitle link.1 := by
  induction links generalizing first with
  | nil => nofun
  | cons link links ih =>
      obtain ⟨-, htitle, hrest⟩ := h
      exact List.forall_mem_cons.mpr ⟨htitle, ih hrest⟩

end Linked

/-! ## Cutting -/

namespace Stretch

section Step

variable (so : List Char) (fuel : Nat) {c : Char} {rest : List Char}

theorem cut_nil : cut so fuel [] = [.plain so.reverse] := by
  cases fuel with
  | zero => rw [cut, List.append_nil]
  | succ fuel => rw [cut]; nofun

theorem cut_of_some {title after : List Char} (h : linkAt? (c :: rest) = some (title, after)) :
    cut so (fuel + 1) (c :: rest) = .plain so.reverse :: .link title :: cut [] fuel after := by
  rw [cut, h]

theorem cut_reference {title : List Char} (h : IsTitle title) (after : List Char) :
    cut so (fuel + 1) (referenceTo title ++ after)
      = .plain so.reverse :: .link title :: cut [] fuel after :=
  cut_of_some so fuel (linkAt?_eq_some_iff.mpr ⟨h, rfl⟩)

theorem cut_of_none (h : linkAt? (c :: rest) = none) :
    cut so (fuel + 1) (c :: rest) = cut (c :: so) fuel rest := by
  rw [cut, h]

end Step

/-- What is cut is text with the references found from the front on, and nothing else. -/
theorem exists_linked_of_cut (so cs : List Char) {fuel : Nat} (hfuel : cs.length ≤ fuel) :
    ∃ l : Linked, cut so fuel cs = Linked.stretches ⟨so.reverse ++ l.first, l.links⟩ ∧
      l.text = cs ∧ l.IsLeftmost := by
  induction fuel generalizing so cs with
  | zero =>
      obtain rfl : cs = [] := List.length_eq_zero_iff.mp (Nat.le_zero.mp hfuel)
      refine ⟨⟨[], []⟩, ?_, rfl, trivial⟩
      rw [cut_nil, List.append_nil]
      rfl
  | succ fuel ih =>
      cases cs with
      | nil =>
          refine ⟨⟨[], []⟩, ?_, rfl, trivial⟩
          rw [cut_nil, List.append_nil]
          rfl
      | cons c rest =>
          cases hlink : linkAt? (c :: rest) with
          | some found =>
              obtain ⟨title, after⟩ := found
              obtain ⟨htitle, heq⟩ := linkAt?_eq_some_iff.mp hlink
              have hshort : after.length ≤ fuel := by
                have hlength := congrArg List.length heq
                simp only [referenceTo, List.length_cons, List.length_append] at hlength hfuel
                omega
              obtain ⟨l, hcut, rfl, hleftmost⟩ := ih [] after hshort
              refine ⟨⟨[], (title, l.first) :: l.links⟩, ?_, ?_, trivial, htitle, hleftmost⟩
              · rw [cut_of_some so fuel hlink, hcut, List.append_nil]
                rfl
              · rw [heq]
                simp [Linked.text, Linked.written]
          | none =>
              obtain ⟨l, hcut, rfl, hleftmost⟩ := ih (c :: so) rest (by simpa using hfuel)
              refine ⟨⟨c :: l.first, l.links⟩, ?_, rfl,
                Linked.isLeftmostFrom_cons hlink hleftmost⟩
              rw [cut_of_none so fuel hlink, hcut, List.reverse_cons, List.append_assoc,
                List.singleton_append]

/-- Text with the references found from the front on is cut at these references. -/
theorem cut_of_isLeftmostFrom (so : List Char) {first : List Char}
    {links : List (List Char × List Char)} (h : Linked.IsLeftmostFrom first links) {fuel : Nat}
    (hfuel : (first ++ Linked.written links).length ≤ fuel) :
    cut so fuel (first ++ Linked.written links)
      = Linked.stretches ⟨so.reverse ++ first, links⟩ := by
  induction fuel generalizing so first links with
  | zero =>
      have hnil := List.length_eq_zero_iff.mp (Nat.le_zero.mp hfuel)
      obtain ⟨rfl, hlinks⟩ := List.append_eq_nil_iff.mp hnil
      cases links with
      | nil =>
          rw [hnil, cut_nil, List.append_nil]
          rfl
      | cons link links => nomatch hlinks
  | succ fuel ih =>
      cases first with
      | cons c first =>
          have hlink := (Linked.hasNoLink_of_isLeftmostFrom h).1
          have hrest : Linked.IsLeftmostFrom first links := by
            cases links with
            | nil => exact h.2
            | cons link links => exact ⟨h.1.2, h.2⟩
          rw [List.cons_append, cut_of_none so fuel hlink,
            ih (c :: so) hrest (by simpa using hfuel), List.reverse_cons, List.append_assoc,
            List.singleton_append]
      | nil =>
          cases links with
          | nil =>
              rw [Linked.written, List.flatMap_nil, List.append_nil, cut_nil, List.append_nil]
              rfl
          | cons link links =>
              obtain ⟨title, after⟩ := link
              obtain ⟨-, htitle, hrest⟩ := h
              have hshort : (after ++ Linked.written links).length ≤ fuel := by
                simp only [Linked.written, List.flatMap_cons, referenceTo, List.length_cons,
                  List.length_append, List.nil_append] at hfuel ⊢
                omega
              have htext : [] ++ Linked.written ((title, after) :: links)
                  = referenceTo title ++ (after ++ Linked.written links) := by
                simp [Linked.written]
              rw [htext, cut_reference so fuel htitle, ih [] hrest hshort, List.append_nil]
              rfl

theorem exists_linked (text : String) :
    ∃ l : Linked, ofText text = l.stretches ∧ l.text = text.toList ∧ l.IsLeftmost := by
  obtain ⟨l, hcut, htext, hleftmost⟩ := exists_linked_of_cut [] text.toList (Nat.le_refl _)
  exact ⟨l, hcut, htext, hleftmost⟩

theorem ofText_of_isLeftmost {text : String} {l : Linked} (htext : l.text = text.toList)
    (h : l.IsLeftmost) : ofText text = l.stretches := by
  have hcut := cut_of_isLeftmostFrom [] h (Nat.le_refl _)
  rw [ofText, String.length, ← htext]
  exact hcut

end Stretch

/-! ## Titles and markup -/

theorem titles_stretches (l : Linked) : l.stretches.filterMap Stretch.title? = l.titles := by
  obtain ⟨first, links⟩ := l
  rw [Linked.stretches, List.filterMap_cons_none rfl, Linked.titles]
  induction links with
  | nil => rfl
  | cons link links ih =>
      rw [List.flatMap_cons, List.filterMap_append, ih]
      rfl

theorem markup_stretches (l : Linked) :
    String.join (l.stretches.map Stretch.markup) = l.markup := by
  obtain ⟨first, links⟩ := l
  rw [Linked.stretches, List.map_cons, String.join_cons, Linked.markup]
  congr 1
  induction links with
  | nil => rfl
  | cons link links ih =>
      rw [List.flatMap_cons, List.map_append, String.join_append, ih, List.map_cons,
        String.join_cons]
      simp [Stretch.markup]

end PageGrep
