/-
# Asking and matching

Matching is asking where every look gives an answer, and it comes to what the steps of a
program say one by one (`matchPart_select`, `matchPart_test`).

A look may also break down.  Asking then either comes to an answer, the one that matching comes
to whatever is made of the looks that broke down (`matchPageBy_finder`), or it breaks down at a
look that the program takes at the page or at one of its members (`exists_look_of_askPage`).
-/
import Mathlib
import PageGrep.Program.Match
import PageGrep.Proofs.Program.Lines

namespace PageGrep

/-! ## Matching step by step -/

section Matching

variable (find : Finder) (page : Page) (chained : Bool)

@[simp] theorem matchPart_nil (part : Part) : matchPart find page chained part [] = true := rfl

theorem matchPart_select (part : Part) (c : Collection) (kind : String) (rest : Program) :
    matchPart find page chained part (.select c kind :: rest)
      = (chained
          && (c.select kind page).any fun m => matchPart find page chained (.member m) rest) := by
  rw [matchPart, askPart]
  cases chained with
  | false => rfl
  | true => exact List.anyM_pure

theorem matchPart_test (part : Part) (s : Subject) (pattern : Pattern) (rest : Program) :
    matchPart find page chained part (.test s pattern :: rest)
      = (find pattern (s.read part) && (!chained || matchPart find page chained part rest)) := by
  show (if find pattern (s.read part) then
      if chained then matchPart find page chained part rest else true else false) = _
  cases find pattern (s.read part) <;> cases chained <;> rfl

@[simp] theorem matchPageBy_nil : matchPageBy find page [] chained = true := rfl

theorem matchPageBy_select (c : Collection) (kind : String) (rest : Program) :
    matchPageBy find page (.select c kind :: rest) chained
      = (c.select kind page).any fun m => matchPart find page chained (.member m) rest :=
  List.anyM_pure

end Matching

/-! ## Looks that may break down -/

/-- A way to look for patterns in texts that may break down. -/
abbrev Look := Pattern → String → Except Pattern.Breakdown Bool

/-- The finder that takes a look that breaks down for one that finds nothing. -/
def Look.finder (look : Look) : Finder := fun pattern text =>
  (look pattern text).toOption.getD false

/-- A finder as a look that never breaks down. -/
def Finder.look (find : Finder) : Look := fun pattern text => .ok (find pattern text)

/-- A page as a part of itself, and its members. -/
inductive Part.IsOf (page : Page) : Part → Prop
  | page : IsOf page (.page page)
  | member {c : Collection} {m : Member} : m ∈ c.members page → IsOf page (.member m)

theorem Part.isOf_of_mem_select {c : Collection} {kind : String} {page : Page} {m : Member}
    (h : m ∈ c.select kind page) : Part.IsOf page (.member m) :=
  .member (List.mem_filter.mp h).1

/-- A test of a program breaks down at a part. -/
def Program.BreaksAt (look : Look) (program : Program) (part : Part) (e : Pattern.Breakdown) :
    Prop :=
  ∃ s pattern, Step.test s pattern ∈ program ∧ look pattern (s.read part) = .error e

theorem Program.BreaksAt.cons {look : Look} {program : Program} {part : Part}
    {e : Pattern.Breakdown} (step : Step) (h : BreaksAt look program part e) :
    BreaksAt look (step :: program) part e := by
  obtain ⟨s, pattern, hmem, hlook⟩ := h
  exact ⟨s, pattern, List.mem_cons_of_mem step hmem, hlook⟩

section Asking

variable {look : Look} {page : Page} {chained : Bool} {program : Program}

theorem Look.finder_of_ok {pattern : Pattern} {text : String} {found : Bool}
    (h : look pattern text = .ok found) : look.finder pattern text = found := by
  rw [finder, h]
  rfl

/-- A test that finds nothing is the answer, and one that finds something leaves it to the steps
after it, if these are asked at all. -/
theorem askPart_test_eq_ok_iff {part : Part} {s : Subject} {pattern : Pattern} {b : Bool} :
    askPart look page chained part (.test s pattern :: program) = .ok b ↔
      look pattern (s.read part) = .ok false ∧ b = false ∨
        look pattern (s.read part) = .ok true ∧
          (if chained then askPart look page chained part program else .ok true) = .ok b := by
  rw [askPart, bind_eq_ok_iff]
  constructor
  · rintro ⟨found, hlook, hrest⟩
    cases found with
    | false =>
        cases hrest
        exact .inl ⟨hlook, rfl⟩
    | true => exact .inr ⟨hlook, hrest⟩
  · rintro (⟨hlook, rfl⟩ | ⟨hlook, hrest⟩)
    · exact ⟨false, hlook, rfl⟩
    · exact ⟨true, hlook, hrest⟩

theorem matchPart_finder {part : Part} {b : Bool}
    (h : askPart look page chained part program = .ok b) :
    matchPart look.finder page chained part program = b := by
  induction program generalizing part b with
  | nil =>
      cases h
      rfl
  | cons step rest ih =>
      cases step with
      | select c kind =>
          rw [askPart] at h
          rw [matchPart_select]
          cases chained with
          | false =>
              cases h
              rfl
          | true => exact any_of_anyM_eq_ok (fun _ _ => ih) h
      | test s pattern =>
          rw [matchPart_test]
          rcases askPart_test_eq_ok_iff.mp h with ⟨hlook, rfl⟩ | ⟨hlook, hrest⟩
          · rw [Look.finder_of_ok hlook, Bool.false_and]
          · rw [Look.finder_of_ok hlook, Bool.true_and]
            cases chained with
            | false =>
                cases hrest
                rfl
            | true => exact ih hrest

theorem matchPageBy_finder {b : Bool} (h : askPage look page program chained = .ok b) :
    matchPageBy look.finder page program chained = b := by
  match program with
  | [] => exact matchPart_finder h
  | .test _ _ :: _ => exact matchPart_finder h
  | .select c kind :: rest =>
      rw [matchPageBy_select]
      exact any_of_anyM_eq_ok (fun _ _ => matchPart_finder) h

theorem exists_look_of_askPart {e : Pattern.Breakdown} {part : Part} (hpart : part.IsOf page)
    (h : askPart look page chained part program = .error e) :
    ∃ part, Part.IsOf page part ∧ program.BreaksAt look part e := by
  induction program generalizing part with
  | nil => nomatch h
  | cons step rest ih =>
      cases step with
      | select c kind =>
          rw [askPart] at h
          cases chained with
          | false => nomatch h
          | true =>
              obtain ⟨m, hm, hask⟩ := exists_of_anyM_eq_error h
              obtain ⟨part', hpart', hbreaks⟩ := ih (Part.isOf_of_mem_select hm) hask
              exact ⟨part', hpart', hbreaks.cons _⟩
      | test s pattern =>
          rw [askPart] at h
          cases hlook : look pattern (s.read part) with
          | error e' =>
              rw [hlook] at h
              cases h
              exact ⟨part, hpart, s, pattern, List.mem_cons_self, hlook⟩
          | ok found =>
              rw [hlook] at h
              cases found with
              | false => nomatch h
              | true =>
                  cases chained with
                  | false => nomatch h
                  | true =>
                      obtain ⟨part', hpart', hbreaks⟩ := ih hpart h
                      exact ⟨part', hpart', hbreaks.cons _⟩

/-- Asking breaks down only where a test of the program does, at the page or at a member. -/
theorem exists_look_of_askPage {e : Pattern.Breakdown}
    (h : askPage look page program chained = .error e) :
    ∃ part, Part.IsOf page part ∧ program.BreaksAt look part e := by
  match program with
  | [] => nomatch h
  | .test _ _ :: _ => exact exists_look_of_askPart .page h
  | .select c kind :: rest =>
      obtain ⟨m, hm, hask⟩ := exists_of_anyM_eq_error h
      obtain ⟨part, hpart, hbreaks⟩ := exists_look_of_askPart (Part.isOf_of_mem_select hm) hask
      exact ⟨part, hpart, hbreaks.cons _⟩

theorem askPage_look (find : Finder) :
    askPage find.look page program chained = .ok (matchPageBy find page program chained) := by
  cases hask : askPage find.look page program chained with
  | error e =>
      obtain ⟨_, -, _, _, -, hlook⟩ := exists_look_of_askPage hask
      nomatch hlook
  | ok b =>
      rw [← matchPageBy_finder hask]
      rfl

end Asking

/-! ## A program that breaks down -/

/-- A repetition that takes nothing back, of alternatives one of which has a group of its own:
after the first round the group that holds them all is left before it is entered. -/
theorem exists_pattern_garbled (engine : Pattern.Engine) :
    ∃ pattern, Pattern.compile engine "((x)|y|z)*+" = .ok pattern ∧
      pattern.search "q" = .ok true ∧ pattern.search "xyz" = .error .garbled := by
  have hview : ((Pattern.compile engine "((x)|y|z)*+").map fun pattern =>
      (pattern.find "q", pattern.find "xyz")).toOption = some (.present, .garbled) := by
    cases engine <;> cbv
  obtain ⟨pattern, hpattern, hfind⟩ := exists_of_toOption_map hview
  obtain ⟨hq, hxyz⟩ := Prod.mk.inj hfind
  exact ⟨pattern, hpattern, by rw [Pattern.search, hq], by rw [Pattern.search, hxyz]⟩

theorem exists_compile_garbled (engine : Pattern.Engine) :
    ∃ c pattern, compile engine "ITEM\nTEXT ((x)|y|z)*+" = .ok c ∧ c.errors = 0 ∧
      c.program = [.select .story "", .test (.field .text) pattern] ∧
      pattern.search "q" = .ok true ∧ pattern.search "xyz" = .error .garbled := by
  obtain ⟨pattern, hpattern, hsearch⟩ := exists_pattern_garbled engine
  have hitem : Line.split? "ITEM" = some ("ITEM", "") := by decide +kernel
  have htext : Line.split? "TEXT ((x)|y|z)*+" = some ("TEXT", "((x)|y|z)*+") := by
    decide +kernel
  have hselect : Line.compile engine "ITEM" = .ok (.step (.select .story "")) :=
    Line.compile_eq_iff.mpr (.select hitem rfl rfl)
  have htest : Line.compile engine "TEXT ((x)|y|z)*+"
      = .ok (.step (.test (.field .text) pattern)) :=
    Line.compile_eq_iff.mpr (.test htext rfl hpattern)
  have hlines : Text.lines "ITEM\nTEXT ((x)|y|z)*+" = ["ITEM", "TEXT ((x)|y|z)*+"] := by
    decide +kernel
  refine ⟨⟨[⟨"ITEM", .step (.select .story "")⟩,
    ⟨"TEXT ((x)|y|z)*+", .step (.test (.field .text) pattern)⟩]⟩, pattern, ?_, rfl, rfl, hsearch⟩
  rw [compile_eq_ok_iff, hlines]
  refine ⟨rfl, ?_⟩
  simp [hselect, htest]

/-- What comes of the first member comes of the page, unless nothing is found there. -/
theorem matchPage_of_first {page : Page} {m : Member} {others : List Member} {pattern : Pattern}
    {text : String} {answer : Except Pattern.Breakdown Bool} (hstory : page.story = m :: others)
    (htext : Field.text.read (.member m) = text) (hsearch : pattern.search text = answer)
    (hanswer : answer ≠ .ok false) (chained : Bool) :
    matchPage page [.select .story "", .test (.field .text) pattern] chained = answer := by
  have hselect : Collection.story.select "" page = m :: others := by
    simp [Collection.select, Collection.members, hstory]
  rw [matchPage, askPage, hselect, List.anyM_cons, askPart, Subject.read, htext, hsearch]
  match answer, hanswer with
  | .error _, _ => rfl
  | .ok true, _ => cases chained <;> rfl

end PageGrep
