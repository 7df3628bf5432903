/-
# How far plain matching reaches

Plain matching asks one step of a part and no more.  A program that starts with a test is
therefore asked its first step only, of the page, and a program that starts with a
selecting step its first two, the second of the members (`Program.reach`).

Up to there plain matching is chained matching, with one exception.  Where a second
selecting step stands right after the first, chained matching goes back to the page, and
plain matching holds of nothing: a part is not asked a selecting step.  So chained matching
implies plain matching for every program but those (`Program.selectsTwice`), and for those
plain matching is constantly false.

As in `PageGrep.Proofs.Program.Outline`, nothing depends on how patterns are looked for.
-/
import PageGrep.Proofs.Program.Asking

namespace PageGrep

namespace Program

/-- Whether the first step is a selecting one. -/
def selects : Program → Bool
  | .select _ _ :: _ => true
  | _ => false

/-- Whether the first two steps are both selecting ones. -/
def selectsTwice (program : Program) : Bool := program.selects && selects program.tail

theorem selectsTwice_select (c : Collection) (kind : String) (rest : Program) :
    selectsTwice (.select c kind :: rest) = rest.selects := by
  simp [selectsTwice, selects]

/-- How many steps plain matching asks at most. -/
def reach (program : Program) : Nat := if program.selects then 2 else 1

end Program

variable (find : Finder) (page : Page) (program : Program)

/-! ## From a part on -/

theorem matchPart_plain_take_one (part : Part) :
    matchPart find page false part (program.take 1) = matchPart find page false part program := by
  match program with
  | [] => rfl
  | .test _ _ :: _ => simp [matchPart_test]
  | .select _ _ :: _ => simp [matchPart_select]

variable {program}

theorem matchPart_plain_of_selects (h : program.selects = true) (part : Part) :
    matchPart find page false part program = false := by
  match program, h with
  | .select _ _ :: _, _ => simp [matchPart_select]

theorem matchPart_chained_take_one (h : program.selects = false) (part : Part) :
    matchPart find page true part (program.take 1) = matchPart find page false part program := by
  match program, h with
  | [], _ => rfl
  | .test _ _ :: _, _ => simp [matchPart_test]

theorem matchPart_plain_of_chained (h : program.selects = false) {part : Part}
    (hc : matchPart find page true part program = true) :
    matchPart find page false part program = true := by
  match program, h with
  | [], _ => rfl
  | .test _ _ :: _, _ =>
      simp only [matchPart_test, Bool.and_eq_true] at hc ⊢
      exact ⟨hc.1, by simp⟩

/-! ## From a page on

A selecting step hands what is left of the program to the members, so each of these is the
one above with `program.tail` for the program, under an `any`. -/

variable (program)

theorem matchPageBy_plain_take_reach :
    matchPageBy find page (program.take program.reach) false
      = matchPageBy find page program false := by
  match program with
  | [] => rfl
  | .test s pattern :: rest =>
      exact matchPart_plain_take_one find page (.test s pattern :: rest) (.page page)
  | .select _ _ :: rest =>
      simp only [Program.reach, Program.selects, if_true, List.take_succ_cons, matchPageBy_select,
        matchPart_plain_take_one]

variable {program}

theorem matchPageBy_plain_of_selectsTwice (h : program.selectsTwice = true) :
    matchPageBy find page program false = false := by
  match program, h with
  | .select c kind :: rest, h =>
      rw [Program.selectsTwice_select] at h
      simp [matchPageBy_select, matchPart_plain_of_selects find page h]

theorem matchPageBy_chained_take_reach (h : program.selectsTwice = false) :
    matchPageBy find page (program.take program.reach) true
      = matchPageBy find page program false := by
  match program, h with
  | [], _ => rfl
  | .test s pattern :: rest, _ =>
      have hfirst : Program.selects (.test s pattern :: rest) = false := rfl
      exact matchPart_chained_take_one find page hfirst (.page page)
  | .select _ _ :: rest, h =>
      rw [Program.selectsTwice_select] at h
      simp only [Program.reach, Program.selects, if_true, List.take_succ_cons, matchPageBy_select,
        matchPart_chained_take_one find page h]

theorem matchPageBy_plain_of_chained (h : program.selectsTwice = false)
    (hc : matchPageBy find page program true = true) :
    matchPageBy find page program false = true := by
  match program, h with
  | [], _ => rfl
  | .test s pattern :: rest, _ =>
      have hfirst : Program.selects (.test s pattern :: rest) = false := rfl
      exact matchPart_plain_of_chained find page hfirst hc
  | .select _ _ :: rest, h =>
      rw [Program.selectsTwice_select] at h
      simp only [matchPageBy_select, List.any_eq_true] at hc ⊢
      obtain ⟨m, hm, hmatch⟩ := hc
      exact ⟨m, hm, matchPart_plain_of_chained find page h hmatch⟩

/-! ## The two ways of matching -/

/-- **Plain matching is chained matching of what it reaches**, except where two selecting
steps open the program. -/
theorem matchPageBy_plain_eq_reached (find : Finder) (page : Page) (program : Program) :
    (∀ chained, matchPageBy find page [] chained = true) ∧
      matchPageBy find page program false
        = matchPageBy find page (program.take program.reach) false ∧
      (program.selectsTwice = true → matchPageBy find page program false = false) ∧
      (program.selectsTwice = false →
        matchPageBy find page program false
            = matchPageBy find page (program.take program.reach) true ∧
          (matchPageBy find page program true = true →
            matchPageBy find page program false = true)) :=
  ⟨fun _ => rfl, (matchPageBy_plain_take_reach find page program).symm,
    matchPageBy_plain_of_selectsTwice find page,
    fun h => ⟨(matchPageBy_chained_take_reach find page h).symm,
      matchPageBy_plain_of_chained find page h⟩⟩

/-- A third step makes the two ways of matching differ, a selecting step in the second place
the other way round. -/
theorem matchPageBy_plain_eq_reached_three_steps :
    let word (s : String) : Pattern := ⟨s, [], none, 0, 0⟩
    let find : Finder := fun pattern text => pattern.source == text
    let page : Page :=
      { slug := "home", title := "Home", story := [{ kind := "quote", text := some "hay" }] }
    let three : Program :=
      [.select .story "quote", .test (.field .text) (word "hay"), .test (.field .id) (word "b")]
    let twice : Program := [.select .story "quote", .select .story ""]
    (three.selectsTwice = false ∧ matchPageBy find page three true = false ∧
      matchPageBy find page three false = true) ∧
    (twice.selectsTwice = true ∧ matchPageBy find page twice true = true ∧
      matchPageBy find page twice false = false) := by
  intro word find page three twice
  obtain ⟨-, -, -, hthree⟩ := matchPageBy_plain_eq_reached find page three
  obtain ⟨-, -, htwice, -⟩ := matchPageBy_plain_eq_reached find page twice
  have hreached : matchPageBy find page (three.take three.reach) true = true := by decide
  exact ⟨⟨rfl, by decide, (hthree rfl).1.trans hreached⟩, rfl, by decide, htwice rfl⟩

end PageGrep
