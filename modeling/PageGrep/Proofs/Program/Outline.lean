/-
# Outlines of programs

Every program falls into tests that come before any selecting step and blocks, each a
selecting step with the tests that follow it:

    F₀ ++ (s₁ :: F₁) ++ … ++ (sₖ :: Fₖ)

The outline is unique (`Outline.steps_ofProgram`, `Outline.ofProgram_steps`), and chained
matching can be read off it: the tests of `F₀` are asked of the page itself, and each block
asks for one member that it selects and of which all of its tests hold
(`Outline.HoldsOf`).

The search does not work by blocks.  It walks the members that a step selects, goes on with
everything that is left of the program from each of them, and comes back to the page at the
next selecting step.  What makes the two agree is that the blocks still to come do not see
the member from which they are reached: in `matchPart_chained_iff` the part that is
searched from occurs on the right only beside the tests before the first block.

All of this is about an arbitrary `Finder`, the search for patterns among them.
-/
import Mathlib.Logic.ExistsUnique
import PageGrep.Proofs.Program.Asking

namespace PageGrep

/-! ## Outlines -/

/-- A test, with its pattern. -/
structure Test where
  subject : Subject
  pattern : Pattern

/-- A selecting step and the tests that follow it. -/
structure Block where
  collection : Collection
  kind : String
  tests : List Test

/-- The tests at the start of a program, and the blocks after them. -/
structure Outline where
  first : List Test
  blocks : List Block

def Test.step (t : Test) : Step := .test t.subject t.pattern

def Block.steps (b : Block) : Program := .select b.collection b.kind :: b.tests.map Test.step

namespace Outline

def steps (o : Outline) : Program := o.first.map Test.step ++ o.blocks.flatMap Block.steps

/-- The outline of a program.  A selecting step takes over the tests found so far. -/
def ofProgram : Program → Outline
  | [] => ⟨[], []⟩
  | .test s pattern :: rest => ⟨⟨s, pattern⟩ :: (ofProgram rest).first, (ofProgram rest).blocks⟩
  | .select c kind :: rest => ⟨[], ⟨c, kind, (ofProgram rest).first⟩ :: (ofProgram rest).blocks⟩

theorem steps_ofProgram (program : Program) : (ofProgram program).steps = program := by
  induction program with
  | nil => rfl
  | cons step rest ih =>
      cases step with
      | test s pattern =>
          show Step.test s pattern :: (ofProgram rest).steps = _
          rw [ih]
      | select c kind =>
          show Step.select c kind :: (ofProgram rest).steps = _
          rw [ih]

theorem ofProgram_tests_append (tests : List Test) (program : Program) :
    ofProgram (tests.map Test.step ++ program)
      = ⟨tests ++ (ofProgram program).first, (ofProgram program).blocks⟩ := by
  induction tests with
  | nil => rfl
  | cons t tests ih => simp [Test.step, ofProgram, ih]

theorem ofProgram_flatMap_steps (blocks : List Block) :
    ofProgram (blocks.flatMap Block.steps) = ⟨[], blocks⟩ := by
  induction blocks with
  | nil => rfl
  | cons b blocks ih =>
      rw [List.flatMap_cons, Block.steps, List.cons_append, ofProgram,
        ofProgram_tests_append, ih]
      simp

theorem ofProgram_steps (o : Outline) : ofProgram o.steps = o := by
  rw [steps, ofProgram_tests_append, ofProgram_flatMap_steps]
  simp

theorem existsUnique_steps_eq (program : Program) : ∃! o : Outline, o.steps = program :=
  ⟨ofProgram program, steps_ofProgram program, fun o h => by rw [← h, ofProgram_steps]⟩

end Outline

/-! ## What an outline asks of a page -/

variable (find : Finder)

/-- A test holds of a part if its pattern is found in what it reads there. -/
def Test.HoldsOf (t : Test) (part : Part) : Prop := find t.pattern (t.subject.read part) = true

/-- A block holds of a page if all of its tests hold of one and the same member that has its
type, the empty type standing for any. -/
def Block.HoldsOf (b : Block) (page : Page) : Prop :=
  ∃ m ∈ b.collection.members page,
    (b.kind = "" ∨ m.kind = b.kind) ∧ ∀ t ∈ b.tests, t.HoldsOf find (.member m)

/-- An outline holds of a page if its first tests do and each of its blocks does. -/
def Outline.HoldsOf (o : Outline) (page : Page) : Prop :=
  (∀ t ∈ o.first, t.HoldsOf find (.page page)) ∧ ∀ b ∈ o.blocks, b.HoldsOf find page

theorem mem_select {c : Collection} {kind : String} {page : Page} {m : Member} :
    m ∈ c.select kind page ↔ m ∈ c.members page ∧ (kind = "" ∨ m.kind = kind) := by
  simp [Collection.select]

/-- Chained matching from any part on.  The induction is on the program, for all parts at
once, since each selecting step goes on from another one. -/
theorem matchPart_chained_iff (page : Page) (program : Program) (part : Part) :
    matchPart find page true part program = true ↔
      (∀ t ∈ (Outline.ofProgram program).first, t.HoldsOf find part) ∧
        ∀ b ∈ (Outline.ofProgram program).blocks, b.HoldsOf find page := by
  induction program generalizing part with
  | nil => simp [Outline.ofProgram]
  | cons step rest ih =>
      cases step with
      | test s pattern =>
          simp only [matchPart_test, Bool.not_true, Bool.false_or, Bool.and_eq_true, ih,
            Outline.ofProgram, List.forall_mem_cons, and_assoc]
          exact Iff.rfl
      | select c kind =>
          simp only [matchPart_select, Bool.true_and, List.any_eq_true, ih, mem_select,
            Outline.ofProgram, List.forall_mem_cons, List.not_mem_nil, false_implies,
            implies_true, true_and, Block.HoldsOf]
          -- The blocks to come say nothing of `m`, so they can be taken out from under it.
          constructor
          · rintro ⟨m, ⟨hm, hk⟩, htests, hblocks⟩
            exact ⟨⟨m, hm, hk, htests⟩, hblocks⟩
          · rintro ⟨⟨m, hm, hk, htests⟩, hblocks⟩
            exact ⟨m, ⟨hm, hk⟩, htests, hblocks⟩

theorem matchPageBy_chained (page : Page) (program : Program) :
    matchPageBy find page program true = matchPart find page true (.page page) program := by
  match program with
  | [] => rfl
  | .test _ _ :: _ => rfl
  | .select _ _ :: _ => rw [matchPageBy_select, matchPart_select, Bool.true_and]

theorem Outline.matchPageBy_steps_iff (page : Page) (o : Outline) :
    matchPageBy find page o.steps true = true ↔ o.HoldsOf find page := by
  rw [matchPageBy_chained, matchPart_chained_iff, ofProgram_steps, HoldsOf]

/-! ## Blocks on their own -/

theorem matchPageBy_tests_iff (page : Page) (tests : List Test) :
    matchPageBy find page (tests.map Test.step) true = true ↔
      ∀ t ∈ tests, t.HoldsOf find (.page page) := by
  have h := Outline.matchPageBy_steps_iff find page ⟨tests, []⟩
  simpa [Outline.steps, Outline.HoldsOf] using h

theorem Block.matchPageBy_steps_iff (page : Page) (b : Block) :
    matchPageBy find page b.steps true = true ↔ b.HoldsOf find page := by
  have h := Outline.matchPageBy_steps_iff find page ⟨[], [b]⟩
  simpa [Outline.steps, Outline.HoldsOf] using h

theorem Outline.matchPageBy_steps (page : Page) (o : Outline) :
    matchPageBy find page o.steps true
      = (matchPageBy find page (o.first.map Test.step) true
          && o.blocks.all fun b => matchPageBy find page b.steps true) := by
  rw [Bool.eq_iff_iff, matchPageBy_steps_iff, Bool.and_eq_true, List.all_eq_true,
    matchPageBy_tests_iff]
  simp only [Block.matchPageBy_steps_iff]
  exact Iff.rfl

theorem Outline.matchPageBy_steps_perm (page : Page) (first : List Test)
    {blocks blocks' : List Block} (h : blocks'.Perm blocks) :
    matchPageBy find page (Outline.mk first blocks').steps true
      = matchPageBy find page (Outline.mk first blocks).steps true := by
  rw [Bool.eq_iff_iff, matchPageBy_steps_iff, matchPageBy_steps_iff]
  simp only [HoldsOf, h.mem_iff]

/-! ## The reading of a program -/

/-- **Chained matching is the reading of the outline.**  A program has one outline only, and
it matches a page just if the outline holds of it; each block counts on its own, and the
order of the blocks does not count. -/
theorem matchPageBy_chained_iff_outline (page : Page) (program : Program) :
    (∃! o : Outline, o.steps = program) ∧
      ∀ o : Outline, o.steps = program →
        (matchPageBy find page program true = true ↔ o.HoldsOf find page) ∧
        (matchPageBy find page program true
          = (matchPageBy find page (o.first.map Test.step) true
              && o.blocks.all fun b => matchPageBy find page b.steps true)) ∧
        ∀ blocks : List Block, blocks.Perm o.blocks →
          matchPageBy find page (Outline.mk o.first blocks).steps true
            = matchPageBy find page program true := by
  refine ⟨Outline.existsUnique_steps_eq program, ?_⟩
  rintro o rfl
  exact ⟨Outline.matchPageBy_steps_iff find page o, Outline.matchPageBy_steps find page o,
    fun _ h => Outline.matchPageBy_steps_perm find page o.first h⟩

/-- The second of two members meets both tests of the first block, and the blocks may change
places. -/
theorem matchPageBy_chained_iff_outline_two_blocks :
    let word (s : String) : Pattern := ⟨s, [], none, 0, 0⟩
    let find : Finder := fun pattern text => pattern.source == text
    let page : Page :=
      { slug := "home", title := "Home"
        story := [{ kind := "quote", text := some "hay" },
          { kind := "quote", text := some "hay", id := some "b" }]
        journal := [{ kind := "fork" }] }
    let o : Outline :=
      ⟨[⟨.field .title, word "Home"⟩],
        [⟨.story, "quote", [⟨.field .text, word "hay"⟩, ⟨.field .id, word "b"⟩]⟩,
          ⟨.journal, "", []⟩]⟩
    o.blocks.reverse.Perm o.blocks ∧ o.HoldsOf find page ∧
      matchPageBy find page (Outline.mk o.first o.blocks.reverse).steps true = true := by
  intro word find page o
  have hmatch : matchPageBy find page o.steps true = true := by decide
  have hperm : o.blocks.reverse.Perm o.blocks := List.reverse_perm _
  obtain ⟨-, hreads⟩ := matchPageBy_chained_iff_outline find page o.steps
  obtain ⟨hiff, -, hswap⟩ := hreads o rfl
  exact ⟨hperm, hiff.mp hmatch, (hswap _ hperm).trans hmatch⟩

end PageGrep
