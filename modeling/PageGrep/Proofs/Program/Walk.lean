/-
# Walks over programs

A step as it is given is an operation, perhaps with a type and perhaps with a pattern, in
any combination (`GivenStep`).  Only some of these are steps: one that selects takes a type
and no pattern, one that tests a pattern and no type (`GivenStep.IsShaped`), and nothing
else can be made into a step (`exists_make_iff`).

A walk asks such steps of a page, whatever they are, by procedures that hand it over to
each other: from the page to members, from a member to the step after it, from a part back
to the page.  It faults where it needs what is not there:

* a type, to choose members by;
* a pattern, to look for;
* a field, to read what a test is about;
* a value that can be written, to read a whole part.

It also faults where a look breaks down.  Whether it can fault otherwise is told by the steps
alone: it never does if each of them has what it takes, and if one of them has not, there are
pages on which it does (`exists_walkPage_eq_iff`).  The steps of a program have, so a walk over
them comes to what asking comes to, plain and chained, on every page (`walkPage_given`).
-/
import Mathlib.Data.List.Forall2
import Mathlib.Data.List.Infix
import PageGrep.Page.Reading
import PageGrep.Proofs.Page.Kept
import PageGrep.Proofs.Program.Asking

namespace PageGrep

/-! ## Steps as they are given -/

/-- What is given for a step: what it does, and a type and a pattern, either of which may be
missing. -/
structure GivenStep where
  op : Op
  kind? : Option String
  pattern? : Option Pattern

/-- What a step was given. -/
def Step.given (s : Step) : GivenStep := ⟨s.op, s.kind?, s.pattern?⟩

namespace GivenStep

/-- A selecting step has a type and no pattern, a testing one a pattern and no type. -/
structure IsShaped (g : GivenStep) : Prop where
  selector : g.op.isSelector = true → g.kind?.isSome = true ∧ g.pattern? = none
  test : g.op.isSelector = false → g.kind? = none ∧ g.pattern?.isSome = true

/-- The step that is taken: what the operation takes has to be there, and what else is there
does not count. -/
def taken? (g : GivenStep) : Option Step :=
  match g.op, g.kind?, g.pattern? with
  | .select c, some kind, _ => some (.select c kind)
  | .test s, _, some pattern => some (.test s pattern)
  | _, _, _ => none

end GivenStep

theorem Step.isShaped_given (s : Step) : s.given.IsShaped := by
  cases s with
  | select c kind => exact ⟨fun _ => ⟨rfl, rfl⟩, nofun⟩
  | test s pattern => exact ⟨nofun, fun _ => ⟨rfl, rfl⟩⟩

theorem Step.taken?_given (s : Step) : s.given.taken? = some s := by cases s <;> rfl

/-- What is given makes a step just if it has the shape of one. -/
theorem exists_make_iff {g : GivenStep} :
    (∃ s, Step.make g.op g.kind? g.pattern? = .ok s) ↔ g.IsShaped := by
  obtain ⟨op, kind?, pattern?⟩ := g
  constructor
  · rintro ⟨s, hs⟩
    match op, kind?, pattern?, hs with
    | .select _, some _, none, _ => exact ⟨fun _ => ⟨rfl, rfl⟩, nofun⟩
    | .test _, none, some _, _ => exact ⟨nofun, fun _ => ⟨rfl, rfl⟩⟩
  · intro h
    cases op with
    | select c =>
        obtain ⟨hkind, hpattern⟩ := h.selector rfl
        obtain ⟨kind, rfl⟩ := Option.isSome_iff_exists.mp hkind
        cases hpattern
        exact ⟨.select c kind, rfl⟩
    | test subject =>
        obtain ⟨hkind, hpattern⟩ := h.test rfl
        obtain ⟨pattern, rfl⟩ := Option.isSome_iff_exists.mp hpattern
        cases hkind
        exact ⟨.test subject pattern, rfl⟩

/-! ## Walks -/

/-- Why a walk cannot go on. -/
inductive WalkFault where
  | noType (op : Op)
  | noPattern (op : Op)
  | unreadable (error : StepError)
  | unwritable (error : Unwritable)
  | breakdown (error : Pattern.Breakdown)
deriving DecidableEq, Repr

namespace GivenStep

/-- Whether the step takes a member: the type has to be there, the empty one stands for any. -/
def admits (g : GivenStep) (m : Member) : Except WalkFault Bool :=
  match g.kind? with
  | some kind => .ok (kind == "" || m.kind == kind)
  | none => .error (.noType g.op)

/-- What the step reads of a part: all that it keeps, or a field. -/
def read (g : GivenStep) (part : Part) : Except WalkFault String :=
  match g.op with
  | .test .whole => (part.kept.opened.value?.map (·.text 1)).mapError .unwritable
  | op => (op.readField part).mapError .unreadable

/-- Whether the pattern, which has to be there, is found in a text. -/
def finds (look : Look) (g : GivenStep) (text : String) : Except WalkFault Bool :=
  match g.pattern? with
  | some pattern => (look pattern text).mapError .breakdown
  | none => .error (.noPattern g.op)

end GivenStep

/-! The two procedures may hand the same steps to each other, but not twice: the page hands
on steps that start with a test, a part hands back steps that start with a selecting one. -/

/-- How often the page may still hand over the steps as they are. -/
def pageRank : List GivenStep → Nat
  | [] => 0
  | g :: _ => if g.op.isSelector then 0 else 1

/-- How often a part may still hand over the steps as they are. -/
def partRank : List GivenStep → Nat
  | [] => 0
  | g :: _ => if g.op.isSelector then 1 else 0

theorem partRank_lt (steps : List GivenStep) : partRank steps < 2 := by
  cases steps with
  | nil => decide
  | cons g rest =>
      rw [partRank]
      split <;> decide

mutual

/-- The walk at the page. -/
def walkPage (look : Look) (page : Page) (chained : Bool) :
    List GivenStep → Except WalkFault Bool
  | [] => .ok true
  | g :: rest =>
    match _hop : g.op with
    | .select c => walkMembers look page chained g rest (c.members page)
    | .test _ => walkPart look page chained (.page page) (g :: rest)
termination_by steps => (steps.length, pageRank steps, 0)
decreasing_by
  · exact Prod.Lex.left _ _ (Nat.lt_succ_self _)
  · exact Prod.Lex.right _ (Prod.Lex.left _ _ (by simp [pageRank, partRank, _hop, Op.isSelector]))

def walkPart (look : Look) (page : Page) (chained : Bool) (part : Part) :
    List GivenStep → Except WalkFault Bool
  | [] => .ok true
  | g :: rest =>
    match _hop : g.op with
    | .select _ => if chained then walkPage look page chained (g :: rest) else .ok false
    | .test _ => do
      let text ← g.read part
      let found ← g.finds look text
      if !found then .ok false
      else if chained then walkPart look page chained part rest
      else .ok true
termination_by steps => (steps.length, partRank steps, 0)
decreasing_by
  · exact Prod.Lex.right _ (Prod.Lex.left _ _ (by simp [pageRank, partRank, _hop, Op.isSelector]))
  · exact Prod.Lex.left _ _ (Nat.lt_succ_self _)

/-- The walk over members, for a step that selects and the steps after it. -/
def walkMembers (look : Look) (page : Page) (chained : Bool) (g : GivenStep)
    (rest : List GivenStep) : List Member → Except WalkFault Bool
  | [] => .ok false
  | m :: others => do
    let admitted ← g.admits m
    if !admitted then walkMembers look page chained g rest others
    else
      let holds ← walkPart look page chained (.member m) rest
      if holds then .ok true else walkMembers look page chained g rest others
termination_by members => (rest.length, 2, members.length)
decreasing_by
  · exact Prod.Lex.right _ (Prod.Lex.right _ (Nat.lt_succ_self _))
  · exact Prod.Lex.right _ (Prod.Lex.left _ _ (partRank_lt rest))
  · exact Prod.Lex.right _ (Prod.Lex.right _ (Nat.lt_succ_self _))

end

section Walk

variable (look : Look) (page : Page) (chained : Bool)
variable {g : GivenStep} {rest : List GivenStep} {c : Collection} {s : Subject}

/-! ## One step of a walk -/

theorem walkPage_select (h : g.op = .select c) :
    walkPage look page chained (g :: rest)
      = walkMembers look page chained g rest (c.members page) := by
  rw [walkPage]
  split
  · rename_i hc
    cases h.symm.trans hc
    rfl
  · rename_i ht
    nomatch h.symm.trans ht

theorem walkPage_test (h : g.op = .test s) :
    walkPage look page chained (g :: rest)
      = walkPart look page chained (.page page) (g :: rest) := by
  rw [walkPage]
  split
  · rename_i hc
    nomatch h.symm.trans hc
  · rfl

theorem walkPart_select (h : g.op = .select c) (part : Part) :
    walkPart look page chained part (g :: rest)
      = if chained then walkMembers look page chained g rest (c.members page) else .ok false := by
  rw [walkPart]
  split
  · rw [walkPage_select look page chained h]
  · rename_i ht
    nomatch h.symm.trans ht

theorem GivenStep.read_of_test (h : g.op = .test s) (part : Part) :
    g.read part = .ok (s.read part) := by
  rw [GivenStep.read, h]
  cases s with
  | field f => rfl
  | whole =>
      dsimp only
      rw [part.value?_kept]
      rfl

theorem walkPart_test (h : g.op = .test s) (part : Part) :
    walkPart look page chained part (g :: rest)
      = (g.finds look (s.read part)).bind fun found =>
          if !found then .ok false
          else if chained then walkPart look page chained part rest
          else .ok true := by
  rw [walkPart]
  split
  · rename_i hc
    nomatch h.symm.trans hc
  · rw [GivenStep.read_of_test h]
    rfl

/-! ## Walks that have all they need -/

theorem GivenStep.select_of_taken {kind : String} (h : g.taken? = some (.select c kind)) :
    g.op = .select c ∧ g.kind? = some kind := by
  obtain ⟨op, kind?, pattern?⟩ := g
  match op, kind?, pattern?, h with
  | .select _, some _, _, h => cases h; exact ⟨rfl, rfl⟩
  | .test _, _, some _, h => nomatch h

theorem GivenStep.test_of_taken {pattern : Pattern} (h : g.taken? = some (.test s pattern)) :
    g.op = .test s ∧ g.pattern? = some pattern := by
  obtain ⟨op, kind?, pattern?⟩ := g
  match op, kind?, pattern?, h with
  | .select _, some _, _, h => nomatch h
  | .test _, _, some _, h => cases h; exact ⟨rfl, rfl⟩

theorem GivenStep.admits_eq {kind : String} (h : g.kind? = some kind) (m : Member) :
    g.admits m = .ok (kind == "" || m.kind == kind) := by
  rw [admits, h]

theorem GivenStep.finds_eq {pattern : Pattern} (h : g.pattern? = some pattern) (text : String) :
    g.finds look text = (look pattern text).mapError .breakdown := by
  rw [finds, h]

theorem walkMembers_of_asked {kind : String} {asked : Member → Except Pattern.Breakdown Bool}
    (hkind : g.kind? = some kind)
    (h : ∀ m, walkPart look page chained (.member m) rest = (asked m).mapError .breakdown)
    (members : List Member) :
    walkMembers look page chained g rest members
      = ((members.filter fun m => kind == "" || m.kind == kind).anyM asked).mapError
          .breakdown := by
  induction members with
  | nil => rw [walkMembers]; rfl
  | cons m others ih =>
      rw [walkMembers, GivenStep.admits_eq hkind, h m, ih, List.filter_cons]
      cases kind == "" || m.kind == kind with
      | false => rfl
      | true =>
          rw [if_pos rfl, List.anyM_cons]
          match asked m with
          | .error _ | .ok true | .ok false => rfl

theorem walkPart_of_taken {given : List GivenStep} {program : Program}
    (h : List.Forall₂ (fun g step => g.taken? = some step) given program) (part : Part) :
    walkPart look page chained part given
      = (askPart look page chained part program).mapError .breakdown := by
  induction h generalizing part with
  | nil => rw [walkPart]; rfl
  | @cons g step given program hg _ ih =>
      cases step with
      | select c kind =>
          obtain ⟨hop, hkind⟩ := GivenStep.select_of_taken hg
          rw [walkPart_select look page chained hop, askPart]
          cases chained with
          | false => rfl
          | true => exact walkMembers_of_asked look page true hkind (fun m => ih (.member m)) _
      | test s pattern =>
          obtain ⟨hop, hpattern⟩ := GivenStep.test_of_taken hg
          rw [walkPart_test look page chained hop, GivenStep.finds_eq look hpattern, ih, askPart]
          cases look pattern (s.read part) with
          | error _ => rfl
          | ok found => cases found <;> cases chained <;> rfl

theorem walkPage_of_taken {given : List GivenStep} {program : Program}
    (h : List.Forall₂ (fun g step => g.taken? = some step) given program) :
    walkPage look page chained given
      = (askPage look page program chained).mapError .breakdown := by
  cases h with
  | nil => rw [walkPage]; rfl
  | @cons g step given program hg hrest =>
      cases step with
      | select c kind =>
          obtain ⟨hop, hkind⟩ := GivenStep.select_of_taken hg
          rw [walkPage_select look page chained hop]
          have hpart m := walkPart_of_taken look page chained hrest (.member m)
          exact walkMembers_of_asked look page chained hkind hpart _
      | test s pattern =>
          obtain ⟨hop, -⟩ := GivenStep.test_of_taken hg
          rw [walkPage_test look page chained hop]
          exact walkPart_of_taken look page chained (.cons hg hrest) (.page page)

theorem walkPage_given (program : Program) :
    walkPage look page chained (program.map Step.given)
      = (askPage look page program chained).mapError .breakdown := by
  apply walkPage_of_taken
  rw [List.forall₂_map_left_iff, List.forall₂_same]
  exact fun step _ => step.taken?_given

/-! ## Walks that lack something -/

theorem walkPage_chained (given : List GivenStep) :
    walkPage look page true given = walkPart look page true (.page page) given := by
  cases given with
  | nil => rw [walkPage, walkPart]
  | cons g rest =>
      cases hop : g.op with
      | select c =>
          rw [walkPage_select look page true hop, walkPart_select look page true hop, if_pos rfl]
      | test s => exact walkPage_test look page true hop

theorem walkMembers_of_fault {kind : String} {fault : WalkFault} (hkind : g.kind? = some kind)
    (h : ∀ m, walkPart look page chained (.member m) rest = .error fault) {members : List Member}
    (hmember : ∃ m ∈ members, m.kind = kind) :
    walkMembers look page chained g rest members = .error fault := by
  induction members with
  | nil =>
      obtain ⟨_, hmem, -⟩ := hmember
      nomatch hmem
  | cons m others ih =>
      rw [walkMembers, GivenStep.admits_eq hkind, h m]
      cases hadmits : (kind == "" || m.kind == kind) with
      | true => rfl
      | false =>
          obtain ⟨m', hmem, hm'⟩ := hmember
          rcases List.mem_cons.mp hmem with rfl | hothers
          · simp [hm'] at hadmits
          · exact ih ⟨m', hothers, hm'⟩

/-- A walk that finds every pattern comes to the first step without what it takes, if there is
a member of each type to go through, and faults there. -/
theorem exists_fault_of_taken?_eq_none {given : List GivenStep}
    (hlacks : ∃ g ∈ given, g.taken? = none) (hsome : ∀ c : Collection, c.members page ≠ [])
    (hkinds : ∀ g ∈ given, ∀ kind, g.kind? = some kind →
      ∀ c : Collection, ∃ m ∈ c.members page, m.kind = kind) :
    ∃ fault, ∀ part,
      walkPart (Finder.look fun _ _ => true) page true part given = .error fault := by
  induction given with
  | nil =>
      obtain ⟨_, hmem, -⟩ := hlacks
      nomatch hmem
  | cons g rest ih =>
      cases hg : g.taken? with
      | none =>
          obtain ⟨op, kind?, pattern?⟩ := g
          match op, kind?, pattern?, hg with
          | .select c, none, _, _ =>
              refine ⟨.noType (.select c), fun part => ?_⟩
              obtain ⟨m, others, hmembers⟩ := List.exists_cons_of_ne_nil (hsome c)
              rw [walkPart_select _ page true rfl, if_pos rfl, hmembers, walkMembers]
              rfl
          | .test s, _, none, _ =>
              refine ⟨.noPattern (.test s), fun part => ?_⟩
              rw [walkPart_test _ page true rfl]
              rfl
      | some step =>
          have hrest : ∃ g ∈ rest, g.taken? = none := by
            obtain ⟨g', hmem, hg'⟩ := hlacks
            rcases List.mem_cons.mp hmem with rfl | hmem
            · nomatch hg.symm.trans hg'
            · exact ⟨g', hmem, hg'⟩
          obtain ⟨fault, hfault⟩ := ih hrest fun g' hg' => hkinds g' (List.mem_cons_of_mem g hg')
          refine ⟨fault, fun part => ?_⟩
          cases step with
          | select c kind =>
              obtain ⟨hop, hkind⟩ := GivenStep.select_of_taken hg
              rw [walkPart_select _ page true hop, if_pos rfl]
              exact walkMembers_of_fault _ page true hkind (fun m => hfault (.member m))
                (hkinds g List.mem_cons_self kind hkind c)
          | test s pattern =>
              obtain ⟨hop, hpattern⟩ := GivenStep.test_of_taken hg
              rw [walkPart_test _ page true hop, GivenStep.finds_eq _ hpattern]
              exact hfault part

end Walk

/-- A page with a member of no type and one of each of some types, in the story as in the
journal. -/
def Page.ofKinds (kinds : List String) : Page :=
  let members : List Member := ("" :: kinds).map fun kind => { kind := kind }
  { slug := "", title := "", story := members, journal := members }

theorem Page.exists_mem_members_ofKinds {kinds : List String} {kind : String}
    (h : kind ∈ "" :: kinds) (c : Collection) :
    ∃ m ∈ c.members (Page.ofKinds kinds), m.kind = kind := by
  cases c <;> exact ⟨_, List.mem_map_of_mem h, rfl⟩

/-- A walk with looks that give answers never faults just if each step has what it takes. -/
theorem exists_walkPage_eq_iff {given : List GivenStep} :
    (∀ (find : Finder) page chained, ∃ holds, walkPage find.look page chained given = .ok holds) ↔
      ∀ g ∈ given, ∃ step, g.taken? = some step := by
  constructor
  · intro hwalks g hmem
    refine Option.isSome_iff_exists.mp (Option.isSome_iff_ne_none.mpr fun hnone => ?_)
    have hsome (c : Collection) :
        c.members (Page.ofKinds (given.filterMap GivenStep.kind?)) ≠ [] := by
      cases c <;> exact List.cons_ne_nil _ _
    obtain ⟨fault, hfault⟩ := exists_fault_of_taken?_eq_none
      (Page.ofKinds (given.filterMap GivenStep.kind?)) ⟨g, hmem, hnone⟩ hsome
      fun g' hg' kind hkind => Page.exists_mem_members_ofKinds
        (List.mem_cons_of_mem "" (List.mem_filterMap.mpr ⟨g', hg', hkind⟩))
    obtain ⟨holds, hholds⟩ := hwalks (fun _ _ => true)
      (Page.ofKinds (given.filterMap GivenStep.kind?)) true
    rw [walkPage_chained, hfault] at hholds
    nomatch hholds
  · intro htaken find page chained
    have hprogram : ∃ program : Program,
        List.Forall₂ (fun g step => g.taken? = some step) given program := by
      induction given with
      | nil => exact ⟨[], .nil⟩
      | cons g rest ih =>
          obtain ⟨step, hstep⟩ := htaken g List.mem_cons_self
          obtain ⟨program, hrest⟩ := ih fun g' hg' => htaken g' (List.mem_cons_of_mem g hg')
          exact ⟨step :: program, .cons hstep hrest⟩
    obtain ⟨program, hprogram⟩ := hprogram
    rw [walkPage_of_taken find.look page chained hprogram, askPage_look]
    exact ⟨_, rfl⟩

/-! ## Programs -/

/-- **A walk over a compiled program faults only where a search breaks down.**  What is made of a
line has the shape of a step, and nothing else can be made.  A walk lacks nothing just if each
step has what it takes, and over the steps of a program it comes to what asking comes to, on
pages built here and on every page that is read from an object: to an answer, unless a test of
the program breaks down at the page or at a member of it. -/
theorem walkPage_of_compile (engine : Pattern.Engine) (text : String) :
    (∀ g : GivenStep, (∃ s, Step.make g.op g.kind? g.pattern? = .ok s) ↔ g.IsShaped) ∧
    (∀ line s, Line.compile engine line = .ok (.step s) → s.given.IsShaped) ∧
    (∀ given : List GivenStep,
      (∀ (find : Finder) page chained,
          ∃ holds, walkPage find.look page chained given = .ok holds) ↔
        ∀ g ∈ given, ∃ step, g.taken? = some step) ∧
    ∀ c, compile engine text = .ok c →
      (∀ (find : Finder) page chained, walkPage find.look page chained (c.program.map Step.given)
        = .ok (matchPageBy find page c.program chained)) ∧
      (∀ page chained, walkPage Pattern.search page chained (c.program.map Step.given)
          = (matchPage page c.program chained).mapError .breakdown ∧
        ((∃ holds, matchPage page c.program chained = .ok holds) ∨
          ∃ e part, matchPage page c.program chained = .error e ∧ Part.IsOf page part ∧
            c.program.BreaksAt Pattern.search part e)) ∧
      ∀ slug fields, ∃ page, Page.ofJson slug (.obj fields) = .ok page := by
  refine ⟨fun g => exists_make_iff, fun _ s _ => s.isShaped_given,
    fun given => exists_walkPage_eq_iff, fun c _ => ⟨?_, ?_, fun _ _ => ⟨_, rfl⟩⟩⟩
  · intro find page chained
    rw [walkPage_given, askPage_look]
    rfl
  · intro page chained
    refine ⟨walkPage_given Pattern.search page chained c.program, ?_⟩
    cases hmatch : matchPage page c.program chained with
    | ok holds => exact .inl ⟨holds, rfl⟩
    | error e =>
        obtain ⟨part, hpart, hbreaks⟩ := exists_look_of_askPage hmatch
        exact .inr ⟨e, part, rfl, hpart, hbreaks⟩

/-- An action that was built here and is about a member that was received: its whole text is
read, and the selecting step further on leads back to the page. -/
theorem walkPage_of_compile_mixed_page :
    let find : Finder := fun pattern text => decide (pattern.source.toList <:+: text.toList)
    let received : Member := { kind := "fold", payload := [("type", .str "fold")] }
    let page : Page :=
      { slug := "home", title := "Home", story := [{ kind := "quote", id := some "b" }]
        journal := [{ kind := "fork" }, { kind := "add", item := some received }] }
    ∃ c, Line.compile .late "ACTION add" = .ok (.step (.select .journal "add")) ∧
      (Step.given (.select .journal "add")).IsShaped ∧
      compile .late "ACTION add\nJSON fold\nITEM\nID c" = .ok c ∧
      walkPage find.look page false (c.program.map Step.given) = .ok true ∧
      walkPage find.look page true (c.program.map Step.given) = .ok false := by
  intro find received page
  have hsplit : Line.split? "ACTION add" = some ("ACTION", "add") := by decide +kernel
  have hline : Line.compile .late "ACTION add" = .ok (.step (.select .journal "add")) :=
    Line.compile_eq_iff.mpr (.select hsplit rfl (by decide))
  obtain ⟨c, hc, hmatch⟩ : ∃ c, compile .late "ACTION add\nJSON fold\nITEM\nID c" = .ok c ∧
      (matchPageBy find page c.program false, matchPageBy find page c.program true)
        = (true, false) := exists_of_toOption_map (by decide +kernel)
  obtain ⟨-, hshaped, -, hwalk⟩ := walkPage_of_compile .late "ACTION add\nJSON fold\nITEM\nID c"
  obtain ⟨hboth, -⟩ := hwalk c hc
  obtain ⟨hplain, hchained⟩ := Prod.mk.inj hmatch
  refine ⟨c, hline, hshaped _ _ hline, hc, ?_, ?_⟩
  · rw [hboth, hplain]
  · rw [hboth, hchained]

/-- A search breaks down in a member of a page that was received, and there is no answer. -/
theorem walkPage_garbled_member :
    ∃ c page, compile .late "ITEM\nTEXT ((x)|y|z)*+" = .ok c ∧ c.errors = 0 ∧
      Page.ofJson "home" (.obj [("story", .arr [.obj [("text", .str "xyz")]])]) = .ok page ∧
      ∀ chained, ¬ ∃ holds, matchPage page c.program chained = .ok holds := by
  obtain ⟨c, pattern, hc, herrors, hprogram, -, hxyz⟩ := exists_compile_garbled .late
  refine ⟨c, _, hc, herrors, rfl, ?_⟩
  rintro chained ⟨holds, hmatch⟩
  rw [hprogram, matchPage_of_first rfl (by decide +kernel) hxyz nofun chained] at hmatch
  nomatch hmatch

end PageGrep
