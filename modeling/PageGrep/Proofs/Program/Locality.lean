/-
# Lines side by side

Compiling keeps nothing from one line to the next but the number of the line.  So a text
put below another one is compiled as if it stood alone, with its problems that many lines
further down (`compile_append`), and a text cannot be compiled just if one of its parts
cannot.  The program, the listing and the problems are joined each in its own way, since
all three are views of the lines (`program_append`, `listing_append`, `problems_append`).

A line that is replaced by another changes what came of that line and nothing else
(`Compiled.DifferAt`): the step, the piece of the listing and the problem that the line has
on its own stand between the same others.
-/
import PageGrep.Proofs.Program.Listing

namespace PageGrep

variable {engine : Pattern.Engine}

/-! ## Lines of a text -/

namespace Text

theorem lines_append (a b : String) : lines (a ++ "\n" ++ b) = lines a ++ lines b := by
  have hchars : (a ++ "\n" ++ b).toList = a.toList ++ '\n' :: b.toList := by simp
  rw [lines, lines, lines, hchars]
  simp only [cutAt_eq_splitOn]
  rw [List.splitOn_append_cons_self, List.map_append]

theorem length_lines (text : String) : (lines text).length = 1 + text.toList.count '\n' := by
  rw [lines, List.length_map]
  induction text.toList with
  | nil => rfl
  | cons c rest ih =>
      rw [cutAt, List.count_cons]
      split
      · rw [List.length_cons, ih, Nat.add_assoc]
      · rw [Nat.add_zero, ← ih]
        cases hrest : cutAt '\n' rest with
        | nil =>
            rw [hrest, List.length_nil] at ih
            omega
        | cons _ _ => rfl

theorem lines_intercalate {ls : List String} (hne : ls ≠ [])
    (h : ∀ line ∈ ls, '\n' ∉ line.toList) : lines ("\n".intercalate ls) = ls := by
  have hpieces : ∀ piece ∈ ls.map String.toList, '\n' ∉ piece := by
    simpa only [List.forall_mem_map] using h
  rw [lines, cutAt_eq_splitOn, String.toList_intercalate]
  have hcut := List.splitOn_intercalate '\n' hpieces (by simpa using hne)
  have hfeed : "\n".toList = ['\n'] := rfl
  rw [hfeed, hcut, List.map_map]
  exact (List.map_congr_left fun _ _ => String.ofList_toList).trans (List.map_id ls)

theorem lines_of_not_mem {line : String} (h : '\n' ∉ line.toList) : lines line = [line] := by
  rw [lines, cutAt_of_not_mem h, List.map_singleton, String.ofList_toList]

end Text

/-! ## Texts one below the other -/

/-- The same problem some lines further down. -/
def Problem.below (p : Problem) (lines : Nat) : Problem := { p with number := p.number + lines }

namespace Compiled

instance : Append Compiled := ⟨fun c c' => ⟨c.lines ++ c'.lines⟩⟩

variable (c c' : Compiled)

theorem lines_append : (c ++ c').lines = c.lines ++ c'.lines := rfl

theorem program_append : (c ++ c').program = c.program ++ c'.program := by
  rw [program, lines_append, List.filterMap_append]
  rfl

theorem problemsFrom_append (first : Nat) (ls ls' : List CompiledLine) :
    problemsFrom first (ls ++ ls')
      = problemsFrom first ls ++ problemsFrom (first + ls.length) ls' := by
  induction ls generalizing first with
  | nil => rfl
  | cons l rest ih =>
      rw [List.cons_append, problemsFrom_cons, problemsFrom_cons, ih, List.append_assoc,
        List.length_cons, Nat.add_assoc, Nat.add_comm 1]

theorem problemsFrom_add (first shift : Nat) (ls : List CompiledLine) :
    problemsFrom (first + shift) ls = (problemsFrom first ls).map (·.below shift) := by
  induction ls generalizing first with
  | nil => rfl
  | cons l rest ih =>
      have hrest := ih (first + 1)
      rw [Nat.add_right_comm] at hrest
      rw [problemsFrom_cons, problemsFrom_cons, List.map_append, hrest, problem?, problem?]
      cases l.fault? <;> rfl

theorem problems_append :
    (c ++ c').problems = c.problems ++ c'.problems.map (·.below c.lines.length) := by
  rw [problems, lines_append, problemsFrom_append, problemsFrom_add]
  rfl

variable {c c'}

theorem listing_append (h : c.lines ≠ []) (h' : c'.lines ≠ []) :
    (c ++ c').listing = c.listing ++ lineBreak ++ c'.listing := by
  have hpieces : c.lines.map CompiledLine.piece ≠ [] := by simpa using h
  have hpieces' : c'.lines.map CompiledLine.piece ≠ [] := by simpa using h'
  rw [listing, lines_append, List.map_append,
    String.intercalate_append_of_ne_nil hpieces hpieces']
  rfl

end Compiled

theorem compile_append (engine : Pattern.Engine) (a b : String) :
    compile engine (a ++ "\n" ++ b) = do return (← compile engine a) ++ (← compile engine b) := by
  rw [compile, compile, compile, Text.lines_append, List.mapM_append]
  cases (Text.lines a).mapM (CompiledLine.ofLine engine) with
  | error _ => rfl
  | ok _ => cases (Text.lines b).mapM (CompiledLine.ofLine engine) <;> rfl

theorem compile_append_eq_ok_iff {a b : String} {c : Compiled} :
    compile engine (a ++ "\n" ++ b) = .ok c ↔
      ∃ ca cb, compile engine a = .ok ca ∧ compile engine b = .ok cb ∧ c = ca ++ cb := by
  rw [compile_append, bind_eq_ok_iff]
  constructor
  · rintro ⟨ca, ha, hrest⟩
    obtain ⟨cb, hb, heq⟩ := bind_eq_ok_iff.mp hrest
    exact ⟨ca, cb, ha, hb, (Except.ok.inj heq).symm⟩
  · rintro ⟨ca, cb, ha, hb, rfl⟩
    exact ⟨ca, ha, bind_eq_ok_iff.mpr ⟨cb, hb, rfl⟩⟩

section Lines

variable {text : String} {c : Compiled}

theorem length_lines_of_compile (h : compile engine text = .ok c) :
    c.lines.length = 1 + text.toList.count '\n' := by
  rw [← Text.length_lines, ← (compile_eq_ok_iff.mp h).1, List.length_map]

theorem lines_ne_nil_of_compile (h : compile engine text = .ok c) : c.lines ≠ [] := by
  have hlength := length_lines_of_compile h
  exact List.ne_nil_of_length_pos (by omega)

end Lines

/-! ## A line replaced -/

/-- Two compiled texts differ in one line, the one after the first `i`, which comes to `own`
in the one and to `own'` in the other. -/
structure Compiled.DifferAt (i : Nat) (own own' c c' : Compiled) : Prop where
  /-- The steps before and after the step of the line are the same. -/
  program : ∃ before after, c.program = before ++ own.program ++ after ∧
    c'.program = before ++ own'.program ++ after
  /-- The pieces of the listing are the same but for the one of the line. -/
  listing : ∃ before after, before.length = i ∧
    Text.pieces lineBreak c.listing = before ++ own.listing :: after ∧
    Text.pieces lineBreak c'.listing = before ++ own'.listing :: after
  /-- The problems of the lines before and after are the same. -/
  problems : ∃ before after, (∀ p ∈ before, p.number ≤ i) ∧ (∀ p ∈ after, i + 1 < p.number) ∧
    c.problems = before ++ own.problems.map (·.below i) ++ after ∧
    c'.problems = before ++ own'.problems.map (·.below i) ++ after

section Replaced

variable (before after : List CompiledLine) (l l' : CompiledLine)

theorem problems_around :
    (Compiled.mk (before ++ l :: after)).problems
      = Compiled.problemsFrom 1 before
        ++ (Compiled.mk [l]).problems.map (·.below before.length)
        ++ Compiled.problemsFrom (before.length + 2) after := by
  have hown : Compiled.problemsFrom (1 + before.length) [l]
      = (Compiled.mk [l]).problems.map (·.below before.length) :=
    Compiled.problemsFrom_add 1 before.length [l]
  have hsplit : before ++ l :: after = before ++ ([l] ++ after) := rfl
  have hnumber : 1 + before.length + [l].length = before.length + 2 := by
    rw [List.length_singleton]
    omega
  rw [Compiled.problems, hsplit, Compiled.problemsFrom_append, Compiled.problemsFrom_append,
    hown, hnumber, List.append_assoc]

theorem differAt_around :
    Compiled.DifferAt before.length ⟨[l]⟩ ⟨[l']⟩ ⟨before ++ l :: after⟩
      ⟨before ++ l' :: after⟩ where
  program := by
    refine ⟨before.filterMap CompiledLine.step?, after.filterMap CompiledLine.step?, ?_, ?_⟩
    · simp [Compiled.program, ← List.filterMap_append]
    · simp [Compiled.program, ← List.filterMap_append]
  listing := by
    have hpieces (l : CompiledLine) :
        Text.pieces Compiled.lineBreak (Compiled.mk (before ++ l :: after)).listing
          = before.map CompiledLine.piece
            ++ (Compiled.mk [l]).listing :: after.map CompiledLine.piece := by
      rw [Listing.pieces_listing (by simp), List.map_append, List.map_cons, Compiled.listing,
        List.map_singleton, String.intercalate_singleton]
    exact ⟨_, _, List.length_map _, hpieces l, hpieces l'⟩
  problems := by
    refine ⟨_, _, ?_, ?_, problems_around before after l, problems_around before after l'⟩
    · intro p hp
      obtain ⟨i, m, hm, hproblem⟩ := Compiled.mem_problemsFrom_iff.mp hp
      obtain ⟨_, -, rfl⟩ := Option.map_eq_some_iff.mp hproblem
      have hi := (List.getElem?_eq_some_iff.mp hm).1
      dsimp only
      omega
    · intro p hp
      obtain ⟨i, m, -, hproblem⟩ := Compiled.mem_problemsFrom_iff.mp hp
      obtain ⟨_, -, rfl⟩ := Option.map_eq_some_iff.mp hproblem
      dsimp only
      omega

end Replaced

theorem compile_line_eq_ok_iff {line : String} (h : '\n' ∉ line.toList) {c : Compiled} :
    compile engine line = .ok c ↔
      ∃ l, c = ⟨[l]⟩ ∧ l.line = line ∧ Line.compile engine line = .ok l.outcome := by
  rw [compile_eq_ok_iff, Text.lines_of_not_mem h, List.map_eq_singleton_iff]
  constructor
  · rintro ⟨⟨l, hl, rfl⟩, hall⟩
    refine ⟨l, by rw [← hl], rfl, hall l ?_⟩
    rw [hl]
    exact List.mem_singleton_self l
  · rintro ⟨l, rfl, rfl, hl⟩
    exact ⟨⟨l, rfl, rfl⟩, by simpa using hl⟩

/-- A text with a line replaced can be compiled again and differs in that line. -/
theorem exists_differAt {text line line' : String} {i : Nat} {c own' : Compiled}
    (hline : (Text.lines text)[i]? = some line) (hfeed : '\n' ∉ line'.toList)
    (hc : compile engine text = .ok c) (hown' : compile engine line' = .ok own') :
    ∃ own c', compile engine line = .ok own ∧
      compile engine ("\n".intercalate ((Text.lines text).set i line')) = .ok c' ∧
      Compiled.DifferAt i own own' c c' := by
  obtain ⟨hlines, hall⟩ := compile_eq_ok_iff.mp hc
  obtain ⟨l', rfl, rfl, hl'⟩ := (compile_line_eq_ok_iff hfeed).mp hown'
  rw [← hlines, List.getElem?_map, Option.map_eq_some_iff] at hline
  obtain ⟨l, hl, rfl⟩ := hline
  obtain ⟨hi, hget⟩ := List.getElem?_eq_some_iff.mp hl
  have hmem : l ∈ c.lines := List.mem_of_getElem? hl
  -- The lines around the one that is replaced.
  have hsplit : c.lines = c.lines.take i ++ l :: c.lines.drop (i + 1) := by
    rw [← hget, List.getElem_cons_drop, List.take_append_drop]
  have hset : c.lines.set i l' = c.lines.take i ++ l' :: c.lines.drop (i + 1) :=
    List.set_eq_take_append_cons_drop.trans (if_pos hi)
  have hplace : (c.lines.take i).length = i := List.length_take_of_le (Nat.le_of_lt hi)
  refine ⟨⟨[l]⟩, ⟨c.lines.set i l'⟩, ?_, ?_, ?_⟩
  · exact (compile_line_eq_ok_iff (not_mem_of_mem_compiled hc hmem)).mpr
      ⟨l, rfl, rfl, hall l hmem⟩
  · rw [← hlines, ← List.map_set, compile_eq_ok_iff, Text.lines_intercalate]
    · refine ⟨rfl, fun m hm => ?_⟩
      rcases List.mem_or_eq_of_mem_set hm with hold | rfl
      · exact hall m hold
      · exact hl'
    · simpa using lines_ne_nil_of_compile hc
    · simp only [List.forall_mem_map]
      intro m hm
      rcases List.mem_or_eq_of_mem_set hm with hold | rfl
      · exact not_mem_of_mem_compiled hc hold
      · exact hfeed
  · have hdiffer := differAt_around (c.lines.take i) (c.lines.drop (i + 1)) l l'
    rw [hplace, ← hsplit, ← hset] at hdiffer
    exact hdiffer

/-- **What comes of a line comes of that line alone.**  Of two texts one below the other the
program, the listing and the problems are joined, and a line that is replaced changes its
own step, piece and problem. -/
theorem compile_local (engine : Pattern.Engine) (a b : String) :
    ((∃ c, compile engine (a ++ "\n" ++ b) = .ok c) ↔
      (∃ ca, compile engine a = .ok ca) ∧ ∃ cb, compile engine b = .ok cb) ∧
    (∀ c, compile engine (a ++ "\n" ++ b) = .ok c →
      ∃ ca cb, compile engine a = .ok ca ∧ compile engine b = .ok cb ∧
        c.program = ca.program ++ cb.program ∧
        c.listing = ca.listing ++ "<br>" ++ cb.listing ∧
        c.problems = ca.problems ++ cb.problems.map (·.below (1 + a.toList.count '\n'))) ∧
    ∀ (text line line' : String) (i : Nat) (c own' : Compiled),
      (Text.lines text)[i]? = some line → '\n' ∉ line'.toList →
      compile engine text = .ok c → compile engine line' = .ok own' →
      ∃ own c', compile engine line = .ok own ∧
        compile engine ("\n".intercalate ((Text.lines text).set i line')) = .ok c' ∧
        Compiled.DifferAt i own own' c c' := by
  refine ⟨?_, ?_, ?_⟩
  · simp only [compile_append_eq_ok_iff]
    constructor
    · rintro ⟨c, ca, cb, ha, hb, -⟩
      exact ⟨⟨ca, ha⟩, cb, hb⟩
    · rintro ⟨⟨ca, ha⟩, cb, hb⟩
      exact ⟨ca ++ cb, ca, cb, ha, hb, rfl⟩
  · intro c hc
    obtain ⟨ca, cb, ha, hb, rfl⟩ := compile_append_eq_ok_iff.mp hc
    refine ⟨ca, cb, ha, hb, Compiled.program_append ca cb, ?_, ?_⟩
    · exact Compiled.listing_append (lines_ne_nil_of_compile ha) (lines_ne_nil_of_compile hb)
    · rw [Compiled.problems_append, length_lines_of_compile ha]
  · intro text line line' i c own' hline hfeed hc hown'
    exact exists_differAt hline hfeed hc hown'

/-- A faulty line on either side of the cut, the second of them replaced by one that is not. -/
theorem compile_local_fault_on_each_side :
    ∃ ca cb c own own' c', compile .late "FIND x\nITEM quote" = .ok ca ∧
      compile .late "\nITEM Quote" = .ok cb ∧
      compile .late "FIND x\nITEM quote\n\nITEM Quote" = .ok c ∧
      c.problems = ca.problems ++ cb.problems.map (·.below 2) ∧
      cb.problems = [⟨2, "ITEM Quote", .notAType "Quote"⟩] ∧
      (Text.lines "FIND x\nITEM quote\n\nITEM Quote")[3]? = some "ITEM Quote" ∧
      compile .late "ITEM Quote" = .ok own ∧ compile .late "ITEM fold" = .ok own' ∧
      compile .late "FIND x\nITEM quote\n\nITEM fold" = .ok c' ∧
      Compiled.DifferAt 3 own own' c c' := by
  obtain ⟨c, hc, -⟩ : ∃ c, compile .late "FIND x\nITEM quote\n\nITEM Quote" = .ok c ∧
      c.errors = 2 := exists_of_toOption_map (by decide +kernel)
  obtain ⟨own', hown', -⟩ : ∃ own', compile .late "ITEM fold" = .ok own' ∧ own'.errors = 0 :=
    exists_of_toOption_map (by decide +kernel)
  have hproblems : ((compile .late "\nITEM Quote").map Compiled.problems).toOption
      = some [⟨2, "ITEM Quote", .notAType "Quote"⟩] := by decide +kernel
  have hline : (Text.lines "FIND x\nITEM quote\n\nITEM Quote")[3]? = some "ITEM Quote" := by
    decide +kernel
  have hset : "\n".intercalate
      ((Text.lines "FIND x\nITEM quote\n\nITEM Quote").set 3 "ITEM fold")
        = "FIND x\nITEM quote\n\nITEM fold" := by decide +kernel
  obtain ⟨-, hjoined, hreplaced⟩ := compile_local .late "FIND x\nITEM quote" "\nITEM Quote"
  obtain ⟨ca, cb, ha, hb, -, -, hjoin⟩ := hjoined c hc
  obtain ⟨own, c', hown, hc', hdiffer⟩ := hreplaced _ _ _ 3 c own' hline (by decide) hc hown'
  rw [hset] at hc'
  rw [hb] at hproblems
  exact ⟨ca, cb, c, own, own', c', ha, hb, hc, hjoin, Option.some.inj hproblems, hline, hown,
    hown', hc', hdiffer⟩

end PageGrep
