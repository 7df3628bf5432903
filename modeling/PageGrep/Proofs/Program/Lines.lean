/-
# What comes of each line

A program text is compiled line by line, and what comes of a line depends on the line
alone: if the text can be compiled at all, the lines it comes to are the lines of the text,
each with the outcome of `Line.compile` (`compile_eq_ok_iff`).  The program, the problems
and the listing are views of these, so what is proved here of the views holds of any list
of compiled lines:

* a problem is a faulty line with its number, and the numbers increase
  (`mem_problems_iff`, `pairwise_number_problems`);
* a line comes to a step, to a fault or to nothing (`length_views`).

What a line may come to is told by `Line.ComesTo`.  No line of a text holds a line feed, so
every line of a text has a word and an argument (`split?_of_not_mem`).
-/
import PageGrep.Program.Compiled
import PageGrep.Proofs.Except

namespace PageGrep

variable {engine : Pattern.Engine}

/-! ## Lines of a text -/

namespace Text

theorem cutAt_eq_splitOn (c : Char) (cs : List Char) : cutAt c cs = cs.splitOn c := by
  induction cs with
  | nil => rfl
  | cons x rest ih =>
      rw [cutAt, ih, List.splitOn_cons_eq_if_modifyHead]
      split
      · rfl
      · cases hrest : rest.splitOn c with
        | nil => exact absurd hrest (List.splitOn_ne_nil c rest)
        | cons _ _ => rfl

theorem cutAt_of_not_mem {c : Char} {cs : List Char} (h : c ∉ cs) : cutAt c cs = [cs] := by
  induction cs with
  | nil => rfl
  | cons x rest ih =>
      obtain ⟨hx, hrest⟩ := not_or.mp (mt List.mem_cons.mpr h)
      rw [cutAt, if_neg (by simpa using Ne.symm hx), ih hrest]

theorem not_mem_of_mem_cutAt {c : Char} {cs piece : List Char} (h : piece ∈ cutAt c cs) :
    c ∉ piece := by
  induction cs generalizing piece with
  | nil =>
      rw [List.mem_singleton.mp h]
      exact List.not_mem_nil
  | cons x rest ih =>
      rw [cutAt] at h
      split at h
      · rcases List.mem_cons.mp h with rfl | hrest
        · exact List.not_mem_nil
        · exact ih hrest
      · rename_i hx
        have hne : ¬ c = x := fun heq => hx (beq_iff_eq.mpr heq.symm)
        split at h
        · rw [List.mem_singleton.mp h]
          simpa using hne
        · rename_i first pieces hcut
          rw [hcut] at ih
          rcases List.mem_cons.mp h with rfl | hrest
          · exact fun hmem => (List.mem_cons.mp hmem).elim hne (ih List.mem_cons_self)
          · exact ih (List.mem_cons_of_mem _ hrest)

theorem not_mem_of_mem_lines {text line : String} (h : line ∈ lines text) :
    '\n' ∉ line.toList := by
  obtain ⟨piece, hpiece, rfl⟩ := List.mem_map.mp h
  rw [String.toList_ofList]
  exact not_mem_of_mem_cutAt hpiece

theorem lines_ne_nil (text : String) : lines text ≠ [] := by
  rw [lines, cutAt_eq_splitOn]
  exact mt List.map_eq_nil_iff.mp (List.splitOn_ne_nil _ _)

theorem intercalate_lines (text : String) : "\n".intercalate (lines text) = text := by
  have hlines : (lines text).map String.toList = text.toList.splitOn '\n' := by
    rw [lines, List.map_map, cutAt_eq_splitOn]
    exact (List.map_congr_left fun _ _ => String.toList_ofList).trans (List.map_id _)
  apply String.toList_injective
  rw [String.toList_intercalate, hlines]
  exact List.intercalate_splitOn '\n'

end Text

/-! ## One line -/

namespace Line

theorem not_mem_skipBlanks {cs : List Char} (h : '\n' ∉ cs) : '\n' ∉ skipBlanks cs :=
  fun hmem => h ((List.dropWhile_suffix _).mem hmem)

theorem not_mem_skipWord {cs : List Char} (h : '\n' ∉ cs) : '\n' ∉ skipWord cs :=
  fun hmem => h ((List.dropWhile_suffix _).mem hmem)

theorem argument?_of_not_mem {cs : List Char} (h : '\n' ∉ cs) : argument? cs = some cs := by
  have hlast : ¬ (cs.getLast? == some '\n') = true := by
    rw [beq_iff_eq]
    exact fun heq => h (List.mem_of_getLast? heq)
  simp [argument?, hlast, h]

/-- The word that a line starts with, after its blanks. -/
def firstWord (line : String) : String := String.ofList (word (skipBlanks line.toList))

/-- A line without a line feed has a word, which may be empty, and an argument. -/
theorem split?_of_not_mem {line : String} (h : '\n' ∉ line.toList) :
    ∃ argument, split? line = some (firstWord line, argument) := by
  have hargument := argument?_of_not_mem
    (not_mem_skipBlanks (not_mem_skipWord (not_mem_skipBlanks h)))
  exact ⟨_, by rw [split?, hargument]; rfl⟩

theorem firstWord_of_split? {line word argument : String}
    (h : split? line = some (word, argument)) : word = firstWord line := by
  obtain ⟨_, -, heq⟩ := Option.map_eq_some_iff.mp h
  exact (Prod.mk.inj heq).1.symm

/-- What a line comes to, case by case. -/
inductive ComesTo (engine : Pattern.Engine) (line : String) : Except Halt Outcome → Prop
  | notALine : split? line = none → ComesTo engine line (.error (.notALine line))
  | nothing {argument : String} :
      split? line = some ("", argument) → ComesTo engine line (.ok .nothing)
  | unknownCommand {word argument : String} :
      split? line = some (word, argument) → word ≠ "" → Op.ofName? word = none →
        ComesTo engine line (.ok (.fault (.unknownCommand word)))
  | select {word argument : String} {c : Collection} :
      split? line = some (word, argument) → Op.ofName? word = some (.select c) →
        isType argument = true → ComesTo engine line (.ok (.step (.select c argument)))
  | notAType {word argument : String} {c : Collection} :
      split? line = some (word, argument) → Op.ofName? word = some (.select c) →
        isType argument = false → ComesTo engine line (.ok (.fault (.notAType argument)))
  | test {word argument : String} {s : Subject} {pattern : Pattern} :
      split? line = some (word, argument) → Op.ofName? word = some (.test s) →
        Pattern.compile engine argument = .ok pattern →
          ComesTo engine line (.ok (.step (.test s pattern)))
  | badPattern {word argument : String} {s : Subject} {error : Pattern.Error} :
      split? line = some (word, argument) → Op.ofName? word = some (.test s) →
        Pattern.compile engine argument = .error error → (∀ excess, error ≠ .excessive excess) →
        ComesTo engine line (.ok (.fault (.badPattern argument error)))
  | excessive {word argument : String} {s : Subject} {excess : Pattern.Excess} :
      split? line = some (word, argument) → Op.ofName? word = some (.test s) →
        Pattern.compile engine argument = .error (.excessive excess) →
        ComesTo engine line (.error (.excessive excess))

theorem comesTo_compile (engine : Pattern.Engine) (line : String) :
    ComesTo engine line (Line.compile engine line) := by
  unfold Line.compile
  split
  · rename_i word argument hsplit
    unfold ofParts
    split
    · rename_i hword
      rw [beq_iff_eq.mp hword] at hsplit
      exact .nothing hsplit
    · rename_i hword
      split
      · rename_i hop
        exact .unknownCommand hsplit (by simpa using hword) hop
      · rename_i hop
        split
        · rename_i htype
          exact .select hsplit hop htype
        · rename_i htype
          exact .notAType hsplit hop (by simpa using htype)
      · rename_i hop
        unfold ofPattern
        split
        · rename_i hpattern
          exact .test hsplit hop hpattern
        · rename_i hpattern
          exact .excessive hsplit hop hpattern
        · rename_i error hne hpattern
          exact .badPattern hsplit hop hpattern hne
  · rename_i hsplit
    exact .notALine hsplit

theorem ne_empty_of_ofName? {word : String} {op : Op} (h : Op.ofName? word = some op) :
    word ≠ "" := by
  rintro rfl
  have hnone : Op.ofName? "" = none := by decide
  exact nomatch hnone.symm.trans h

theorem compile_eq_iff {line : String} {r : Except Halt Outcome} :
    Line.compile engine line = r ↔ ComesTo engine line r := by
  constructor
  · rintro rfl
    exact comesTo_compile engine line
  · intro h
    cases h with
    | notALine hsplit => simp [Line.compile, hsplit]
    | nothing hsplit => simp [Line.compile, hsplit, ofParts]
    | unknownCommand hsplit hword hop => simp [Line.compile, hsplit, ofParts, hword, hop]
    | select hsplit hop htype | notAType hsplit hop htype =>
        simp [Line.compile, hsplit, ofParts, ne_empty_of_ofName? hop, hop, htype]
    | test hsplit hop hpattern | excessive hsplit hop hpattern =>
        simp [Line.compile, hsplit, ofParts, ne_empty_of_ofName? hop, hop, ofPattern, hpattern]
    | @badPattern _ argument _ error hsplit hop hpattern hbroken =>
        simp only [Line.compile, hsplit, ofParts, beq_iff_eq, ne_empty_of_ofName? hop, if_false,
          hop, ofPattern, hpattern]

/-- A line without a line feed comes to nothing just if it has no word. -/
theorem compile_eq_nothing_iff {line : String} (h : '\n' ∉ line.toList) :
    Line.compile engine line = .ok .nothing ↔ firstWord line = "" := by
  obtain ⟨argument, hsplit⟩ := split?_of_not_mem h
  rw [compile_eq_iff]
  constructor
  · intro hnothing
    cases hnothing with
    | nothing hempty => exact (firstWord_of_split? hempty).symm
  · intro hword
    exact .nothing (hword ▸ hsplit)

end Line

/-! ## All lines -/

namespace CompiledLine

theorem ofLine_eq_ok_iff {line : String} {l : CompiledLine} :
    ofLine engine line = .ok l ↔ l.line = line ∧ Line.compile engine line = .ok l.outcome := by
  rw [ofLine, map_eq_ok_iff]
  constructor
  · rintro ⟨outcome, hcompile, rfl⟩
    exact ⟨rfl, hcompile⟩
  · rintro ⟨rfl, hcompile⟩
    exact ⟨l.outcome, hcompile, rfl⟩

theorem mapM_ofLine_eq_ok_iff {lines : List String} {ls : List CompiledLine} :
    lines.mapM (ofLine engine) = .ok ls ↔
      ls.map line = lines ∧ ∀ l ∈ ls, Line.compile engine l.line = .ok l.outcome := by
  induction lines generalizing ls with
  | nil =>
      rw [List.mapM_nil, List.map_eq_nil_iff]
      constructor
      · intro h
        cases h
        exact ⟨rfl, nofun⟩
      · rintro ⟨rfl, -⟩
        rfl
  | cons line lines ih =>
      simp only [List.mapM_cons, bind_eq_ok_iff, ih, ofLine_eq_ok_iff, List.map_eq_cons_iff]
      constructor
      · rintro ⟨l, ⟨rfl, hl⟩, ls', ⟨hlines, hls⟩, hcons⟩
        cases hcons
        exact ⟨⟨l, ls', rfl, rfl, hlines⟩, List.forall_mem_cons.mpr ⟨hl, hls⟩⟩
      · rintro ⟨⟨l, ls', rfl, rfl, hlines⟩, hall⟩
        obtain ⟨hl, hls⟩ := List.forall_mem_cons.mp hall
        exact ⟨l, ⟨rfl, hl⟩, ls', ⟨hlines, hls⟩, rfl⟩

end CompiledLine

theorem compile_eq_ok_iff {text : String} {c : Compiled} :
    compile engine text = .ok c ↔
      c.lines.map CompiledLine.line = Text.lines text ∧
        ∀ l ∈ c.lines, Line.compile engine l.line = .ok l.outcome := by
  rw [compile, map_eq_ok_iff, ← CompiledLine.mapM_ofLine_eq_ok_iff]
  constructor
  · rintro ⟨ls, hlines, rfl⟩
    exact hlines
  · intro hlines
    exact ⟨c.lines, hlines, rfl⟩

theorem not_mem_of_mem_compiled {text : String} {c : Compiled} (h : compile engine text = .ok c)
    {l : CompiledLine} (hmem : l ∈ c.lines) : '\n' ∉ l.line.toList := by
  have hline : l.line ∈ Text.lines text := by
    rw [← (compile_eq_ok_iff.mp h).1]
    exact List.mem_map_of_mem hmem
  exact Text.not_mem_of_mem_lines hline

theorem exists_of_compile_eq_error {text : String} {halt : Halt}
    (h : compile engine text = .error halt) :
    ∃ line ∈ Text.lines text, Line.compile engine line = .error halt := by
  obtain ⟨line, hmem, hline⟩ := exists_of_mapM_eq_error (map_eq_error_iff.mp h)
  exact ⟨line, hmem, map_eq_error_iff.mp hline⟩

/-! ## Views of the lines -/

namespace Compiled

def problem? (number : Nat) (l : CompiledLine) : Option Problem :=
  l.fault?.map fun fault => ⟨number, l.line, fault⟩

theorem problemsFrom_cons (first : Nat) (l : CompiledLine) (rest : List CompiledLine) :
    problemsFrom first (l :: rest) = (problem? first l).toList ++ problemsFrom (first + 1) rest :=
  rfl

theorem mem_problemsFrom_iff {first : Nat} {ls : List CompiledLine} {p : Problem} :
    p ∈ problemsFrom first ls ↔ ∃ i l, ls[i]? = some l ∧ problem? (first + i) l = some p := by
  induction ls generalizing first with
  | nil => simp [problemsFrom]
  | cons l rest ih =>
      rw [problemsFrom_cons, List.mem_append, Option.mem_toList, ih]
      constructor
      · rintro (hfirst | ⟨i, l', hl', hp⟩)
        · exact ⟨0, l, rfl, hfirst⟩
        · refine ⟨i + 1, l', hl', ?_⟩
          rwa [Nat.add_right_comm] at hp
      · rintro ⟨i, l', hl', hp⟩
        cases i with
        | zero =>
            cases hl'
            exact .inl hp
        | succ i =>
            refine .inr ⟨i, l', hl', ?_⟩
            rwa [Nat.add_right_comm]

theorem mem_problems_iff {c : Compiled} {p : Problem} :
    p ∈ c.problems ↔
      ∃ i l, c.lines[i]? = some l ∧ l.fault? = some p.fault ∧ p.number = i + 1 ∧
        p.line = l.line := by
  obtain ⟨number, line, fault⟩ := p
  rw [problems, mem_problemsFrom_iff]
  simp only [problem?, Option.map_eq_some_iff, Problem.mk.injEq]
  constructor
  · rintro ⟨i, l, hl, fault', hfault, hnumber, rfl, rfl⟩
    exact ⟨i, l, hl, hfault, by omega, rfl⟩
  · rintro ⟨i, l, hl, hfault, rfl, rfl⟩
    exact ⟨i, l, hl, fault, hfault, by omega, rfl, rfl⟩

theorem pairwise_number_problems (c : Compiled) :
    c.problems.Pairwise fun p q => p.number < q.number := by
  rw [problems]
  generalize 1 = first
  induction c.lines generalizing first with
  | nil => exact .nil
  | cons l rest ih =>
      rw [problemsFrom_cons, List.pairwise_append]
      refine ⟨by cases problem? first l <;> simp, ih _, ?_⟩
      intro p hp q hq
      obtain ⟨_, -, rfl⟩ := Option.map_eq_some_iff.mp (Option.mem_toList.mp hp)
      obtain ⟨i, l', -, hproblem⟩ := mem_problemsFrom_iff.mp hq
      obtain ⟨_, -, rfl⟩ := Option.map_eq_some_iff.mp hproblem
      exact Nat.lt_of_lt_of_le (Nat.lt_succ_self first) (Nat.le_add_right _ i)

theorem length_problems (c : Compiled) :
    c.problems.length = (c.lines.filterMap CompiledLine.fault?).length := by
  rw [problems]
  generalize 1 = first
  induction c.lines generalizing first with
  | nil => rfl
  | cons l rest ih =>
      rw [problemsFrom_cons, List.length_append, ih, List.filterMap_cons, problem?]
      cases l.fault? with
      | none => simp
      | some _ => simp [Nat.add_comm]

theorem length_views {text : String} {c : Compiled} (h : compile engine text = .ok c) :
    c.program.length + c.problems.length
        + ((Text.lines text).filter fun line => Line.firstWord line == "").length
      = (Text.lines text).length := by
  obtain ⟨hlines, hall⟩ := compile_eq_ok_iff.mp h
  have hword (l) (hl : l ∈ c.lines) : l.outcome = .nothing ↔ Line.firstWord l.line = "" := by
    rw [← Line.compile_eq_nothing_iff (not_mem_of_mem_compiled h hl), hall l hl, Except.ok.injEq]
  rw [length_problems, program, ← hlines]
  generalize c.lines = ls at hword ⊢
  induction ls with
  | nil => rfl
  | cons l ls ih =>
      have hrest := ih fun l' hl' => hword l' (List.mem_cons_of_mem _ hl')
      have hfirst := hword l List.mem_cons_self
      cases houtcome : l.outcome <;> rw [houtcome] at hfirst <;>
        simp [CompiledLine.step?, CompiledLine.fault?, houtcome, ← hfirst] at hrest ⊢ <;> omega

end Compiled

end PageGrep
