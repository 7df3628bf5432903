/-
# Programs printed

A step is printed as its word, a space and its argument, and a program as its steps line by
line.  What is printed is compiled to the same steps again (`compile_printed`): nothing of
how a line was written matters but the word and the argument that were found in it.

The lemma this rests on is about the arguments that a line can have (`Line.IsArgument`).
Blanks before them are skipped and lines hold no line feed, so such an argument is found again
after a word and a space, empty or not, and whatever stood between it and the word in the line
that it is from, if anything did (`Line.split?_printed`).  Then the line that is printed comes
to what that line does (`Step.IsWritten.comesTo_printed`).
-/
import Mathlib.Data.List.TakeWhile
import PageGrep.Proofs.Program.Locality

namespace PageGrep

variable {engine : Pattern.Engine}

/-! ## The words of steps -/

namespace Op

theorem mem_all (op : Op) : op ∈ all := by
  rcases op with c | (f | _)
  · cases c <;> decide
  · cases f <;> decide
  · decide

theorem ofName?_name (op : Op) : ofName? op.name = some op := by
  have hall : ∀ op ∈ all, ofName? op.name = some op := by decide
  exact hall op op.mem_all

theorem isWord_of_mem_name {op : Op} {x : Char} (h : x ∈ op.name.toList) :
    Text.isWord x.toNat = true := by
  have hall : ∀ op ∈ all, (op.name.toList.all fun x => Text.isWord x.toNat) = true := by
    decide +kernel
  exact List.all_eq_true.mp (hall op op.mem_all) x h

theorem not_mem_name (op : Op) : '\n' ∉ op.name.toList := by
  have hall : ∀ op ∈ all, '\n' ∉ op.name.toList := by decide
  exact hall op op.mem_all

theorem skipBlanks_name_append (op : Op) (rest : List Char) :
    Line.skipBlanks (op.name.toList ++ rest) = op.name.toList ++ rest := by
  have hall : ∀ op ∈ all, op.name.toList ≠ [] ∧
      Line.skipBlanks op.name.toList = op.name.toList := by decide +kernel
  obtain ⟨hne, hname⟩ := hall op op.mem_all
  cases hchars : op.name.toList with
  | nil => exact absurd hchars hne
  | cons x xs =>
      rw [hchars] at hname
      have hx := List.dropWhile_eq_self_iff.mp hname (Nat.succ_pos xs.length)
      exact List.dropWhile_cons_of_neg hx

end Op

/-! ## The arguments of lines -/

namespace Line

/-- The characters make up an argument that a line can have. -/
structure IsArgument (cs : List Char) : Prop where
  oneLine : '\n' ∉ cs
  skipped : skipBlanks cs = cs

theorem isArgument_of_split? {line word argument : String} (h : '\n' ∉ line.toList)
    (hsplit : split? line = some (word, argument)) : IsArgument argument.toList := by
  have hfeed : '\n' ∉ skipBlanks (skipWord (skipBlanks line.toList)) :=
    not_mem_skipBlanks (not_mem_skipWord (not_mem_skipBlanks h))
  rw [split?, argument?_of_not_mem hfeed, Option.map_some] at hsplit
  obtain ⟨-, rfl⟩ := Prod.mk.inj (Option.some.inj hsplit)
  rw [String.toList_ofList]
  exact ⟨hfeed, List.dropWhile_eq_self_iff.mpr (List.dropWhile_get_zero_not _ _)⟩

theorem split?_printed (op : Op) {argument : String} (h : IsArgument argument.toList) :
    split? (op.name ++ " " ++ argument) = some (op.name, argument) := by
  have hchars : (op.name ++ " " ++ argument).toList
      = op.name.toList ++ ' ' :: argument.toList := by simp
  have hspace : Text.isWord ' '.toNat = false := by decide +kernel
  have hword : word (op.name.toList ++ ' ' :: argument.toList) = op.name.toList := by
    rw [word, List.takeWhile_append_of_pos fun x hx => Op.isWord_of_mem_name hx,
      List.takeWhile_cons_of_neg (by rw [hspace]; exact Bool.false_ne_true), List.append_nil]
  have hrest : skipWord (op.name.toList ++ ' ' :: argument.toList) = ' ' :: argument.toList := by
    rw [skipWord, List.dropWhile_append_of_pos fun x hx => Op.isWord_of_mem_name hx,
      List.dropWhile_cons_of_neg (by rw [hspace]; exact Bool.false_ne_true)]
  have hskipped : skipBlanks (' ' :: argument.toList) = argument.toList :=
    (List.dropWhile_cons_of_pos (by decide +kernel)).trans h.skipped
  rw [split?, hchars, op.skipBlanks_name_append]
  simp only [hword, hrest, hskipped, argument?_of_not_mem h.oneLine, Option.map_some,
    String.ofList_toList]

end Line

/-! ## Steps -/

theorem Pattern.source_of_compile {source : String} {pattern : Pattern}
    (h : Pattern.compile engine source = .ok pattern) : pattern.source = source := by
  rw [Pattern.compile] at h
  obtain ⟨parsed, -, h⟩ := bind_eq_ok_iff.mp h
  obtain ⟨trees, -, h⟩ := bind_eq_ok_iff.mp h
  obtain ⟨nodes, -, h⟩ := bind_eq_ok_iff.mp h
  cases h
  rfl

namespace Step

/-- What is written after the word of a step: its type, or what writes its pattern. -/
def argument : Step → String
  | select _ kind => kind
  | test _ pattern => pattern.source

/-- A step as a line. -/
def printed (s : Step) : String := s.op.name ++ " " ++ s.argument

/-- Some line comes to the step. -/
def IsWritten (engine : Pattern.Engine) (s : Step) : Prop :=
  ∃ line, '\n' ∉ line.toList ∧ Line.compile engine line = .ok (.step s)

variable {s : Step}

theorem IsWritten.isArgument (h : s.IsWritten engine) : Line.IsArgument s.argument.toList := by
  obtain ⟨line, hfeed, hline⟩ := h
  cases Line.compile_eq_iff.mp hline with
  | select hsplit _ _ => exact Line.isArgument_of_split? hfeed hsplit
  | test hsplit _ hpattern =>
      rw [argument, Pattern.source_of_compile hpattern]
      exact Line.isArgument_of_split? hfeed hsplit

theorem IsWritten.not_mem_printed (h : s.IsWritten engine) : '\n' ∉ s.printed.toList := by
  have hspace : '\n' ∉ " ".toList := by decide
  rw [printed, String.toList_append, String.toList_append, List.mem_append, List.mem_append]
  exact not_or.mpr ⟨not_or.mpr ⟨s.op.not_mem_name, hspace⟩, h.isArgument.oneLine⟩

theorem IsWritten.comesTo_printed (h : s.IsWritten engine) :
    Line.compile engine s.printed = .ok (.step s) := by
  have hprinted := Line.split?_printed s.op h.isArgument
  obtain ⟨line, -, hline⟩ := h
  rw [Line.compile_eq_iff]
  cases Line.compile_eq_iff.mp hline with
  | select _ _ htype => exact .select hprinted (Op.ofName?_name _) htype
  | test _ _ hpattern =>
      refine .test hprinted (Op.ofName?_name _) ?_
      rw [argument, Pattern.source_of_compile hpattern]
      exact hpattern

end Step

/-! ## Programs -/

/-- A program as a text: a line for each step. -/
def Program.printed (program : Program) : String := "\n".intercalate (program.map Step.printed)

theorem isWritten_of_compile {text : String} {c : Compiled} (h : compile engine text = .ok c) :
    ∀ s ∈ c.program, s.IsWritten engine := by
  intro s hs
  obtain ⟨l, hl, hstep⟩ := List.mem_filterMap.mp hs
  have houtcome : l.outcome = .step s := by
    cases h : l.outcome with
    | step _ => simpa [CompiledLine.step?, h] using hstep
    | nothing | fault _ => simp [CompiledLine.step?, h] at hstep
  refine ⟨l.line, not_mem_of_mem_compiled h hl, ?_⟩
  rw [(compile_eq_ok_iff.mp h).2 l hl, houtcome]

/-- A program of steps that lines come to comes of its own print.  An empty program is printed
as an empty text, which still is one line. -/
theorem exists_compile_printed {program : Program} (h : ∀ s ∈ program, s.IsWritten engine) :
    ∃ c, compile engine program.printed = .ok c ∧ c.program = program ∧ c.errors = 0 := by
  cases program with
  | nil => exact ⟨⟨[⟨"", .nothing⟩]⟩, rfl, rfl, rfl⟩
  | cons s rest =>
      let line : Step → CompiledLine := fun s => ⟨s.printed, .step s⟩
      have hsteps : CompiledLine.step? ∘ line = some := rfl
      have hfaults : CompiledLine.fault? ∘ line = fun _ => none := rfl
      refine ⟨⟨(s :: rest).map line⟩, ?_, ?_, ?_⟩
      · rw [compile_eq_ok_iff, Program.printed, Text.lines_intercalate]
        · rw [List.map_map, List.forall_mem_map]
          exact ⟨rfl, fun s' hs' => (h s' hs').comesTo_printed⟩
        · exact List.cons_ne_nil _ _
        · rw [List.forall_mem_map]
          exact fun s' hs' => (h s' hs').not_mem_printed
      · rw [Compiled.program, List.filterMap_map, hsteps, List.filterMap_some]
      · rw [Compiled.errors, Compiled.length_problems, List.filterMap_map, hfaults]
        simp

theorem exists_compile_iff {program : Program} :
    (∃ text c, compile engine text = .ok c ∧ c.program = program)
      ↔ ∀ s ∈ program, s.IsWritten engine := by
  constructor
  · rintro ⟨text, c, hc, rfl⟩
    exact isWritten_of_compile hc
  · intro h
    obtain ⟨c, hc, hprogram, -⟩ := exists_compile_printed h
    exact ⟨program.printed, c, hc, hprogram⟩

/-- **A program that is printed and compiled is the same program**, without a faulty line. -/
theorem compile_printed {text : String} {c : Compiled} (h : compile engine text = .ok c) :
    ∃ c', compile engine c.program.printed = .ok c' ∧ c'.program = c.program ∧ c'.errors = 0 :=
  exists_compile_printed (isWritten_of_compile h)

/-- An argument without a blank before it, blanks of several kinds, arguments that are empty
and a faulty line. -/
theorem compile_printed_odd_blanks :
    let text := "TEXT(a|b)\nITEM\u2003quote\nFIND x\n\u00a0ALIAS\u3000\n\nACTION"
    let printed := "TEXT (a|b)\nITEM quote\nALIAS \nACTION "
    ∃ c c', compile .late text = .ok c ∧ c.program.printed = printed ∧ c.errors = 1 ∧
      compile .late printed = .ok c' ∧ c'.program = c.program ∧ c'.errors = 0 := by
  intro text printed
  obtain ⟨c, hc, hviews⟩ : ∃ c, compile .late text = .ok c ∧
      (c.program.printed, c.errors) = (printed, 1) := exists_of_toOption_map (by decide +kernel)
  obtain ⟨hprinted, herrors⟩ := Prod.mk.inj hviews
  obtain ⟨c', hc', hprogram, herrors'⟩ := compile_printed hc
  rw [hprinted] at hc'
  exact ⟨c, c', hc, hprinted, herrors, hc', hprogram, herrors'⟩

end PageGrep
