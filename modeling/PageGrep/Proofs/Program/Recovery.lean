/-
# Recovery from faulty lines

A faulty line is a problem and no more: the lines before it and after it come to the steps
that they come to anywhere.  So a text can be compiled unless one of its lines asks for too
much (`Line.AsksTooMuch`), that is, unless it holds a pattern that is refused as an excess
and not for its form.  Such a line ends the reading of the whole text, and nothing is left
of the other lines (`large_count_halts_compile`).

`Line.isBad` says what is wrong with a line without regard to what it comes to: the word is
none of a program, or the argument is no type, or the argument is refused as a pattern, for
whatever cause.
-/
import Mathlib.Data.List.Basic
import PageGrep.Proofs.Program.Lines

namespace PageGrep

variable {engine : Pattern.Engine}

/-! ## Bad lines -/

namespace Line

/-- Whether the word, the type or the pattern of a line is bad. -/
def isBad (engine : Pattern.Engine) (line : String) : Bool :=
  match split? line with
  | none => false
  | some (word, argument) =>
    word != "" &&
      match Op.ofName? word with
      | none => true
      | some (.select _) => !isType argument
      | some (.test _) => !(Pattern.compile engine argument).isOk

def step? (engine : Pattern.Engine) (line : String) : Option Step :=
  match Line.compile engine line with
  | .ok (.step s) => some s
  | _ => none

/-- A line holds a pattern that is refused as an excess. -/
def AsksTooMuch (engine : Pattern.Engine) (line : String) (excess : Pattern.Excess) : Prop :=
  ∃ word argument s, split? line = some (word, argument) ∧ Op.ofName? word = some (.test s) ∧
    Pattern.compile engine argument = .error (.excessive excess)

/-- A line of a text cannot be compiled just if it asks for too much. -/
theorem compile_eq_error_iff {line : String} (h : '\n' ∉ line.toList) {halt : Halt} :
    Line.compile engine line = .error halt ↔
      ∃ excess, halt = .excessive excess ∧ AsksTooMuch engine line excess := by
  rw [compile_eq_iff]
  constructor
  · intro hcomes
    cases hcomes with
    | notALine hnone =>
        obtain ⟨_, hsome⟩ := split?_of_not_mem h
        exact nomatch hnone.symm.trans hsome
    | excessive hsplit hop hpattern => exact ⟨_, rfl, _, _, _, hsplit, hop, hpattern⟩
  · rintro ⟨_, rfl, _, _, _, hsplit, hop, hpattern⟩
    exact .excessive hsplit hop hpattern

/-- A line that comes to something is bad just if that is a fault. -/
theorem isBad_iff_fault {line : String} {outcome : Outcome}
    (h : Line.compile engine line = .ok outcome) :
    isBad engine line = true ↔ ∃ fault, outcome = .fault fault := by
  cases compile_eq_iff.mp h with
  | nothing hsplit => simp [isBad, hsplit]
  | unknownCommand hsplit hword hop => simp [isBad, hsplit, hword, hop]
  | select hsplit hop htype | notAType hsplit hop htype =>
      simp [isBad, hsplit, hop, htype, ne_empty_of_ofName? hop]
  | test hsplit hop hpattern =>
      simp [isBad, hsplit, hop, hpattern, Except.isOk, Except.toBool]
  | badPattern hsplit hop hpattern _ =>
      simp [isBad, hsplit, hop, hpattern, ne_empty_of_ofName? hop, Except.isOk, Except.toBool]

end Line

/-! ## Texts -/

/-- A text can be compiled just if none of its lines asks for too much. -/
theorem exists_compile_eq_ok_iff {text : String} :
    (∃ c, compile engine text = .ok c) ↔
      ∀ line ∈ Text.lines text, ∀ excess, ¬ Line.AsksTooMuch engine line excess := by
  constructor
  · rintro ⟨c, hc⟩ line hmem excess hasks
    obtain ⟨hlines, hall⟩ := compile_eq_ok_iff.mp hc
    obtain ⟨l, hl, rfl⟩ := List.mem_map.mp (hlines ▸ hmem)
    have herror := (Line.compile_eq_error_iff (not_mem_of_mem_compiled hc hl)).mpr
      ⟨excess, rfl, hasks⟩
    exact nomatch herror.symm.trans (hall l hl)
  · intro hlines
    cases hcompile : compile engine text with
    | ok c => exact ⟨c, rfl⟩
    | error halt =>
        obtain ⟨line, hmem, hline⟩ := exists_of_compile_eq_error hcompile
        obtain ⟨excess, -, hasks⟩ :=
          (Line.compile_eq_error_iff (Text.not_mem_of_mem_lines hmem)).mp hline
        exact absurd hasks (hlines line hmem excess)

section Compiled

variable {text : String} {c : Compiled}

theorem isBad_iff_fault? {l : CompiledLine} (h : Line.compile engine l.line = .ok l.outcome) :
    Line.isBad engine l.line = l.fault?.isSome := by
  have hiff := Line.isBad_iff_fault h
  cases houtcome : l.outcome <;> rw [houtcome] at hiff <;>
    simpa [CompiledLine.fault?, houtcome] using hiff

theorem step?_eq {l : CompiledLine} (h : Line.compile engine l.line = .ok l.outcome) :
    Line.step? engine l.line = l.step? := by
  rw [Line.step?, h]
  cases houtcome : l.outcome <;> simp [CompiledLine.step?, houtcome]

theorem problems_of_compile (h : compile engine text = .ok c) :
    c.problems.map (fun p => (p.line, p.number))
      = ((Text.lines text).zipIdx 1).filter fun numbered => Line.isBad engine numbered.1 := by
  obtain ⟨hlines, hall⟩ := compile_eq_ok_iff.mp h
  rw [← hlines, Compiled.problems]
  generalize c.lines = ls, 1 = first at hall ⊢
  induction ls generalizing first with
  | nil => rfl
  | cons l rest ih =>
      have hrest := ih (first + 1) fun l' hl' => hall l' (List.mem_cons_of_mem _ hl')
      have hbad := isBad_iff_fault? (hall l List.mem_cons_self)
      rw [Compiled.problemsFrom_cons, List.map_append, hrest, List.map_cons, List.zipIdx_cons,
        List.filter_cons, hbad, Compiled.problem?]
      cases l.fault? <;> rfl

theorem program_of_compile (h : compile engine text = .ok c) :
    c.program = (Text.lines text).filterMap (Line.step? engine) := by
  obtain ⟨hlines, hall⟩ := compile_eq_ok_iff.mp h
  rw [← hlines, List.filterMap_map, Compiled.program]
  exact List.filterMap_congr fun l hl => (step?_eq (hall l hl)).symm

theorem isSome_step? (h : compile engine text = .ok c) {line : String}
    (hmem : line ∈ Text.lines text) (hgood : Line.isBad engine line = false)
    (hword : Line.firstWord line ≠ "") :
    (Line.step? engine line).isSome = true := by
  obtain ⟨hlines, hall⟩ := compile_eq_ok_iff.mp h
  obtain ⟨l, hl, rfl⟩ := List.mem_map.mp (hlines ▸ hmem)
  have hline := hall l hl
  rw [isBad_iff_fault? hline] at hgood
  rw [step?_eq hline]
  match houtcome : l.outcome with
  | .nothing =>
      rw [houtcome, Line.compile_eq_nothing_iff (not_mem_of_mem_compiled h hl)] at hline
      exact absurd hline hword
  | .step s => simp [CompiledLine.step?, houtcome]
  | .fault f => simp [CompiledLine.fault?, houtcome] at hgood

end Compiled

/-- **A faulty line is one problem and takes nothing from the other lines**, unless some line
asks for too much: then nothing is compiled. -/
theorem compile_recovers (engine : Pattern.Engine) (text : String) :
    ((∃ c, compile engine text = .ok c) ↔
      ∀ line ∈ Text.lines text, ∀ excess, ¬ Line.AsksTooMuch engine line excess) ∧
    ∀ c, compile engine text = .ok c →
      c.problems.map (fun p => (p.line, p.number))
          = ((Text.lines text).zipIdx 1).filter (fun numbered => Line.isBad engine numbered.1) ∧
        c.program = (Text.lines text).filterMap (Line.step? engine) ∧
        ∀ line ∈ Text.lines text, Line.isBad engine line = false → Line.firstWord line ≠ "" →
          (Line.step? engine line).isSome = true := by
  refine ⟨exists_compile_eq_ok_iff, fun c hc => ⟨problems_of_compile hc, program_of_compile hc, ?_⟩⟩
  intro line hmem hgood hword
  exact isSome_step? hc hmem hgood hword

/-- A pattern without its end, a type of capitals and an unknown word, with a step between. -/
theorem compile_recovers_three_faults :
    ∃ c, compile .late "TEXT (\nITEM Quote\n\n ITEM quote\nFIND x" = .ok c ∧
      c.problems.map (fun p => (p.line, p.number))
        = [("TEXT (", 1), ("ITEM Quote", 2), ("FIND x", 5)] ∧
      c.program.length = 1 := by
  have hok : (compile .late "TEXT (\nITEM Quote\n\n ITEM quote\nFIND x").isOk = true := by
    decide +kernel
  cases hc : compile .late "TEXT (\nITEM Quote\n\n ITEM quote\nFIND x" with
  | error halt =>
      rw [hc] at hok
      nomatch hok
  | ok c =>
      obtain ⟨-, hviews⟩ := compile_recovers .late "TEXT (\nITEM Quote\n\n ITEM quote\nFIND x"
      obtain ⟨hproblems, hprogram, -⟩ := hviews c hc
      refine ⟨c, rfl, hproblems.trans ?_, ?_⟩
      · decide +kernel
      · rw [hprogram]
        decide +kernel

/-- A count that is too large is bad, but no problem of its line alone: the line before it is
lost as well. -/
theorem large_count_halts_compile :
    Text.lines "ITEM quote\nTEXT a\x7b4294967295\x7d"
        = ["ITEM quote", "TEXT a\x7b4294967295\x7d"] ∧
      Line.isBad .late "TEXT a\x7b4294967295\x7d" = true ∧
      (∃ c, compile .late "ITEM quote" = .ok c) ∧
      ¬ ∃ engine c, compile engine "ITEM quote\nTEXT a\x7b4294967295\x7d" = .ok c := by
  have hfirst : (compile .late "ITEM quote").isOk = true := by decide +kernel
  have hboth (engine : Pattern.Engine) :
      (compile engine "ITEM quote\nTEXT a\x7b4294967295\x7d").isOk = false := by
    cases engine <;> decide +kernel
  refine ⟨by decide +kernel, by decide +kernel, ?_, ?_⟩
  · cases hc : compile .late "ITEM quote" with
    | error halt =>
        rw [hc] at hfirst
        nomatch hfirst
    | ok c => exact ⟨c, rfl⟩
  · rintro ⟨engine, c, hc⟩
    have hfails := hboth engine
    rw [hc] at hfails
    nomatch hfails

end PageGrep
