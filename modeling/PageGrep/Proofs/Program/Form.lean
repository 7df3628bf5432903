/-
# The form of a line as a pattern

Blanks, a word, blanks and an argument: written as a pattern (`form`), the form of a line is walked
by the matcher with all its choices, of which it gives up one after the other as long as there is
no match.

It need not give up any.  Where the longest stretches lead to a match they are taken at once
(`walkAll_lineForm_of_end`), and where they do not, no shorter ones do
(`walkAll_lineForm_of_feed`), since what they leave ends with what the longest ones leave.  So the
form finds in a line what one pass finds (`found?_eq_split?`); the main statement,
`compile_by_longest`, says with it what a line comes to.
-/
import Mathlib
import PageGrep.Proofs.Pattern.Run
import PageGrep.Proofs.Program.Cut

namespace PageGrep

namespace Line

open Pattern

/-! ## The form -/

/-- The form of a line as a pattern: blanks, a word, blanks and an argument. -/
def form : String := "^\\s*(\\w*)\\s*(.*)$"

def blanks : Pattern.Class := ⟨.exact, false, [.kind .space false false]⟩

def wordCharacters : Pattern.Class := ⟨.exact, false, [.kind .word false false]⟩

def noFeeds : Pattern.Class := ⟨.exact, true, [.among [10]]⟩

/-- The form from the argument on. -/
def argumentForm : List Node :=
  [.capture 2 [.run .greedy 0 none noFeeds], .condition .lastLineEnd]

/-- The form from the blanks before the argument on. -/
def gapForm : List Node := .run .greedy 0 none blanks :: argumentForm

/-- The form from the word on. -/
def wordForm : List Node := .capture 1 [.run .greedy 0 none wordCharacters] :: gapForm

/-- The whole form. -/
def lineForm : List Node := .condition .textStart :: .run .greedy 0 none blanks :: wordForm

/-- The nodes of a pattern of which no setting is switched on. -/
def plainNodes (engine : Engine) (source : String) : Except Error (List Node) := do
  let parsed ← read engine .none source
  Node.ofTrees engine parsed.groups parsed.settings.final parsed.parts

theorem plainNodes_form (engine : Engine) : plainNodes engine form = .ok lineForm := by
  cases engine <;> cbv

/-- The word and the argument that the form finds in a line. -/
def found? (engine : Engine) (line : String) : Option (String × String) := do
  let nodes ← (plainNodes engine form).toOption
  match Node.walkAll (codes line.toList) false none nodes 0 accept (Trail.start 2 0) with
  | (true, t) => return (← t.textOf? line.toList 1, ← t.textOf? line.toList 2)
  | (false, _) => none

theorem takes_blanks : blanks.takes = fun x => Text.isBlank x.toNat := by
  funext x
  simp [Pattern.Class.takes, Pattern.Class.holds, blanks, Folding.fold, Asked.holds, Kind.holds]

theorem takes_wordCharacters : wordCharacters.takes = fun x => Text.isWord x.toNat := by
  funext x
  simp [Pattern.Class.takes, Pattern.Class.holds, wordCharacters, Folding.fold, Asked.holds,
    Kind.holds]

theorem takes_noFeeds (x : Char) : noFeeds.takes x = true ↔ x ≠ '\n' := by
  have hfeed : x.toNat = 10 ↔ x = '\n' := Char.toNat_inj (d := '\n')
  simp [Pattern.Class.takes, Pattern.Class.holds, noFeeds, Folding.fold, Asked.holds, hfeed]

section Walks

variable {text : Array Nat} {pos : Nat} {t : Trail}

theorem walkAll_argumentForm :
    Node.walkAll text false none argumentForm pos accept t
      = walkRun text false none .greedy 0 none noFeeds pos
          (fun pos t => if Condition.lastLineEnd.holds text pos then accept pos (t.mark 3 pos)
            else (false, t.mark 3 pos)) (t.mark 2 pos) := by
  simp only [argumentForm, Node.walkAll, Node.walk, leading?]

theorem walkAll_gapForm :
    Node.walkAll text false none gapForm pos accept t
      = walkRun text false none .greedy 0 none blanks pos
          (Node.walkAll text false none argumentForm · accept ·) t := by
  simp only [gapForm, Node.walkAll, Node.walk]
  rfl

theorem walkAll_wordForm :
    Node.walkAll text false none wordForm pos accept t
      = walkRun text false none .greedy 0 none wordCharacters pos
          (fun pos t => Node.walkAll text false none gapForm pos accept (t.mark 1 pos))
          (t.mark 0 pos) := by
  simp only [wordForm, Node.walkAll, Node.walk]
  rfl

theorem walkAll_lineForm :
    Node.walkAll text false none lineForm 0 accept t
      = walkRun text false none .greedy 0 none blanks 0
          (Node.walkAll text false none wordForm · accept ·) t := by
  simp only [lineForm, Node.walkAll, Node.walk]
  rfl

end Walks

theorem walkAll_argumentForm_of_feed {front rest : List Char} (h : '\n' ∈ rest.dropLast)
    (t : Trail) :
    (Node.walkAll (codes (front ++ rest)) false none argumentForm front.length accept t).1
      = false := by
  rw [walkAll_argumentForm]
  refine walkRun_of_none rfl fun run more hrest hrun t => ?_
  have hfeed : '\n' ∉ run := fun hmem => (takes_noFeeds '\n').mp (hrun _ hmem) rfl
  have hend :
      ¬ Condition.lastLineEnd.holds (codes (front ++ rest)) (front ++ run).length = true := by
    rw [hrest, ← List.append_assoc, holds_lastLineEnd_codes]
    rintro (rfl | rfl)
    · rw [hrest, List.append_nil] at h
      exact hfeed ((List.dropLast_prefix run).mem h)
    · rw [hrest, List.dropLast_concat] at h
      exact hfeed h
  rw [if_neg hend]

theorem walkAll_lineForm_of_feed {cs : List Char} (h : '\n' ∈ (remainder cs).dropLast) (t : Trail) :
    (Node.walkAll (codes cs) false none lineForm 0 accept t).1 = false := by
  rw [walkAll_lineForm]
  refine @walkRun_of_none _ _ _ _ rfl [] cs fun first rest hcs hfirst t => ?_
  rw [walkAll_wordForm, List.nil_append, hcs]
  refine walkRun_of_none rfl fun word rest' hrest hword t => ?_
  rw [walkAll_gapForm, hrest, ← List.append_assoc]
  refine walkRun_of_none rfl fun gap rest'' hrest' hgap t => ?_
  rw [hrest', ← List.append_assoc]
  refine walkAll_argumentForm_of_feed ((dropLast_suffix ?_).mem h) t
  rw [hcs, hrest, hrest']
  rw [takes_blanks] at hfirst hgap
  rw [takes_wordCharacters] at hword
  exact remainder_suffix hfirst hword hgap rest''

section Ends

variable {front rest argument feed : List Char} {a b noted : Nat}

/-- Where nothing but a line feed is left after the longest argument, that is the argument. -/
theorem walkAll_argumentForm_of_end (hargument : '\n' ∉ argument)
    (hfeed : feed = [] ∨ feed = ['\n']) :
    Node.walkAll (codes (front ++ (argument ++ feed))) false none argumentForm front.length accept
        (Trail.along [a, b] 2 noted)
      = (true, Trail.along [a, b, front.length, (front ++ argument).length] 0
          (front ++ argument).length) := by
  have htaken : (argument ++ feed).takeWhile noFeeds.takes = argument := by
    have hall : ∀ x ∈ argument, noFeeds.takes x = true := fun x hx =>
      (takes_noFeeds x).mpr fun heq => hargument (heq ▸ hx)
    rw [List.takeWhile_append_of_pos hall]
    rcases hfeed with rfl | rfl
    · exact List.append_nil argument
    · rw [List.takeWhile_cons_of_neg (mt (takes_noFeeds _).mp (not_not_intro rfl)),
        List.append_nil]
  have hend : Condition.lastLineEnd.holds (codes (front ++ (argument ++ feed)))
      (front ++ argument).length = true := by
    rw [← List.append_assoc, holds_lastLineEnd_codes]
    exact hfeed
  rw [walkAll_argumentForm]
  refine walkRun_of_longest rfl ?_
  rw [htaken, if_pos hend, Trail.mark_along 2 rfl, Trail.note_along, Trail.note_along,
    Trail.mark_along 3 rfl]
  rfl

theorem walkAll_gapForm_of_end (hrest : skipBlanks rest = argument ++ feed)
    (hargument : '\n' ∉ argument) (hfeed : feed = [] ∨ feed = ['\n']) :
    ∃ before, front ++ rest = before ++ (argument ++ feed) ∧
      Node.walkAll (codes (front ++ rest)) false none gapForm front.length accept
          (Trail.along [a, b] 2 noted)
        = (true, Trail.along [a, b, before.length, (before ++ argument).length] 0
            (before ++ argument).length) := by
  have hgap : front ++ rest = front ++ rest.takeWhile blanks.takes ++ (argument ++ feed) := by
    rw [takes_blanks, ← hrest, List.append_assoc]
    exact congrArg (front ++ ·) List.takeWhile_append_dropWhile.symm
  refine ⟨_, hgap, ?_⟩
  rw [walkAll_gapForm]
  refine walkRun_of_longest rfl ?_
  rw [Trail.note_along, Trail.note_along, hgap]
  exact walkAll_argumentForm_of_end hargument hfeed

theorem walkAll_wordForm_of_end (hrest : skipBlanks (skipWord rest) = argument ++ feed)
    (hargument : '\n' ∉ argument) (hfeed : feed = [] ∨ feed = ['\n']) :
    ∃ before, front ++ rest = before ++ (argument ++ feed) ∧
      Node.walkAll (codes (front ++ rest)) false none wordForm front.length accept
          (Trail.along [] 4 noted)
        = (true, Trail.along [front.length, (front ++ word rest).length, before.length,
            (before ++ argument).length] 0 (before ++ argument).length) := by
  have hword : front ++ rest = front ++ word rest ++ skipWord rest := by
    rw [List.append_assoc]
    exact congrArg (front ++ ·) List.takeWhile_append_dropWhile.symm
  obtain ⟨before, hbefore, hwalk⟩ := walkAll_gapForm_of_end hrest hargument hfeed
  refine ⟨before, hword.trans hbefore, ?_⟩
  rw [walkAll_wordForm]
  refine walkRun_of_longest rfl ?_
  rw [takes_wordCharacters, ← word, Trail.mark_along 0 rfl, Trail.note_along, Trail.note_along,
    Trail.mark_along 1 rfl, hword]
  exact hwalk

/-- The longest blanks and the longest word are taken where the rest ends with its argument. -/
theorem walkAll_lineForm_of_end {cs : List Char} (hcs : remainder cs = argument ++ feed)
    (hargument : '\n' ∉ argument) (hfeed : feed = [] ∨ feed = ['\n']) :
    ∃ t, Node.walkAll (codes cs) false none lineForm 0 accept (Trail.start 2 0) = (true, t) ∧
      t.textOf? cs 1 = some (String.ofList (word (skipBlanks cs))) ∧
      t.textOf? cs 2 = some (String.ofList argument) := by
  have hfirst : cs = cs.takeWhile blanks.takes ++ skipBlanks cs := by
    rw [takes_blanks]
    exact List.takeWhile_append_dropWhile.symm
  have hsecond : cs
      = cs.takeWhile blanks.takes ++ (word (skipBlanks cs) ++ skipWord (skipBlanks cs)) :=
    hfirst.trans (congrArg (cs.takeWhile blanks.takes ++ ·) List.takeWhile_append_dropWhile.symm)
  obtain ⟨before, hbefore, hwalk⟩ := walkAll_wordForm_of_end hcs hargument hfeed
  rw [← hfirst] at hbefore hwalk
  have hform : Node.walkAll (codes cs) false none lineForm 0 accept (Trail.start 2 0)
      = (true, _) := walkAll_lineForm.trans (@walkRun_of_longest _ _ _ _ _ rfl [] cs hwalk)
  exact ⟨_, hform, Trail.textOf?_along hsecond rfl rfl _ _, Trail.textOf?_along hbefore rfl rfl _ _⟩

end Ends

theorem found?_eq_split? (engine : Engine) (line : String) : found? engine line = split? line := by
  rw [found?, plainNodes_form, split?_eq]
  split
  · rename_i hfeed
    obtain ⟨t, hwalk⟩ : ∃ t, Node.walkAll (codes line.toList) false none lineForm 0 accept
        (Trail.start 2 0) = (false, t) :=
      ⟨_, Prod.ext (walkAll_lineForm_of_feed hfeed _) rfl⟩
    simp only [Except.toOption, Option.bind_eq_bind, Option.bind_some, hwalk]
  · rename_i hfeed
    obtain ⟨feed, hend, hwhole⟩ := exists_feed (remainder line.toList)
    obtain ⟨t, hwalk, hword, hargument⟩ :=
      walkAll_lineForm_of_end hwhole (not_mem_withoutFeed hfeed) hend
    simp only [Except.toOption, Option.bind_eq_bind, Option.bind_some, hwalk, hword, hargument]
    rfl

/-! ## What a line comes to -/

/-- **A line is cut in one pass, from longest stretch to longest stretch.** -/
theorem compile_by_longest (engine : Engine) (line : String) :
    found? engine line = split? line ∧
    ((∃ l, Line.compile engine line = .error (.notALine l)) ↔ ¬ ∃ cut : Cut, cut.IsOf line) ∧
    ((¬ ∃ cut : Cut, cut.IsOf line) ↔ '\n' ∈ (remainder line.toList).dropLast) ∧
    ((∃ cut : Cut, cut.IsOf line) →
      Line.compile engine line = ofParts engine (firstWord line) (argumentOf line)) ∧
    (Line.compile engine line = .ok .nothing ↔ (∃ cut : Cut, cut.IsOf line) ∧ firstWord line = "") ∧
    (∀ s, Line.compile engine line = .ok (.step s) →
      s.op.name = firstWord line ∧ s.argument = argumentOf line ∧
        firstWord line ∈ ["ITEM", "ACTION", "TEXT", "TITLE", "SITE", "ID", "ALIAS", "JSON"]) ∧
    ∀ text, line ∈ Text.lines text → ∀ l, Line.compile engine line ≠ .error (.notALine l) := by
  refine ⟨found?_eq_split? engine line, exists_notALine_iff, exists_cut_iff.not_left,
    fun hcut => ?_, compile_eq_nothing_iff_cut, fun s hs => ?_, fun text hmem l hrefused => ?_⟩
  · rw [Line.compile, split?_of_cut hcut]
  · obtain ⟨hname, hargument⟩ := of_compile_eq_step hs
    refine ⟨hname, hargument, ?_⟩
    rw [← hname]
    have hall : ∀ op ∈ Op.all, op.name
        ∈ ["ITEM", "ACTION", "TEXT", "TITLE", "SITE", "ID", "ALIAS", "JSON"] := by decide
    exact hall s.op s.op.mem_all
  · obtain ⟨argument, hsplit⟩ := split?_of_not_mem (Text.not_mem_of_mem_lines hmem)
    exact exists_notALine_iff.mp ⟨l, hrefused⟩ (split?_eq_some_iff.mp ⟨_, hsplit⟩)

/-- Line feeds before the word, after it and at the end, a blank that stays with the argument, and
a line feed too many. -/
theorem compile_by_longest_stray_feeds :
    let line := "\n\u2003TEXT\n a|b \n"
    let broken := "TEXT a\nb"
    (∃ cut : Cut, cut.IsOf line) ∧ found? .late line = some ("TEXT", "a|b ") ∧
      (∃ s, Line.compile .late line = .ok (.step s) ∧ s.op.name = "TEXT" ∧ s.argument = "a|b ") ∧
      (∃ l, Line.compile .late broken = .error (.notALine l)) ∧
      "TEXT a" ∈ Text.lines broken ∧ ∀ l, Line.compile .late "TEXT a" ≠ .error (.notALine l) := by
  intro line broken
  obtain ⟨hfound, -, hfeed, -, -, hstep, -⟩ := compile_by_longest .late line
  obtain ⟨-, hrefused, hfeed', -⟩ := compile_by_longest .late broken
  obtain ⟨-, -, -, -, -, -, hlines⟩ := compile_by_longest .late "TEXT a"
  have hmem : "TEXT a" ∈ Text.lines broken := by decide +kernel
  have hcut : ∃ cut : Cut, cut.IsOf line := by
    by_contra hnone
    exact absurd (hfeed.mp hnone) (by decide +kernel)
  have hsplit : split? line = some ("TEXT", "a|b ") := by decide +kernel
  obtain ⟨s, hs⟩ : ∃ s, Line.compile .late line = .ok (.step s) := by
    obtain ⟨pattern, hpattern, -⟩ : ∃ pattern, Pattern.compile .late "a|b " = .ok pattern ∧
        pattern.source = "a|b " := exists_of_toOption_map (by decide +kernel)
    exact ⟨_, compile_eq_iff.mpr (.test hsplit (Op.ofName?_name (.test (.field .text))) hpattern)⟩
  obtain ⟨hname, hargument, -⟩ := hstep s hs
  refine ⟨hcut, hfound.trans hsplit, ⟨s, hs, hname.trans ?_, hargument.trans ?_⟩,
    hrefused.mpr (hfeed'.mpr (by decide +kernel)), hmem, hlines broken hmem⟩
  · decide +kernel
  · decide +kernel

end Line

end PageGrep
