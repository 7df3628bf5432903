/-
# How a line is cut

A line has the form of blanks, a word, blanks and an argument, and perhaps a line feed at its
end (`Cut.IsOf`).  A line may be cut so in many ways, or in none.  The program cuts it in one pass,
from the longest stretch to the longest stretch, and does not look back.

There is nothing to gain by looking back.  No blank is a character of words, so however a line is
started, what the one pass leaves is an end of what is left (`remainder_suffix`): a line that can be
cut at all is cut by the one pass (`exists_cut_iff`), and is refused as none just if it cannot be
cut (`exists_notALine_iff`).
-/
import PageGrep.Proofs.Program.Printed
import PageGrep.Proofs.Text.Blank

namespace PageGrep

variable {engine : Pattern.Engine}

namespace Line

/-! ## Cuts -/

/-- What one pass leaves of a line: what is after its first blanks, its word and the blanks after
that. -/
def remainder (cs : List Char) : List Char := skipBlanks (skipWord (skipBlanks cs))

/-- The parts of a line. -/
structure Cut where
  blanks : List Char
  word : List Char
  gap : List Char
  argument : List Char
  feed : List Char

/-- The parts are of their kinds and make up the line. -/
structure Cut.IsOf (cut : Cut) (line : String) : Prop where
  whole : line.toList = cut.blanks ++ (cut.word ++ (cut.gap ++ (cut.argument ++ cut.feed)))
  blanks : ∀ x ∈ cut.blanks, Text.isBlank x.toNat = true
  word : ∀ x ∈ cut.word, Text.isWord x.toNat = true
  gap : ∀ x ∈ cut.gap, Text.isBlank x.toNat = true
  argument : '\n' ∉ cut.argument
  feed : cut.feed = [] ∨ cut.feed = ['\n']

theorem skipBlanks_append {blanks : List Char} (h : ∀ x ∈ blanks, Text.isBlank x.toNat = true)
    (rest : List Char) : skipBlanks (blanks ++ rest) = skipBlanks rest :=
  List.dropWhile_append_of_pos h

theorem skipWord_append {word : List Char} (h : ∀ x ∈ word, Text.isWord x.toNat = true)
    (rest : List Char) : skipWord (word ++ rest) = skipWord rest :=
  List.dropWhile_append_of_pos h

theorem skipBlanks_of_word {x : Char} (h : Text.isWord x.toNat = true) (rest : List Char) :
    skipBlanks (x :: rest) = x :: rest := by
  refine List.dropWhile_cons_of_neg fun hblank => ?_
  exact Bool.false_ne_true ((Text.isWord_of_isBlank hblank).symm.trans h)

theorem skipWord_of_blank {x : Char} (h : Text.isBlank x.toNat = true) (rest : List Char) :
    skipWord (x :: rest) = x :: rest :=
  List.dropWhile_cons_of_neg (by rw [Text.isWord_of_isBlank h]; exact Bool.false_ne_true)

theorem remainder_suffix {blanks word gap : List Char}
    (hblanks : ∀ x ∈ blanks, Text.isBlank x.toNat = true)
    (hword : ∀ x ∈ word, Text.isWord x.toNat = true)
    (hgap : ∀ x ∈ gap, Text.isBlank x.toNat = true) (rest : List Char) :
    remainder (blanks ++ (word ++ (gap ++ rest))) <:+ rest := by
  have hskipped : ∀ cs : List Char, skipBlanks (skipWord cs) <:+ cs := fun cs =>
    (List.dropWhile_suffix _).trans (List.dropWhile_suffix _)
  rw [remainder, skipBlanks_append hblanks]
  cases word with
  | nil =>
      rw [List.nil_append, skipBlanks_append hgap]
      exact (hskipped _).trans (List.dropWhile_suffix _)
  | cons x word =>
      rw [List.cons_append, skipBlanks_of_word (hword x List.mem_cons_self), ← List.cons_append,
        skipWord_append hword]
      cases gap with
      | nil => exact hskipped rest
      | cons y gap =>
          rw [List.cons_append, skipWord_of_blank (hgap y List.mem_cons_self), ← List.cons_append,
            skipBlanks_append hgap]
          exact List.dropWhile_suffix _

/-! ## What can be cut -/

/-- What remains, without a line feed at its end. -/
def withoutFeed (cs : List Char) : List Char := if cs.getLast? = some '\n' then cs.dropLast else cs

/-- There is an argument just if no line feed is before the last character. -/
theorem argument?_eq (cs : List Char) :
    argument? cs = if '\n' ∈ cs.dropLast then none else some (withoutFeed cs) := by
  rcases cs.eq_nil_or_concat with rfl | ⟨front, x, rfl⟩
  · rfl
  · by_cases hx : x = '\n'
    · simp [argument?, withoutFeed, hx]
    · simp [argument?, withoutFeed, hx, Ne.symm hx]

theorem exists_feed (cs : List Char) :
    ∃ feed, (feed = [] ∨ feed = ['\n']) ∧ cs = withoutFeed cs ++ feed := by
  rcases cs.eq_nil_or_concat with rfl | ⟨front, x, rfl⟩
  · exact ⟨[], .inl rfl, rfl⟩
  · by_cases hx : x = '\n'
    · exact ⟨['\n'], .inr rfl, by simp [withoutFeed, hx]⟩
    · exact ⟨[], .inl rfl, by simp [withoutFeed, hx]⟩

theorem not_mem_withoutFeed {cs : List Char} (h : '\n' ∉ cs.dropLast) : '\n' ∉ withoutFeed cs := by
  rcases cs.eq_nil_or_concat with rfl | ⟨front, x, rfl⟩
  · exact List.not_mem_nil
  · by_cases hx : x = '\n'
    · simpa [withoutFeed, hx] using h
    · simpa [withoutFeed, hx, Ne.symm hx] using h

theorem split?_eq (line : String) :
    split? line = if '\n' ∈ (remainder line.toList).dropLast then none
      else some (firstWord line, String.ofList (withoutFeed (remainder line.toList))) := by
  rw [split?, ← remainder, argument?_eq]
  split <;> rfl

theorem dropLast_suffix {cs cs' : List Char} (h : cs <:+ cs') : cs.dropLast <:+ cs'.dropLast := by
  obtain ⟨front, rfl⟩ := h
  cases cs with
  | nil => exact List.nil_suffix
  | cons x cs =>
      rw [List.dropLast_append_of_ne_nil (List.cons_ne_nil x cs)]
      exact List.suffix_append front _

/-- A line can be cut just if no line feed is before the last character of what one pass leaves. -/
theorem exists_cut_iff {line : String} :
    (∃ cut : Cut, cut.IsOf line) ↔ '\n' ∉ (remainder line.toList).dropLast := by
  constructor
  · rintro ⟨cut, hcut⟩ hmem
    have hsuffix := remainder_suffix hcut.blanks hcut.word hcut.gap (cut.argument ++ cut.feed)
    rw [← hcut.whole] at hsuffix
    have hfeed := (dropLast_suffix hsuffix).mem hmem
    rcases hcut.feed with hnone | hone
    · rw [hnone, List.append_nil] at hfeed
      exact hcut.argument ((List.dropLast_prefix _).mem hfeed)
    · rw [hone, List.dropLast_concat] at hfeed
      exact hcut.argument hfeed
  · intro hnone
    obtain ⟨feed, hfeed, hwhole⟩ := exists_feed (remainder line.toList)
    -- the cut of the one pass
    refine ⟨⟨line.toList.takeWhile fun x => Text.isBlank x.toNat, word (skipBlanks line.toList),
      (skipWord (skipBlanks line.toList)).takeWhile fun x => Text.isBlank x.toNat,
      withoutFeed (remainder line.toList), feed⟩, ?_, ?_, ?_, ?_, not_mem_withoutFeed hnone, hfeed⟩
    · have hblanks (cs : List Char) :
          (cs.takeWhile fun x => Text.isBlank x.toNat) ++ skipBlanks cs = cs :=
        List.takeWhile_append_dropWhile
      have hword (cs : List Char) : word cs ++ skipWord cs = cs := List.takeWhile_append_dropWhile
      rw [← hwhole, remainder, hblanks, hword, hblanks]
    · exact List.all_eq_true.mp List.all_takeWhile
    · exact List.all_eq_true.mp List.all_takeWhile
    · exact List.all_eq_true.mp List.all_takeWhile

/-! ## What a cut line comes to -/

/-- The argument of a line: what one pass leaves, without a line feed at its end. -/
def argumentOf (line : String) : String := String.ofList (withoutFeed (remainder line.toList))

theorem split?_eq_some_iff {line : String} :
    (∃ parts, split? line = some parts) ↔ ∃ cut : Cut, cut.IsOf line := by
  rw [exists_cut_iff, split?_eq]
  split
  · rename_i hfeed
    exact iff_of_false nofun (not_not_intro hfeed)
  · rename_i hfeed
    exact iff_of_true ⟨_, rfl⟩ hfeed

theorem split?_of_cut {line : String} (h : ∃ cut : Cut, cut.IsOf line) :
    split? line = some (firstWord line, argumentOf line) := by
  rw [split?_eq, if_neg (exists_cut_iff.mp h), argumentOf]

/-- A line is refused as none just if it cannot be cut. -/
theorem exists_notALine_iff {line : String} :
    (∃ l, Line.compile engine line = .error (.notALine l)) ↔ ¬ ∃ cut : Cut, cut.IsOf line := by
  rw [← split?_eq_some_iff]
  constructor
  · rintro ⟨l, hrefused⟩ ⟨parts, hsplit⟩
    cases compile_eq_iff.mp hrefused with
    | notALine hnone => exact nomatch hnone.symm.trans hsplit
  · intro hnone
    refine ⟨line, compile_eq_iff.mpr (.notALine ?_)⟩
    exact Option.eq_none_iff_forall_not_mem.mpr fun parts hparts => hnone ⟨parts, hparts⟩

/-- A line comes to nothing just if it can be cut and has no word. -/
theorem compile_eq_nothing_iff_cut {line : String} :
    Line.compile engine line = .ok .nothing
      ↔ (∃ cut : Cut, cut.IsOf line) ∧ firstWord line = "" := by
  rw [← split?_eq_some_iff, compile_eq_iff]
  constructor
  · intro hnothing
    cases hnothing with
    | nothing hsplit => exact ⟨⟨_, hsplit⟩, (firstWord_of_split? hsplit).symm⟩
  · rintro ⟨⟨parts, hsplit⟩, hword⟩
    have hparts : parts = ("", parts.2) :=
      Prod.ext ((firstWord_of_split? hsplit).trans hword) rfl
    exact .nothing (hparts ▸ hsplit)

/-- The word of a line that comes to a step is the word of the step, and its argument that of the
step. -/
theorem of_compile_eq_step {line : String} {s : Step}
    (h : Line.compile engine line = .ok (.step s)) :
    s.op.name = firstWord line ∧ s.argument = argumentOf line := by
  have hparts {word argument : String} (hsplit : split? line = some (word, argument)) :
      word = firstWord line ∧ argument = argumentOf line := by
    have hcut := split?_of_cut (split?_eq_some_iff.mp ⟨_, hsplit⟩)
    exact Prod.mk.inj (Option.some.inj (hsplit.symm.trans hcut))
  have hname {word : String} {op : Op} (hop : Op.ofName? word = some op) : op.name = word :=
    beq_iff_eq.mp (List.find?_some (p := fun op : Op => op.name == word) hop)
  cases compile_eq_iff.mp h with
  | select hsplit hop _ =>
      obtain ⟨rfl, rfl⟩ := hparts hsplit
      exact ⟨hname hop, rfl⟩
  | test hsplit hop hpattern =>
      obtain ⟨rfl, rfl⟩ := hparts hsplit
      exact ⟨hname hop, Pattern.source_of_compile hpattern⟩

end Line

end PageGrep
