/-
# Listings

A listing is made to be looked at, but nothing of the program text is lost in it.  Cut at
the line breaks, it falls into one piece for each line; a piece without its mark, with
entities undone, is the line; and the mark is there just if the line is faulty, with the
fault for its title (`Compiled.Lists`).

Lines and faults are any text.  They may spell a line break, a mark or an entity, but what
is escaped holds no tag and no quote, so the reader finds the line breaks and the marks that
the listing was made with and no others.  The reader is given here (`Listing.title?`,
`Listing.unmarked`) and knows nothing of programs.
-/
import PageGrep.Proofs.Program.Lines
import PageGrep.Proofs.Text.Markup

namespace PageGrep

/-! ## Reading a piece -/

namespace Listing

/-- What a mark starts with, up to its title. -/
def markStart : String := "<span style=\"" ++ CompiledLine.faultStyle ++ "\" title=\""

def titleEnd : String := "\">"

/-- What a mark ends with. -/
def markEnd : String := "</span>"

/-- The title of the mark on a piece, as it is written; nothing if there is no mark. -/
def title? (piece : List Char) : Option (List Char) :=
  if markStart.toList.isPrefixOf piece then
    some ((piece.drop markStart.toList.length).takeWhile (· != '"'))
  else none

def unmarked (piece : List Char) : List Char :=
  match title? piece with
  | none => piece
  | some title =>
    let inner := piece.drop (markStart.toList.length + title.length + titleEnd.toList.length)
    inner.take (inner.length - markEnd.toList.length)

/-- What the mark on a piece tells, if there is one. -/
def message? (piece : String) : Option String :=
  (title? piece.toList).map fun title => String.ofList (Text.unescape Text.attributeEntities title)

def line (piece : String) : String :=
  String.ofList (Text.unescape Text.textEntities (unmarked piece.toList))

/-- The text that a listing shows. -/
def source (listing : String) : String :=
  "\n".intercalate ((Text.pieces Compiled.lineBreak listing).map line)

/-! ## The pieces of a compiled text -/

section Piece

variable {l : CompiledLine}

theorem toList_piece_of_fault {fault : Fault} (h : l.fault? = some fault) :
    l.piece.toList = markStart.toList ++ ((Text.escapeAttribute fault.message).toList
      ++ (titleEnd.toList ++ ((Text.escape l.line).toList ++ markEnd.toList))) := by
  have hpiece : l.piece = markStart ++ Text.escapeAttribute fault.message ++ titleEnd
      ++ Text.escape l.line ++ markEnd := by
    rw [CompiledLine.piece, h]
    rfl
  simp only [hpiece, String.toList_append, List.append_assoc]

theorem toList_piece_of_no_fault (h : l.fault? = none) :
    l.piece.toList = (Text.escape l.line).toList := by
  rw [CompiledLine.piece, h]

theorem title?_piece (l : CompiledLine) :
    title? l.piece.toList
      = l.fault?.map fun fault => (Text.escapeAttribute fault.message).toList := by
  rw [title?]
  cases hfault : l.fault? with
  | none =>
      have hno : ¬ markStart.toList.isPrefixOf l.piece.toList = true := by
        rw [toList_piece_of_no_fault hfault, List.isPrefixOf_iff_prefix]
        intro hstart
        exact Text.not_mem_escape l.line (hstart.mem (by decide : '<' ∈ markStart.toList))
      rw [if_neg hno, Option.map_none]
  | some fault =>
      have hquote : ∀ c ∈ (Text.escapeAttribute fault.message).toList, (c != '"') = true := by
        intro c hc
        rw [bne_iff_ne]
        rintro rfl
        exact (Text.not_mem_escapeAttribute fault.message).2 hc
      have hstart : markStart.toList.isPrefixOf l.piece.toList = true := by
        rw [toList_piece_of_fault hfault, List.isPrefixOf_iff_prefix]
        exact List.prefix_append _ _
      rw [if_pos hstart, toList_piece_of_fault hfault, List.drop_left,
        List.takeWhile_append_of_pos hquote]
      simp [titleEnd]

theorem unmarked_piece (l : CompiledLine) :
    unmarked l.piece.toList = (Text.escape l.line).toList := by
  rw [unmarked, title?_piece]
  cases hfault : l.fault? with
  | none => exact toList_piece_of_no_fault hfault
  | some fault =>
      simp only [Option.map_some, toList_piece_of_fault hfault, Nat.add_assoc, ← List.drop_drop,
        List.drop_left, List.length_append, Nat.add_sub_cancel, List.take_left]

theorem message?_piece (l : CompiledLine) : message? l.piece = l.fault?.map Fault.message := by
  rw [message?, title?_piece, Option.map_map]
  congr 1
  funext fault
  simp [Text.unescape_escapeAttribute]

theorem line_piece (l : CompiledLine) : line l.piece = l.line := by
  rw [line, unmarked_piece, Text.unescape_escape, String.ofList_toList]

theorem avoids_piece (l : CompiledLine) : Text.avoids '<' 'b' l.piece.toList = true := by
  have hline := Text.avoids_of_not_mem 'b' (Text.not_mem_escape l.line)
  cases hfault : l.fault? with
  | none => rwa [toList_piece_of_no_fault hfault]
  | some fault =>
      have hmessage :=
        Text.avoids_of_not_mem 'b' (Text.not_mem_escapeAttribute fault.message).1
      rw [toList_piece_of_fault hfault]
      exact Text.avoids_append (by decide) (Text.avoids_append hmessage
        (Text.avoids_append (by decide) (Text.avoids_append hline (by decide))))

end Piece

theorem pieces_listing {c : Compiled} (h : c.lines ≠ []) :
    Text.pieces Compiled.lineBreak c.listing = c.lines.map CompiledLine.piece := by
  have hmark : Compiled.lineBreak.toList = '<' :: 'b' :: ['r', '>'] := by decide
  rw [Text.pieces, Compiled.listing, String.toList_intercalate, hmark,
    Text.cutAtMark_intercalate (by simpa using h)]
  · simp
  · simp only [List.map_map, List.forall_mem_map]
    exact fun l _ => avoids_piece l

theorem exists_line_of_piece {c : Compiled} (h : c.lines ≠ []) {i : Nat} {piece : String}
    (hpiece : (Text.pieces Compiled.lineBreak c.listing)[i]? = some piece) :
    ∃ l, c.lines[i]? = some l ∧ l.piece = piece := by
  rwa [pieces_listing h, List.getElem?_map, Option.map_eq_some_iff] at hpiece

end Listing

/-! ## Listings and their texts -/

/-- How a compiled text shows the text that it was made of. -/
structure Compiled.Lists (text : String) (c : Compiled) : Prop where
  /-- There is one piece for each line. -/
  length : (Text.pieces lineBreak c.listing).length = (Text.lines text).length
  /-- A piece without its mark, with entities undone, is its line. -/
  line : ∀ (i : Nat) (piece : String), (Text.pieces lineBreak c.listing)[i]? = some piece →
    (Text.lines text)[i]? = some (Listing.line piece)
  /-- A piece has a mark just if there is a problem with the number of its line. -/
  marked : ∀ (i : Nat) (piece : String), (Text.pieces lineBreak c.listing)[i]? = some piece →
    ((Listing.title? piece.toList).isSome = true ↔ ∃ p ∈ c.problems, p.number = i + 1)
  /-- The mark tells what the problem is. -/
  message : ∀ (i : Nat) (piece : String), (Text.pieces lineBreak c.listing)[i]? = some piece →
    ∀ p ∈ c.problems, p.number = i + 1 → Listing.message? piece = some p.fault.message
  /-- The numbers of the problems increase. -/
  increasing : c.problems.Pairwise fun p q => p.number < q.number
  /-- The line of a problem is the line with its number, counted from one. -/
  placed : ∀ p ∈ c.problems, 1 ≤ p.number ∧ (Text.lines text)[p.number - 1]? = some p.line
  /-- The number of faulty lines is that of the problems. -/
  errors : c.errors = c.problems.length
  /-- A line is a step, a problem or without a word. -/
  counted : c.program.length + c.problems.length
      + ((Text.lines text).filter fun line => Line.firstWord line == "").length
    = (Text.lines text).length
  /-- The listing alone tells the text. -/
  recovered : Listing.source c.listing = text

/-- **A listing shows its text without loss**, whatever the lines and the faults spell. -/
theorem lists_of_compile {engine : Pattern.Engine} {text : String} {c : Compiled}
    (h : compile engine text = .ok c) :
    c.Lists text := by
  obtain ⟨hlines, -⟩ := compile_eq_ok_iff.mp h
  have hsome : c.lines ≠ [] := by
    intro hnone
    rw [hnone] at hlines
    exact Text.lines_ne_nil text hlines.symm
  have hpieces := Listing.pieces_listing hsome
  -- The problem with the number of a piece is the one of the line that the piece is made of.
  have hfault {i : Nat} {l : CompiledLine} (hl : c.lines[i]? = some l) {p : Problem}
      (hp : p ∈ c.problems) (hnumber : p.number = i + 1) : l.fault? = some p.fault := by
    obtain ⟨j, l', hl', hfault', hnumber', -⟩ := Compiled.mem_problems_iff.mp hp
    obtain rfl : i = j := by omega
    exact Option.some.inj (hl.symm.trans hl') ▸ hfault'
  refine ⟨?_, ?_, ?_, ?_, Compiled.pairwise_number_problems c, ?_, rfl,
    Compiled.length_views h, ?_⟩
  · rw [hpieces, List.length_map, ← hlines, List.length_map]
  · intro i piece hpiece
    obtain ⟨l, hl, rfl⟩ := Listing.exists_line_of_piece hsome hpiece
    rw [← hlines, List.getElem?_map, hl, Option.map_some, Listing.line_piece]
  · intro i piece hpiece
    obtain ⟨l, hl, rfl⟩ := Listing.exists_line_of_piece hsome hpiece
    rw [Listing.title?_piece, Option.isSome_map]
    constructor
    · intro hmarked
      obtain ⟨fault, hl'⟩ := Option.isSome_iff_exists.mp hmarked
      exact ⟨⟨i + 1, l.line, fault⟩,
        Compiled.mem_problems_iff.mpr ⟨i, l, hl, hl', rfl, rfl⟩, rfl⟩
    · rintro ⟨p, hp, hnumber⟩
      rw [hfault hl hp hnumber]
      rfl
  · intro i piece hpiece p hp hnumber
    obtain ⟨l, hl, rfl⟩ := Listing.exists_line_of_piece hsome hpiece
    rw [Listing.message?_piece, hfault hl hp hnumber, Option.map_some]
  · intro p hp
    obtain ⟨i, l, hl, -, hnumber, hline⟩ := Compiled.mem_problems_iff.mp hp
    rw [hnumber, Nat.add_sub_cancel, ← hlines, List.getElem?_map, hl, hline]
    exact ⟨Nat.succ_pos i, rfl⟩
  · have hshown : Listing.line ∘ CompiledLine.piece = CompiledLine.line :=
      funext Listing.line_piece
    rw [Listing.source, hpieces, List.map_map, hshown, hlines, Text.intercalate_lines]

/-- A line that spells a mark's end and a line break, and one that spells a mark. -/
theorem lists_of_compile_spelled_mark :
    ∃ c, compile .late "ITEM </span><br>\n\nITEM quote\n<span title=\"&lt;\">" = .ok c ∧
      c.Lists "ITEM </span><br>\n\nITEM quote\n<span title=\"&lt;\">" ∧
      c.problems = [⟨1, "ITEM </span><br>", .notAType "</span><br>"⟩] ∧
      Listing.source c.listing = "ITEM </span><br>\n\nITEM quote\n<span title=\"&lt;\">" := by
  have hproblems : ((compile .late "ITEM </span><br>\n\nITEM quote\n<span title=\"&lt;\">").map
      Compiled.problems).toOption = some [⟨1, "ITEM </span><br>", .notAType "</span><br>"⟩] := by
    decide +kernel
  cases hc : compile .late "ITEM </span><br>\n\nITEM quote\n<span title=\"&lt;\">" with
  | error halt =>
      rw [hc] at hproblems
      nomatch hproblems
  | ok c =>
      rw [hc] at hproblems
      have hlists := lists_of_compile hc
      exact ⟨c, rfl, hlists, Option.some.inj hproblems, hlists.recovered⟩

end PageGrep
