/-
# Links read back

Resolving the references of a text loses nothing of it.  What comes out is an anchor for each
title that the text refers to, with everything between the references escaped, and from it
the text is read back: each anchor is made a reference to its body, and then entities are
undone (`Markup.source`).

The reader takes for an anchor whatever looks like one.  It finds those that were made from
references and no others, since escaped text opens no tag; and it finds them whole, since
neither the attributes of an anchor nor its body hold an angle bracket.  Brackets are not
escaped, so once the anchors are references again, all of the text is there in its escaped
form (`Markup.unanchored_markup`).
-/
import PageGrep.Proofs.Page.Link
import PageGrep.Proofs.Report.Panel

namespace PageGrep

namespace Markup

/-! ## The reader -/

def anchorStart : String := "<a "

def anchorEnd : String := "</a>"

/-- The body of the anchor at the front, and how many characters the anchor has. -/
def anchorAt? (cs : List Char) : Option (List Char × Nat) :=
  let tag := (cs.takeWhile (· != '>')).length + 1
  let body := (cs.drop tag).takeWhile (· != '<')
  if anchorStart.toList.isPrefixOf cs
      && anchorEnd.toList.isPrefixOf (cs.drop (tag + body.length)) then
    some (body, tag + body.length + anchorEnd.toList.length)
  else none

/-- Markup with each anchor made a reference to its body. -/
def unanchored : List Char → List Char
  | [] => []
  | c :: rest =>
    match anchorAt? (c :: rest) with
    | some (body, length) => referenceTo body ++ unanchored (rest.drop (length - 1))
    | none => c :: unanchored rest
termination_by cs => cs.length
decreasing_by all_goals simp only [List.length_cons, List.length_drop]; omega

/-! ## Reading what was written -/

/-- An anchor whose tag and body end where they seem to. -/
structure Anchor where
  attributes : List Char
  body : List Char
  /-- The attributes do not close the tag. -/
  inTag : '>' ∉ attributes
  /-- The body opens no tag. -/
  inBody : '<' ∉ body

def Anchor.written (a : Anchor) : List Char :=
  anchorStart.toList ++ (a.attributes ++ '>' :: (a.body ++ anchorEnd.toList))

theorem anchorAt?_written (a : Anchor) (rest : List Char) :
    anchorAt? (a.written ++ rest) = some (a.body, a.written.length) := by
  have htag : ∀ c ∈ anchorStart.toList ++ a.attributes, (c != '>') = true := by
    intro c hc
    rw [bne_iff_ne]
    rintro rfl
    rcases List.mem_append.mp hc with hstart | hmem
    · exact absurd hstart (by decide)
    · exact a.inTag hmem
  have hbody : ∀ c ∈ a.body, (c != '<') = true := by
    intro c hc
    rw [bne_iff_ne]
    rintro rfl
    exact a.inBody hc
  have hwritten : a.written ++ rest
      = anchorStart.toList ++ a.attributes ++ '>' :: (a.body ++ (anchorEnd.toList ++ rest)) := by
    simp [Anchor.written]
  have htagLength : ((a.written ++ rest).takeWhile (· != '>')).length
      = (anchorStart.toList ++ a.attributes).length := by
    have hclose : ('>' :: (a.body ++ (anchorEnd.toList ++ rest))).takeWhile (· != '>') = [] := rfl
    rw [hwritten, List.takeWhile_append_of_pos htag, hclose, List.append_nil]
  have hdrop : (a.written ++ rest).drop ((anchorStart.toList ++ a.attributes).length + 1)
      = a.body ++ (anchorEnd.toList ++ rest) := by
    rw [hwritten, ← List.drop_drop, List.drop_left]
    rfl
  have htake : (a.body ++ (anchorEnd.toList ++ rest)).takeWhile (· != '<') = a.body := by
    have hend : (anchorEnd.toList ++ rest).takeWhile (· != '<') = [] := rfl
    rw [List.takeWhile_append_of_pos hbody, hend, List.append_nil]
  have hstarts : anchorStart.toList.isPrefixOf (a.written ++ rest) = true := by
    rw [hwritten, List.isPrefixOf_iff_prefix, List.append_assoc]
    exact List.prefix_append _ _
  have hends : anchorEnd.toList.isPrefixOf (anchorEnd.toList ++ rest) = true :=
    List.isPrefixOf_iff_prefix.mpr (List.prefix_append _ _)
  have hlength : (anchorStart.toList ++ a.attributes).length + 1 + a.body.length
      + anchorEnd.toList.length = a.written.length := by
    simp only [Anchor.written, List.length_append, List.length_cons]
    omega
  simp only [anchorAt?, htagLength, ← List.drop_drop, hdrop, htake, List.drop_left, hstarts,
    hends, Bool.and_self, if_true, hlength]

theorem unanchored_written (a : Anchor) (rest : List Char) :
    unanchored (a.written ++ rest) = referenceTo a.body ++ unanchored rest := by
  have hanchor := anchorAt?_written a rest
  obtain ⟨others, hcons⟩ : ∃ others, a.written = '<' :: others := ⟨_, rfl⟩
  rw [hcons, List.cons_append] at hanchor ⊢
  rw [unanchored, hanchor]
  simp only [List.length_cons, Nat.add_sub_cancel, List.drop_left]

theorem unanchored_append {cs : List Char} (h : '<' ∉ cs) (rest : List Char) :
    unanchored (cs ++ rest) = cs ++ unanchored rest := by
  induction cs with
  | nil => rfl
  | cons c cs ih =>
      rw [List.mem_cons, not_or] at h
      have hnone : anchorAt? (c :: (cs ++ rest)) = none := by
        have hstart : anchorStart.toList.isPrefixOf (c :: (cs ++ rest)) = false := by
          rw [← Bool.not_eq_true, List.isPrefixOf_iff_prefix]
          intro hprefix
          exact h.1 (List.cons_prefix_cons.mp hprefix).1
        simp [anchorAt?, hstart]
      rw [List.cons_append, unanchored, hnone]
      simp only [ih h.2, List.cons_append]

/-! ## Resolved links -/

def slugStart : String := "class=\"internal\" href=\"/"

def nameStart : String := ".html\" data-page-name=\""

def slugEnd : String := "\" title=\"view\""

/-- The attributes of the anchor that leads to the page with a title. -/
def attributesOf (title : String) : String :=
  slugStart ++ slugOf title ++ nameStart ++ slugOf title ++ slugEnd

theorem not_mem_attributesOf (title : String) : '>' ∉ (attributesOf title).toList := by
  have hslug : '>' ∉ (slugOf title).toList := by
    intro hmem
    exact absurd (Fragment.isSmallSlugChar_of_mem_slugOf hmem) (by decide)
  have hstart : '>' ∉ slugStart.toList := by decide +kernel
  have hname : '>' ∉ nameStart.toList := by decide +kernel
  have hend : '>' ∉ slugEnd.toList := by decide +kernel
  simp only [attributesOf, String.toList_append, List.mem_append, hslug, hstart, hname, hend,
    or_self, not_false_eq_true]

def anchorTo (title : String) : Anchor where
  attributes := (attributesOf title).toList
  body := (Text.escape title).toList
  inTag := not_mem_attributesOf title
  inBody := Text.not_mem_escape title

theorem toList_anchor (title : String) : (anchor title).toList = (anchorTo title).written := by
  have hstart : "<a class=\"internal\" href=\"/" = anchorStart ++ slugStart := by
    decide +kernel
  have hview : "\" title=\"view\">" = slugEnd ++ String.ofList ['>'] := by decide +kernel
  have hname : ".html\" data-page-name=\"" = nameStart := rfl
  have hend : "</a>" = anchorEnd := rfl
  have hanchor : anchor title = anchorStart ++ (attributesOf title ++ (String.ofList ['>']
      ++ (Text.escape title ++ anchorEnd))) := by
    rw [anchor_eq, hstart, hview, hname, hend, attributesOf]
    simp only [String.append_assoc]
  rw [hanchor, Anchor.written]
  simp only [String.toList_append, String.toList_ofList, List.singleton_append, anchorTo]

theorem unanchored_anchor (title : String) (rest : List Char) :
    unanchored ((anchor title).toList ++ rest)
      = referenceTo (Text.escape title).toList ++ unanchored rest := by
  rw [toList_anchor]
  exact unanchored_written (anchorTo title) rest

/-- Brackets are written as they are, so a reference to an escaped title is an escaped
reference. -/
theorem reference_flatMap_entity (title : List Char) :
    referenceTo (title.flatMap Text.entity) = (referenceTo title).flatMap Text.entity := by
  have hopen : Text.entity '[' = ['['] := by decide
  have hclose : Text.entity ']' = [']'] := by decide
  simp [referenceTo, List.flatMap_append, hopen, hclose]

theorem unanchored_markup (l : Linked) :
    unanchored l.markup.toList = l.text.flatMap Text.entity := by
  obtain ⟨first, links⟩ := l
  have hescape (piece : List Char) :
      (Text.escape (String.ofList piece)).toList = piece.flatMap Text.entity := by
    rw [Text.escape, String.toList_ofList, String.toList_ofList]
  have hlinks : unanchored (String.join (links.map fun link =>
      anchor (String.ofList link.1) ++ Text.escape (String.ofList link.2))).toList
        = (Linked.written links).flatMap Text.entity := by
    induction links with
    | nil => rw [List.map_nil, String.join_nil, String.toList_empty, unanchored]; rfl
    | cons link links ih =>
        have hafter := Text.not_mem_escape (String.ofList link.2)
        rw [List.map_cons, String.join_cons, String.toList_append, String.toList_append,
          List.append_assoc, unanchored_anchor, unanchored_append hafter, ih, hescape, hescape,
          reference_flatMap_entity]
        simp only [Linked.written, List.flatMap_cons, List.flatMap_append, List.append_assoc]
  rw [Linked.markup, String.toList_append,
    unanchored_append (Text.not_mem_escape (String.ofList first)), hlinks, hescape, Linked.text,
    List.flatMap_append]

/-- The text that markup with anchors was made from. -/
def source (markup : String) : String :=
  String.ofList (Text.unescape Text.textEntities (unanchored markup.toList))

theorem source_markup (l : Linked) : source l.markup = String.ofList l.text := by
  rw [source, unanchored_markup, Text.unescape_flatMap Text.undoes_entity]

end Markup

/-- **Resolving links loses nothing.**  A text is cut at the references found from the front on,
the titles are those that it refers to, the markup is an anchor for each with the rest escaped,
and the text can be read back from the markup alone. -/
theorem resolveLinks_lossless :
    (∀ text : String, ∃ l : Linked, l.text = text.toList ∧ l.IsLeftmost ∧
      linkTitles text = l.titles ∧ resolveLinks text = l.markup) ∧
    (∀ text : String, Markup.source (resolveLinks text) = text) ∧
    Function.Injective resolveLinks := by
  have hlinked (text : String) : ∃ l : Linked, l.text = text.toList ∧ l.IsLeftmost ∧
      linkTitles text = l.titles ∧ resolveLinks text = l.markup := by
    obtain ⟨l, hcut, htext, hleftmost⟩ := Stretch.exists_linked text
    refine ⟨l, htext, hleftmost, ?_, ?_⟩
    · rw [linkTitles, hcut, titles_stretches]
    · rw [resolveLinks, hcut, markup_stretches]
  have hsource (text : String) : Markup.source (resolveLinks text) = text := by
    obtain ⟨l, htext, -, -, hmarkup⟩ := hlinked text
    rw [hmarkup, Markup.source_markup, htext, String.ofList_toList]
  refine ⟨hlinked, hsource, fun text text' hsame => ?_⟩
  rw [← hsource text, hsame, hsource text']

/-- References side by side, brackets within brackets, a line break in a title, an entity, and a
reference that does not end. -/
theorem resolveLinks_lossless_nested_brackets :
    let text := "[[[a]][[<b>]]&lt;[[c\n]] [[d]"
    linkTitles text = ["[a", "<b>", "c\n"] ∧ Markup.source (resolveLinks text) = text ∧
      ∀ other, resolveLinks other = resolveLinks text → other = text := by
  intro text
  obtain ⟨-, hsource, hinjective⟩ := resolveLinks_lossless
  have htitles : linkTitles text = ["[a", "<b>", "c\n"] := by decide +kernel
  exact ⟨htitles, hsource text, fun other hsame => hinjective hsame⟩

end PageGrep
