/-
# What panels and documents are made of

A panel shows program lines, messages about faults, a status and references that came from
pages elsewhere, and a document has an action in its title.  Each of these is any text at
all, but it fills fragments and makes none.  The fragments of an output (`Contents`) are the
tags of the template, a line break between two lines and after each result, a mark for each
faulty line and an anchor for each reference to a page; the rest is runs of text.  So an
output opens as many angle brackets as there are of these, whatever is written in them
(`count_of_madeOf`).
-/
import PageGrep.Proofs.Program.Locality
import PageGrep.Proofs.Report.Fragments

namespace PageGrep

open Fragment

/-! ## Markup made of fragments -/

/-- What fragments there are in markup besides runs of text: the tags of the template, how
many line breaks, the marks as titles and bodies, the anchors as slugs and bodies. -/
structure Contents where
  tags : List String := []
  lineBreaks : Nat := 0
  marks : List (String × String) := []
  anchors : List (String × String) := []
deriving DecidableEq, Repr

namespace Contents

instance : Append Contents :=
  ⟨fun k k' => ⟨k.tags ++ k'.tags, k.lineBreaks + k'.lineBreaks, k.marks ++ k'.marks,
    k.anchors ++ k'.anchors⟩⟩

theorem append_eq (k k' : Contents) :
    k ++ k' = ⟨k.tags ++ k'.tags, k.lineBreaks + k'.lineBreaks, k.marks ++ k'.marks,
      k.anchors ++ k'.anchors⟩ := rfl

def ofFragments (fs : List Fragment) : Contents :=
  ⟨fs.filterMap tag?, fs.count .lineBreak, fs.filterMap mark?, fs.filterMap anchor?⟩

theorem ofFragments_append (fs fs' : List Fragment) :
    ofFragments (fs ++ fs') = ofFragments fs ++ ofFragments fs' := by
  simp only [ofFragments, List.filterMap_append, List.count_append, append_eq]

end Contents

/-- Markup is made of safe fragments, with these among them. -/
def MadeOf (markup : String) (contents : Contents) : Prop :=
  ∃ fs, writtenAll fs = markup ∧ (∀ f ∈ fs, f.IsSafe) ∧ Contents.ofFragments fs = contents

section MadeOf

variable {markup markup' : String} {contents contents' : Contents}

theorem madeOf_append (h : MadeOf markup contents) (h' : MadeOf markup' contents') :
    MadeOf (markup ++ markup') (contents ++ contents') := by
  obtain ⟨fs, rfl, hsafe, rfl⟩ := h
  obtain ⟨fs', rfl, hsafe', rfl⟩ := h'
  exact ⟨fs ++ fs', writtenAll_append fs fs',
    List.forall_mem_append.mpr ⟨hsafe, hsafe'⟩, Contents.ofFragments_append fs fs'⟩

theorem count_of_madeOf (h : MadeOf markup contents) :
    markup.toList.count '<' = contents.tags.length + contents.lineBreaks
      + 2 * contents.marks.length + 2 * contents.anchors.length := by
  obtain ⟨fs, rfl, hsafe, rfl⟩ := h
  rw [count_writtenAll hsafe, bracketsOf_eq]
  rfl

end MadeOf

theorem madeOf_nothing : MadeOf "" {} := ⟨[], rfl, nofun, rfl⟩

theorem madeOf_fragment {f : Fragment} (h : f.IsSafe) :
    MadeOf f.written (Contents.ofFragments [f]) := by
  refine ⟨[f], ?_, List.forall_mem_singleton.mpr h, rfl⟩
  rw [writtenAll_cons, writtenAll, List.map_nil, String.join_nil, String.append_empty]

theorem madeOf_lineBreak : MadeOf Compiled.lineBreak ⟨[], 1, [], []⟩ :=
  madeOf_fragment isSafe_lineBreak

theorem madeOf_escape (text : String) : MadeOf (Text.escape text) {} :=
  madeOf_fragment (isSafe_escape text)

theorem madeOf_escapeAttribute (text : String) : MadeOf (Text.escapeAttribute text) {} :=
  madeOf_fragment (isSafe_run (Text.isRun_escapeAttribute text))

/-- Whether a fragment is part of the template: one of its tags or a run of its text. -/
def Fragment.isTemplate : Fragment → Bool
  | .tag written => templateTags.contains written
  | .run text => Text.isRun text.toList
  | _ => false

theorem Fragment.isSafe_of_isTemplate {f : Fragment} (h : f.isTemplate = true) : f.IsSafe := by
  cases f with
  | tag written => exact isSafe_tag (List.contains_iff_mem.mp h)
  | run text => exact isSafe_run h
  | lineBreak | mark _ _ | anchor _ _ => nomatch h

theorem madeOf_template (fs : List Fragment) (h : fs.all isTemplate = true) :
    MadeOf (writtenAll fs) { tags := fs.filterMap tag? } := by
  refine ⟨fs, rfl, fun f hf => isSafe_of_isTemplate (List.all_eq_true.mp h f hf), ?_⟩
  have hkind (f) (hf : f ∈ fs) : f ≠ .lineBreak ∧ f.mark? = none ∧ f.anchor? = none := by
    have htemplate := List.all_eq_true.mp h f hf
    cases f with
    | tag _ | run _ => exact ⟨nofun, rfl, rfl⟩
    | lineBreak | mark _ _ | anchor _ _ => nomatch htemplate
  rw [Contents.ofFragments, List.count_eq_zero.mpr fun hmem => (hkind _ hmem).1 rfl,
    List.filterMap_eq_nil_iff.mpr fun f hf => (hkind f hf).2.1,
    List.filterMap_eq_nil_iff.mpr fun f hf => (hkind f hf).2.2]

/-! ## Listings -/

/-- The title and the body of the mark that tells a problem. -/
def Problem.mark (p : Problem) : String × String :=
  (Text.escapeAttribute p.fault.message, Text.escape p.line)

theorem madeOf_piece (number : Nat) (l : CompiledLine) :
    MadeOf l.piece ⟨[], 0, (Compiled.problem? number l).toList.map Problem.mark, []⟩ := by
  rw [CompiledLine.piece, Compiled.problem?]
  cases l.fault? with
  | none => exact madeOf_fragment (isSafe_escape l.line)
  | some f => exact madeOf_fragment (isSafe_mark f.message l.line)

theorem madeOf_pieces (first : Nat) (l : CompiledLine) (ls : List CompiledLine) :
    MadeOf (Compiled.lineBreak.intercalate ((l :: ls).map CompiledLine.piece))
      ⟨[], ls.length, (Compiled.problemsFrom first (l :: ls)).map Problem.mark, []⟩ := by
  induction ls generalizing first l with
  | nil =>
      rw [List.map_singleton, String.intercalate_singleton, Compiled.problemsFrom_cons,
        Compiled.problemsFrom, List.append_nil]
      exact madeOf_piece first l
  | cons l' ls ih =>
      have hrest := madeOf_append madeOf_lineBreak (ih (first + 1) l')
      rw [List.map_cons, List.map_cons, String.intercalate_cons_cons, ← List.map_cons,
        String.append_assoc, Compiled.problemsFrom_cons, List.map_append, List.length_cons]
      simpa [Contents.append_eq, Nat.add_comm] using madeOf_append (madeOf_piece first l) hrest

theorem madeOf_listing {engine : Pattern.Engine} {source : String} {c : Compiled}
    (h : compile engine source = .ok c) :
    MadeOf c.listing ⟨[], source.toList.count '\n', c.problems.map Problem.mark, []⟩ := by
  have hlength := length_lines_of_compile h
  obtain ⟨l, ls, hlines⟩ := List.exists_cons_of_ne_nil (lines_ne_nil_of_compile h)
  rw [hlines, List.length_cons] at hlength
  have hfeeds : source.toList.count '\n' = ls.length := by omega
  rw [Compiled.listing, Compiled.problems, hlines, hfeeds]
  exact madeOf_pieces 1 l ls

/-! ## Results -/

/-- The slug and the body of the anchor that leads to the page with a title. -/
def anchorOf (title : String) : String × String := (slugOf title, Text.escape title)

theorem anchor_eq (title : String) :
    anchor title = "<a class=\"internal\" href=\"/" ++ slugOf title
      ++ ".html\" data-page-name=\"" ++ slugOf title ++ "\" title=\"view\">"
      ++ Text.escape title ++ "</a>" := rfl

theorem madeOf_anchor (title : String) : MadeOf (anchor title) ⟨[], 0, [], [anchorOf title]⟩ := by
  have hstart : "<a class=\"internal\" href=\"/" = "<a class=\"internal\" href=\"" ++ "/" := by
    decide +kernel
  have hname : ".html\" data-page-name=\"" = ".html" ++ "\" data-page-name=\"" := by
    decide +kernel
  have hwritten : (Fragment.anchor (slugOf title) (Text.escape title)).written = anchor title := by
    simp only [written_anchor, anchor_eq, hstart, hname, String.append_assoc]
  have hmade := madeOf_fragment (isSafe_anchor title)
  rw [hwritten] at hmade
  exact hmade

theorem madeOf_stretch (s : Stretch) :
    MadeOf s.markup ⟨[], 0, [], (s.title?.map anchorOf).toList⟩ := by
  cases s with
  | plain text => exact madeOf_escape (String.ofList text)
  | link title => exact madeOf_anchor (String.ofList title)

theorem madeOf_stretches (ss : List Stretch) :
    MadeOf (String.join (ss.map Stretch.markup))
      ⟨[], 0, [], (ss.filterMap Stretch.title?).map anchorOf⟩ := by
  induction ss with
  | nil => exact madeOf_nothing
  | cons s ss ih =>
      have hall := madeOf_append (madeOf_stretch s) ih
      rw [List.map_cons, String.join_cons, List.filterMap_cons]
      cases htitle : s.title? <;> simpa [htitle, Contents.append_eq] using hall

theorem madeOf_resultLine (reference : String) :
    MadeOf (resultLine reference) ⟨[], 1, [], (linkTitles reference).map anchorOf⟩ := by
  have hline := madeOf_append (madeOf_stretches (Stretch.ofText reference)) madeOf_lineBreak
  simp only [Contents.append_eq, List.append_nil, Nat.zero_add] at hline
  exact hline

theorem madeOf_results (references : List String) :
    MadeOf (String.join (references.map resultLine))
      ⟨[], references.length, [], (references.flatMap linkTitles).map anchorOf⟩ := by
  induction references with
  | nil => exact madeOf_nothing
  | cons reference references ih =>
      have hall := madeOf_append (madeOf_resultLine reference) ih
      rw [List.map_cons, String.join_cons, List.flatMap_cons, List.map_append, List.length_cons]
      simpa [Contents.append_eq, Nat.add_comm] using hall

/-! ## Panels and documents -/

def panelStart : List Fragment :=
  [.tag "<div style=\"background-color:#eee;padding:15px;\">", .run "\n  ",
    .tag "<div style=\"text-align:center\">", .run "\n    ", .tag "<div class=listing>"]

/-- The template of a panel between the listing and the status. -/
def panelOpen : List Fragment :=
  [.run " ", .tag "<a class=open href='#'>", .run "»", .tag "</a>", .tag "</div>", .run "\n    ",
    .tag "<button>", .run "find", .tag "</button>", .run "\n    ", .tag "<p class=\"caption\">"]

/-- The template of a panel between the status and the results. -/
def panelResult : List Fragment :=
  [.tag "</p>", .run "\n  ", .tag "</div>", .run "\n  ", .tag "<p class=\"result\">"]

def panelEnd : List Fragment := [.tag "</p>", .run "\n", .tag "</div>"]

def documentStart : List Fragment :=
  [.tag "<!DOCTYPE html>", .run "\n", .tag "<html>", .run "\n", .tag "<head>", .run "\n",
    .tag "<meta charset=\"utf-8\">", .run "\n", .tag "<title>"]

/-- The template of a document between its title and its panel. -/
def documentBody : List Fragment :=
  [.tag "</title>", .run "\n", .tag "</head>", .run "\n", .tag "<body>", .run "\n"]

def documentEnd : List Fragment :=
  [.run "\n", .tag "</body>", .run "\n", .tag "</html>", .run "\n"]

theorem panel_eq (listing status : String) (references : List String) :
    panel listing status references
      = writtenAll panelStart ++ listing ++ writtenAll panelOpen ++ Text.escape status
        ++ writtenAll panelResult ++ String.join (references.map resultLine)
        ++ writtenAll panelEnd := by
  have hstart : writtenAll panelStart = String.join [
    "<div style=\"background-color:#eee;padding:15px;\">\n",
    "  <div style=\"text-align:center\">\n", "    <div class=listing>"] := by decide +kernel
  have hopen : writtenAll panelOpen = String.join [
    " <a class=open href='#'>»</a></div>\n", "    <button>find</button>\n",
    "    <p class=\"caption\">"] := by decide +kernel
  have hresult : writtenAll panelResult = String.join [
    "</p>\n", "  </div>\n", "  <p class=\"result\">"] := by decide +kernel
  have hend : writtenAll panelEnd = String.join ["</p>\n", "</div>"] := by decide +kernel
  rw [hstart, hopen, hresult, hend]
  simp only [panel, String.join_cons, String.join_nil, String.append_empty, String.append_assoc]

theorem status_eq_of_panel_eq {listing status status' : String} {references : List String}
    (h : panel listing status references = panel listing status' references) :
    status = status' := by
  rw [panel_eq, panel_eq] at h
  have hescaped : (Text.escape status).toList = (Text.escape status').toList := by
    simpa using congrArg String.toList h
  have hstatus := congrArg (Text.unescape Text.textEntities) hescaped
  rw [Text.unescape_escape, Text.unescape_escape] at hstatus
  exact String.toList_injective hstatus

theorem document_eq (title content : String) :
    document title content
      = writtenAll documentStart ++ Text.escapeAttribute title ++ writtenAll documentBody
        ++ content ++ writtenAll documentEnd := by
  have hstart : writtenAll documentStart
      = "<!DOCTYPE html>\n<html>\n<head>\n<meta charset=\"utf-8\">\n<title>" := by decide +kernel
  have hbody : writtenAll documentBody = "</title>\n</head>\n<body>\n" := by decide +kernel
  have hend : writtenAll documentEnd = "\n</body>\n</html>\n" := by decide +kernel
  rw [hstart, hbody, hend]
  simp only [document, String.join_cons, String.join_nil, String.append_empty, String.append_assoc]

/-- What there is in an output that shows a compiled text and references, with these tags. -/
def outputContents (tags : List String) (source : String) (c : Compiled)
    (references : List String) : Contents where
  tags := tags
  lineBreaks := source.toList.count '\n' + references.length
  marks := c.problems.map Problem.mark
  anchors := (references.flatMap linkTitles).map anchorOf

theorem madeOf_panel {engine : Pattern.Engine} {source : String} {c : Compiled}
    (h : compile engine source = .ok c) (status : String) (references : List String) :
    MadeOf (panel c.listing status references)
      (outputContents panelTags source c references) := by
  have hall := madeOf_append (madeOf_append (madeOf_append (madeOf_append (madeOf_append
    (madeOf_append (madeOf_template panelStart (by decide +kernel)) (madeOf_listing h))
    (madeOf_template panelOpen (by decide +kernel))) (madeOf_escape status))
    (madeOf_template panelResult (by decide +kernel))) (madeOf_results references))
    (madeOf_template panelEnd (by decide +kernel))
  have htags : panelStart.filterMap tag? ++ (panelOpen.filterMap tag?
      ++ (panelResult.filterMap tag? ++ panelEnd.filterMap tag?)) = panelTags := rfl
  rw [panel_eq]
  simpa [Contents.append_eq, outputContents, htags] using hall

theorem madeOf_document {engine : Pattern.Engine} {source : String} {c : Compiled}
    (h : compile engine source = .ok c) (status : String) (references : List String)
    (title : String) :
    MadeOf (document title (panel c.listing status references))
      (outputContents templateTags source c references) := by
  have hall := madeOf_append (madeOf_append (madeOf_append (madeOf_append
    (madeOf_template documentStart (by decide +kernel)) (madeOf_escapeAttribute title))
    (madeOf_template documentBody (by decide +kernel))) (madeOf_panel h status references))
    (madeOf_template documentEnd (by decide +kernel))
  have htags : documentStart.filterMap tag? ++ (documentBody.filterMap tag?
      ++ (panelTags ++ documentEnd.filterMap tag?)) = templateTags := rfl
  rw [document_eq]
  simpa [Contents.append_eq, outputContents, htags] using hall

/-- **What is shown makes no markup.**  Panels and documents are made of fragments of the
template, line breaks, marks and anchors, all of them safe, and there are as many angle
brackets as there are lines, faulty lines, results and references to pages, whatever these
are and whatever the status and the action. -/
theorem madeOf_outputs {engine : Pattern.Engine} {source : String} {c : Compiled}
    (h : compile engine source = .ok c) (status : String) (references : List String)
    (action : String) :
    MadeOf (panel c.listing status references)
      (outputContents panelTags source c references) ∧
    MadeOf (document ("grep " ++ action) (panel c.listing status references))
      (outputContents templateTags source c references) ∧
    (panel c.listing status references).toList.count '<'
      = 14 + (source.toList.count '\n' + references.length) + 2 * c.errors
        + 2 * (references.flatMap linkTitles).length ∧
    (document ("grep " ++ action) (panel c.listing status references)).toList.count '<'
      = 24 + (source.toList.count '\n' + references.length) + 2 * c.errors
        + 2 * (references.flatMap linkTitles).length := by
  have hpanel := madeOf_panel h status references
  have hdocument := madeOf_document h status references ("grep " ++ action)
  refine ⟨hpanel, hdocument, ?_, ?_⟩
  · rw [count_of_madeOf hpanel]
    simp [outputContents, Compiled.errors, panelTags]
  · rw [count_of_madeOf hdocument]
    simp [outputContents, Compiled.errors, templateTags, documentTags, panelTags,
      documentEndTags]

/-- A pattern, a line, a status, a result and an action that spell tags, entities and quotes. -/
theorem madeOf_outputs_spelled_tags :
    ∃ c, compile .late "TEXT <script>&lt;\nITEM \"><b>" = .ok c ∧
      c.problems = [⟨2, "ITEM \"><b>", .notAType "\"><b>"⟩] ∧
      ["[[<b>\"&]] ([[]])"].flatMap linkTitles = ["<b>\"&"] ∧
      MadeOf (document "grep </title>" (panel c.listing "<p>" ["[[<b>\"&]] ([[]])"]))
        ⟨templateTags, 2,
          [("expecting type for &#x27;&quot;&gt;&lt;b&gt;&#x27;", "ITEM \"&gt;&lt;b&gt;")],
          [("b", "&lt;b&gt;\"&amp;")]⟩ ∧
      (document "grep </title>" (panel c.listing "<p>" ["[[<b>\"&]] ([[]])"])).toList.count '<'
        = 30 := by
  obtain ⟨c, hc, hproblems⟩ : ∃ c, compile .late "TEXT <script>&lt;\nITEM \"><b>" = .ok c ∧
      c.problems = [⟨2, "ITEM \"><b>", .notAType "\"><b>"⟩] :=
    exists_of_toOption_map (by decide +kernel)
  have htitles : ["[[<b>\"&]] ([[]])"].flatMap linkTitles = ["<b>\"&"] := by decide +kernel
  have hmark : Problem.mark ⟨2, "ITEM \"><b>", .notAType "\"><b>"⟩
      = ("expecting type for &#x27;&quot;&gt;&lt;b&gt;&#x27;", "ITEM \"&gt;&lt;b&gt;") := by
    decide +kernel
  have hanchor : anchorOf "<b>\"&" = ("b", "&lt;b&gt;\"&amp;") := by decide +kernel
  have hfeeds : "TEXT <script>&lt;\nITEM \"><b>".toList.count '\n' = 1 := by decide +kernel
  obtain ⟨-, hdocument, -, hcount⟩ := madeOf_outputs hc "<p>" ["[[<b>\"&]] ([[]])"] "</title>"
  rw [outputContents, hproblems, htitles, hfeeds, List.map_singleton, List.map_singleton,
    hmark, hanchor] at hdocument
  rw [htitles, hfeeds, Compiled.errors, hproblems] at hcount
  exact ⟨c, hc, hproblems, htitles, hdocument, hcount⟩

end PageGrep
