/-
# Fragments of markup

Markup that is put together here consists of *fragments*: tags of the template, line breaks,
marks of faulty lines, anchors, and runs of text.  For each of them it is said what may
stand in it (`Fragment.IsSafe`):

* a tag is one of the template, which knows nothing of what it is filled with;
* a run of text has no angle bracket, and each of its ampersands starts an entity; so have
  the bodies of marks and of anchors;
* what is put between the quotes of an attribute has neither a quote nor an angle bracket,
  and a slug only small letters, digits and dashes.

What was escaped is safe in its place (`isSafe_mark`, `isSafe_anchor`, `isSafe_escape`), and
safe fragments open as many angle brackets as their kinds say (`count_writtenAll`): there is
no tag in what a fragment is filled with.
-/
import PageGrep.Proofs.Program.Listing
import PageGrep.Report.Panel

namespace PageGrep

/-! ## The template -/

/-- The tags of a panel, in order. -/
def panelTags : List String :=
  ["<div style=\"background-color:#eee;padding:15px;\">", "<div style=\"text-align:center\">",
    "<div class=listing>", "<a class=open href='#'>", "</a>", "</div>", "<button>", "</button>",
    "<p class=\"caption\">", "</p>", "</div>", "<p class=\"result\">", "</p>", "</div>"]

def documentTags : List String :=
  ["<!DOCTYPE html>", "<html>", "<head>", "<meta charset=\"utf-8\">", "<title>", "</title>",
    "</head>", "<body>"]

def documentEndTags : List String := ["</body>", "</html>"]

/-- Every tag of the template. -/
def templateTags : List String := documentTags ++ panelTags ++ documentEndTags

/-! ## Fragments -/

/-- A fragment of markup, with what it is filled with as it is written. -/
inductive Fragment where
  | tag (written : String)
  | lineBreak
  | mark (title body : String)
  | anchor (slug body : String)
  | run (text : String)
deriving DecidableEq, Repr

namespace Fragment

def written : Fragment → String
  | tag written => written
  | lineBreak => Compiled.lineBreak
  | mark title body => Listing.markStart ++ title ++ Listing.titleEnd ++ body ++ Listing.markEnd
  | anchor slug body =>
    "<a class=\"internal\" href=\"" ++ ("/" ++ slug ++ ".html") ++ "\" data-page-name=\"" ++ slug
      ++ "\" title=\"view\">" ++ body ++ "</a>"
  | run text => text

theorem written_mark (title body : String) :
    (mark title body).written
      = Listing.markStart ++ title ++ Listing.titleEnd ++ body ++ Listing.markEnd := rfl

theorem written_anchor (slug body : String) :
    (anchor slug body).written
      = "<a class=\"internal\" href=\"" ++ ("/" ++ slug ++ ".html") ++ "\" data-page-name=\""
        ++ slug ++ "\" title=\"view\">" ++ body ++ "</a>" := rfl

/-- The values that are put between the quotes of attributes. -/
def attributes : Fragment → List String
  | mark title _ => [title]
  | anchor slug _ => ["/" ++ slug ++ ".html", slug]
  | _ => []

/-- The text that is put between tags, if there is any. -/
def text? : Fragment → Option String
  | mark _ body | anchor _ body => some body
  | run text => some text
  | _ => none

/-- The tag of the template, if the fragment is one. -/
def tag? : Fragment → Option String
  | tag written => some written
  | _ => none

/-- The title and the body, if the fragment is a mark. -/
def mark? : Fragment → Option (String × String)
  | mark title body => some (title, body)
  | _ => none

/-- The slug and the body, if the fragment is an anchor. -/
def anchor? : Fragment → Option (String × String)
  | anchor slug body => some (slug, body)
  | _ => none

/-- Fragments as they are written, one after the other. -/
def writtenAll (fs : List Fragment) : String := String.join (fs.map written)

theorem writtenAll_append (fs fs' : List Fragment) :
    writtenAll (fs ++ fs') = writtenAll fs ++ writtenAll fs' := by
  rw [writtenAll, List.map_append, String.join_append]
  rfl

theorem writtenAll_cons (f : Fragment) (fs : List Fragment) :
    writtenAll (f :: fs) = f.written ++ writtenAll fs := by
  rw [writtenAll, List.map_cons, String.join_cons]
  rfl

/-! ## Safe fragments -/

/-- Whether a character may stand in a slug when its letters are small. -/
def isSmallSlugChar (c : Char) : Bool :=
  ('a' ≤ c && c ≤ 'z') || ('0' ≤ c && c ≤ '9') || c == '-'

/-- What may stand in a fragment. -/
structure IsSafe (f : Fragment) : Prop where
  /-- A tag is one of the template. -/
  tag : ∀ written ∈ f.tag?, written ∈ templateTags
  /-- An attribute is closed where the template closes it. -/
  attributes : ∀ value ∈ f.attributes,
    '"' ∉ value.toList ∧ '<' ∉ value.toList ∧ '>' ∉ value.toList
  /-- A slug has small letters, digits and dashes. -/
  slug : ∀ slug body, f.anchor? = some (slug, body) →
    ∀ c ∈ slug.toList, isSmallSlugChar c = true
  /-- Text between tags is a run. -/
  text : ∀ text ∈ f.text?, Text.isRun text.toList = true

theorem isSafe_tag {written : String} (h : written ∈ templateTags) : (tag written).IsSafe where
  tag := by
    rintro _ ⟨⟩
    exact h
  attributes := nofun
  slug := nofun
  text := nofun

theorem isSafe_lineBreak : lineBreak.IsSafe := ⟨nofun, nofun, nofun, nofun⟩

theorem isSafe_run {text : String} (h : Text.isRun text.toList = true) : (run text).IsSafe where
  tag := nofun
  attributes := nofun
  slug := nofun
  text := by
    rintro _ ⟨⟩
    exact h

theorem isSafe_escape (text : String) : (run (Text.escape text)).IsSafe :=
  isSafe_run (Text.isRun_escape text)

theorem isSafe_mark (message line : String) :
    (mark (Text.escapeAttribute message) (Text.escape line)).IsSafe where
  tag := nofun
  attributes := by
    intro value hvalue
    rw [List.mem_singleton.mp hvalue]
    exact ⟨(Text.not_mem_escapeAttribute message).2,
      Text.not_mem_of_isRun (Text.isRun_escapeAttribute message)⟩
  slug := nofun
  text := by
    rintro _ ⟨⟩
    exact Text.isRun_escape line

theorem isSmallSlugChar_toLower {c : Char} (h : isSlugChar c = true) :
    isSmallSlugChar c.toLower = true := by
  have hall : ∀ n < 128, isSlugChar (Char.ofNat n) = true →
      isSmallSlugChar (Char.ofNat n).toLower = true := by decide
  have hbasic : c.toNat < 128 := by
    simp only [isSlugChar, Text.isBasicLetter, Text.isBasicDigit, Bool.or_eq_true,
      Bool.and_eq_true, decide_eq_true_eq, beq_iff_eq] at h
    rcases h with ((⟨-, hle⟩ | ⟨-, hle⟩) | ⟨-, hle⟩) | rfl
    · exact Nat.lt_of_le_of_lt hle (by decide)
    · exact Nat.lt_of_le_of_lt hle (by decide)
    · exact Nat.lt_of_le_of_lt hle (by decide)
    · decide
  have hc := hall c.toNat hbasic
  rw [Char.ofNat_toNat] at hc
  exact hc h

theorem isSmallSlugChar_of_mem_slugOf {title : String} {c : Char}
    (h : c ∈ (slugOf title).toList) : isSmallSlugChar c = true := by
  rw [slugOf, String.toList_ofList, List.mem_map] at h
  obtain ⟨d, hd, rfl⟩ := h
  exact isSmallSlugChar_toLower (List.mem_filter.mp hd).2

theorem isSafe_anchor (title : String) : (anchor (slugOf title) (Text.escape title)).IsSafe where
  tag := nofun
  attributes := by
    have hslug {c : Char} (hc : isSmallSlugChar c = false) : c ∉ (slugOf title).toList :=
      fun hmem => Bool.false_ne_true (hc.symm.trans (isSmallSlugChar_of_mem_slugOf hmem))
    have hquote := hslug (c := '"') rfl
    have hopen := hslug (c := '<') rfl
    have hclose := hslug (c := '>') rfl
    intro value hvalue
    simp only [attributes, List.mem_cons, List.not_mem_nil, or_false] at hvalue
    rcases hvalue with rfl | rfl
    · simp [hquote, hopen, hclose]
    · exact ⟨hquote, hopen, hclose⟩
  slug := by
    rintro _ _ ⟨⟩ c hc
    exact isSmallSlugChar_of_mem_slugOf hc
  text := by
    rintro _ ⟨⟩
    exact Text.isRun_escape title

/-! ## Angle brackets -/

/-- How many angle brackets a fragment opens. -/
def brackets : Fragment → Nat
  | tag _ | lineBreak => 1
  | mark _ _ | anchor _ _ => 2
  | run _ => 0

def bracketsOf : List Fragment → Nat
  | [] => 0
  | f :: rest => f.brackets + bracketsOf rest

theorem count_written {f : Fragment} (h : f.IsSafe) :
    f.written.toList.count '<' = f.brackets := by
  cases f with
  | tag written =>
      have hone : ∀ t ∈ templateTags, t.toList.count '<' = 1 := by decide +kernel
      exact hone written (h.tag written rfl)
  | lineBreak => decide
  | mark title body =>
      have hstart : Listing.markStart.toList.count '<' = 1 := by decide +kernel
      have htitleEnd : Listing.titleEnd.toList.count '<' = 0 := by decide +kernel
      have hend : Listing.markEnd.toList.count '<' = 1 := by decide +kernel
      have htitle := List.count_eq_zero.mpr (h.attributes title List.mem_cons_self).2.1
      have hbody := List.count_eq_zero.mpr (Text.not_mem_of_isRun (h.text body rfl)).1
      simp only [written_mark, String.toList_append, List.count_append, brackets]
      omega
  | anchor slug body =>
      have hstart : "<a class=\"internal\" href=\"".toList.count '<' = 1 := by decide +kernel
      have hname : "\" data-page-name=\"".toList.count '<' = 0 := by decide +kernel
      have hview : "\" title=\"view\">".toList.count '<' = 0 := by decide +kernel
      have hend : "</a>".toList.count '<' = 1 := by decide +kernel
      obtain ⟨⟨-, hhref, -⟩, hattributes⟩ := List.forall_mem_cons.mp h.attributes
      have hhref := List.count_eq_zero.mpr hhref
      have hslug := List.count_eq_zero.mpr (hattributes slug List.mem_cons_self).2.1
      have hbody := List.count_eq_zero.mpr (Text.not_mem_of_isRun (h.text body rfl)).1
      simp only [String.toList_append, List.count_append] at hhref
      simp only [written_anchor, String.toList_append, List.count_append, brackets]
      omega
  | run text => exact List.count_eq_zero.mpr (Text.not_mem_of_isRun (h.text text rfl)).1

theorem count_writtenAll {fs : List Fragment} (h : ∀ f ∈ fs, f.IsSafe) :
    (writtenAll fs).toList.count '<' = bracketsOf fs := by
  induction fs with
  | nil => rfl
  | cons f fs ih =>
      obtain ⟨hf, hfs⟩ := List.forall_mem_cons.mp h
      rw [writtenAll_cons, String.toList_append, List.count_append, count_written hf, ih hfs,
        bracketsOf]

theorem bracketsOf_eq (fs : List Fragment) :
    bracketsOf fs = (fs.filterMap tag?).length + fs.count lineBreak
      + 2 * (fs.filterMap mark?).length + 2 * (fs.filterMap anchor?).length := by
  induction fs with
  | nil => rfl
  | cons f fs ih =>
      rw [bracketsOf, ih]
      cases f <;> simp [brackets, tag?, mark?, anchor?, List.filterMap_cons] <;> omega

end Fragment

end PageGrep
