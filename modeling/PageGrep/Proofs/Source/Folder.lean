/-
# A directory of pages, listed and read

The slug of a file does without the ending `.json`, and a slug is looked up as it stands before
the ending is put back.  The two ways fit together unless the directory holds *twins*: a file
with a page, and a file under the same name with the ending (`HasTwins`).  With twins a slug
leads to the other file; without them each slug leads back to the file that it was taken from
(`readFor?_slugOf_iff`), so that no slug occurs twice and a search has every file in its turn.

Which file is read is a matter of places (`readFor?`), and what comes of it a matter of the
octets there (`page_of_readFor?`).  Names of subdirectories and of hidden files may be as they
like: a slug that is the name of a directory is not taken for a file.

A directory is listed by asking for each of its paths whether it leads to a file.  If one of
them is too long there is no listing at all (`pageFiles_of_long`), even if the path of the
directory itself can be followed.
-/
import Mathlib.Data.List.Perm.Basic
import PageGrep.Proofs.Except
import PageGrep.Proofs.Files.Listing
import PageGrep.Proofs.Search.Order
import PageGrep.Source.Folder

namespace PageGrep.Folder

/-! ## Slugs -/

def refOf (name : String) : PageRef := { slug := slugOf name }

@[simp] theorem slug_refOf (name : String) : (refOf name).slug = slugOf name := rfl

theorem slugOf_append {stem : String} (h : stem ≠ "") : slugOf (stem ++ ending) = stem := by
  have hstem : stem.toList ≠ [] := mt String.toList_eq_nil_iff.mp h
  have htake : (stem ++ ending).toList.take ((stem ++ ending).toList.length - ending.length)
      = stem.toList := by
    rw [String.toList_append, List.length_append, ← String.length_toList (s := ending),
      Nat.add_sub_cancel, List.take_left]
  simp only [slugOf, htake]
  rw [if_pos (by simp [hstem]), String.ofList_toList]

theorem slugOf_eq_or (name : String) :
    slugOf name = name ∨ slugOf name ≠ "" ∧ slugOf name ++ ending = name := by
  rw [slugOf]
  split
  · rename_i hends
    obtain ⟨hstem, hname⟩ := Bool.and_eq_true_iff.mp hends
    refine .inr ⟨?_, ?_⟩
    · simpa using hstem
    · apply String.toList_injective
      rw [String.toList_append, String.toList_ofList]
      exact (beq_iff_eq.mp hname).symm
  · exact .inl rfl

theorem isVisible_append {stem : String} (h : stem ≠ "") (rest : String) :
    isVisible (stem ++ rest) = isVisible stem := by
  obtain ⟨c, cs, hcons⟩ := List.exists_cons_of_ne_nil (mt String.toList_eq_nil_iff.mp h)
  rw [isVisible, isVisible, String.toList_append, hcons]
  rfl

theorem isFileName_of_append {stem : String} (h : IsFileName (stem ++ ending))
    (hstem : stem ≠ "") (hvisible : isVisible (stem ++ ending) = true) : IsFileName stem := by
  rw [isVisible_append hstem] at hvisible
  refine ⟨hstem, ?_, ?_, ?_, ?_, ?_⟩
  · rintro rfl
    nomatch hvisible
  · rintro rfl
    nomatch hvisible
  · exact fun hmem => h.noSlash (by
      rw [String.toList_append]
      exact List.mem_append_left _ hmem)
  · exact fun hmem => h.noNull (by
      rw [String.toList_append]
      exact List.mem_append_left _ hmem)
  · exact Nat.le_trans (by rw [String.utf8ByteSize_append]; exact Nat.le_add_right _ _) h.short

/-! ## Files with pages -/

def isPage (files : Files) (place : Place) (name : String) : Bool :=
  files.hasFile (place ++ [name]) && isVisible name

theorem isPage_iff {files : Files} {place : Place} {name : String} :
    isPage files place name = true
      ↔ files.hasFile (place ++ [name]) = true ∧ isVisible name = true :=
  Bool.and_eq_true_iff

/-- Some names are those of the files with pages in a directory, each once. -/
structure ArePages (files : Files) (place : Place) (names : List String) : Prop where
  nodup : names.Nodup
  mem_iff : ∀ name, name ∈ names ↔ isPage files place name = true

/-- Whether there are files under a name with a page and under this name with the ending. -/
def HasTwins (files : Files) (place : Place) : Prop :=
  ∃ name, isPage files place name = true ∧ files.hasFile (place ++ [name ++ ending]) = true

/-- Whether a path can be followed that leads on to a name. -/
def IsWithin (path : Path) (name : String) : Prop :=
  (path.join name).text.utf8ByteSize < Files.pathLimit

/-- Whether the paths to all that is in a directory can be followed. -/
def Fits (files : Files) (path : Path) (place : Place) : Prop :=
  ∀ name ∈ files.namesIn place, IsWithin path name

instance (path : Path) (name : String) : Decidable (IsWithin path name) :=
  inferInstanceAs (Decidable (_ < _))

instance (files : Files) (path : Path) (place : Place) : Decidable (Fits files path place) :=
  inferInstanceAs (Decidable (∀ name ∈ files.namesIn place, IsWithin path name))

/-- The place of the file that is read for a slug. -/
def readFor? (files : Files) (path : Path) (slug : String) : Option Place :=
  (fileOf files path slug).toOption.bind fun file => (files.locate file).toOption

def pageIn (slug : String) (bytes : List UInt8) : Except SourceError Page := do
  let text ← (Text.readText bytes).mapError fun fault => .read (.encoding fault)
  let payload ← (Json.parse text).mapError .json
  (Page.ofJson slug payload).mapError .malformed

/-- What comes of a slug is told by the octets of the file that is read for it. -/
theorem page_of_readFor? {files : Files} {path : Path} {slug : String} {place : Place}
    {bytes : List UInt8} (hread : readFor? files path slug = some place)
    (hbytes : files.at? place = some (.octets bytes)) :
    page files path slug = pageIn slug bytes := by
  obtain ⟨file, hfile, hlocate⟩ := Option.bind_eq_some_iff.mp hread
  have hlook : files.look file = .ok (.octets bytes) := by
    rw [Files.look, eq_ok_of_toOption hlocate]
    simp only [Except.bind, bind, hbytes]
  have hoctets : files.readOctets file = .ok bytes := by rw [Files.readOctets, hlook]
  have htext : files.readText file = (Text.readText bytes).mapError ReadError.encoding := by
    rw [Files.readText, hoctets]
    rfl
  rw [page, eq_ok_of_toOption hfile, pageIn]
  simp only [htext, Except.mapError, bind, Except.bind]
  cases Text.readText bytes with
  | error _ => rfl
  | ok _ => rfl

section Directory

variable {files : Files} {path : Path} {place : Place}

theorem mem_namesIn_of_isPage (h : files.HasDirectory path place) {name : String}
    (hpage : isPage files place name = true) : name ∈ files.namesIn place :=
  Files.mem_namesIn_of_hasFile h.sound (isPage_iff.mp hpage).1

theorem isFile_of_isWithin (h : files.HasDirectory path place) {name : String}
    (hname : IsFileName name) (hwithin : IsWithin path name) :
    files.isFile (path.join name) = .ok (files.hasFile (place ++ [name])) := by
  rw [h.isFile_join hname, if_neg (Nat.not_le.mpr hwithin)]

theorem locate_of_isWithin (h : files.HasDirectory path place) {name : String}
    (hname : IsFileName name) (hwithin : IsWithin path name) :
    files.locate (path.join name) = .ok (place ++ [name]) := by
  rw [h.locate_join hname, if_neg (Nat.not_le.mpr hwithin)]

/-! ## The listing -/

theorem pageFiles_of_fits (h : files.HasDirectory path place) {names : List String}
    (hnames : ∀ name ∈ names, IsFileName name ∧ IsWithin path name) :
    pageFiles files path names = .ok (names.filter (isPage files place)) := by
  induction names with
  | nil => rfl
  | cons name rest ih =>
      obtain ⟨hname, hwithin⟩ := hnames name List.mem_cons_self
      have hrest := ih fun other hmem => hnames other (List.mem_cons_of_mem _ hmem)
      rw [pageFiles, isFile_of_isWithin h hname hwithin, hrest, List.filter_cons]
      rfl

theorem pageFiles_of_long (h : files.HasDirectory path place) {names : List String}
    (hnames : ∀ name ∈ names, IsFileName name) (hlong : ∃ name ∈ names, ¬ IsWithin path name) :
    ∃ name ∈ names, ¬ IsWithin path name ∧
      pageFiles files path names = .error ⟨.nameTooLong, path.join name⟩ := by
  induction names with
  | nil => nomatch hlong
  | cons name rest ih =>
      have hname := hnames name List.mem_cons_self
      by_cases hwithin : IsWithin path name
      · have hlong' : ∃ other ∈ rest, ¬ IsWithin path other := by
          obtain ⟨other, hmem, hother⟩ := hlong
          rcases List.mem_cons.mp hmem with rfl | hmem
          · exact absurd hwithin hother
          · exact ⟨other, hmem, hother⟩
        obtain ⟨other, hmem, hother, herror⟩ :=
          ih (fun other hmem => hnames other (List.mem_cons_of_mem _ hmem)) hlong'
        refine ⟨other, List.mem_cons_of_mem _ hmem, hother, ?_⟩
        rw [pageFiles, isFile_of_isWithin h hname hwithin, herror]
        rfl
      · refine ⟨name, List.mem_cons_self, hwithin, ?_⟩
        rw [pageFiles, h.isFile_join hname, if_pos (Nat.not_lt.mp hwithin)]
        rfl

theorem directory_of_sorted (h : files.HasDirectory path place) {names : List String}
    (hsorted : sortedFiles files path place = .ok names) :
    directory files path = .ok (names.map fun name => .ok (refOf name)) := by
  simp only [directory, h.isDirectory, h.locate, hsorted, refOf]

theorem directory_of_unsorted (h : files.HasDirectory path place) {error : FileError}
    (hsorted : sortedFiles files path place = .error error) :
    directory files path = .error (.read (.file error)) := by
  simp only [directory, h.isDirectory, h.locate, hsorted]

theorem sortedFiles_of_fits (h : files.HasDirectory path place) (hfits : Fits files path place) :
    ∃ names, ArePages files place names ∧ sortedFiles files path place = .ok names := by
  have hperm := (files.namesIn place).mergeSort_perm fun a b => decide (a ≤ b)
  have hlisted : sortedFiles files path place = .ok _ := pageFiles_of_fits h fun name hmem =>
    have hin := hperm.mem_iff.mp hmem
    ⟨Files.isFileName_of_mem_namesIn h.sound hin, hfits name hin⟩
  refine ⟨_, ⟨?_, fun name => ?_⟩, hlisted⟩
  · exact (hperm.nodup_iff.mpr (Files.nodup_namesIn h.sound place)).filter _
  · rw [List.mem_filter, hperm.mem_iff, and_iff_right_iff_imp]
    exact fun hpage => mem_namesIn_of_isPage h hpage

theorem directory_of_fits (h : files.HasDirectory path place) (hfits : Fits files path place) :
    ∃ names, ArePages files place names ∧
      directory files path = .ok (names.map fun name => .ok (refOf name)) := by
  obtain ⟨names, hpages, hsorted⟩ := sortedFiles_of_fits h hfits
  exact ⟨names, hpages, directory_of_sorted h hsorted⟩

theorem directory_of_not_fits (h : files.HasDirectory path place)
    (hfits : ¬ Fits files path place) :
    ∃ name ∈ files.namesIn place, ¬ IsWithin path name ∧
      directory files path = .error (.read (.file ⟨.nameTooLong, path.join name⟩)) := by
  have hperm := (files.namesIn place).mergeSort_perm fun a b => decide (a ≤ b)
  obtain ⟨long, hmem, hlong⟩ : ∃ name ∈ files.namesIn place, ¬ IsWithin path name := by
    simpa [Fits] using hfits
  obtain ⟨name, hname, hwithin, herror⟩ := pageFiles_of_long h
    (fun name hmem => Files.isFileName_of_mem_namesIn h.sound (hperm.mem_iff.mp hmem))
    ⟨long, hperm.mem_iff.mpr hmem, hlong⟩
  exact ⟨name, hperm.mem_iff.mp hname, hwithin, directory_of_unsorted h herror⟩

/-! ## The way back -/

variable {name : String}

theorem isFileName_of_isPage (h : files.HasDirectory path place)
    (hpage : isPage files place name = true) : IsFileName name :=
  Files.isFileName_of_mem_namesIn h.sound (mem_namesIn_of_isPage h hpage)

theorem isWithin_of_append {stem : String} (hstem : IsFileName stem)
    (hname : IsFileName (stem ++ ending)) (h : IsWithin path (stem ++ ending)) :
    IsWithin path stem := by
  obtain ⟨before, htext⟩ := path.exists_text_append
  rw [IsWithin, Path.join_fileName path hname, htext, ← String.append_assoc,
    String.utf8ByteSize_append] at h
  rw [IsWithin, Path.join_fileName path hstem, htext]
  exact Nat.lt_of_le_of_lt (Nat.le_add_right _ _) h

/-- A slug leads to the file under the slug if there is one, and else back to the file that it
was taken from. -/
theorem readFor?_slugOf (h : files.HasDirectory path place)
    (hpage : isPage files place name = true) (hwithin : IsWithin path name) :
    readFor? files path (slugOf name)
      = some (place ++ [if files.hasFile (place ++ [slugOf name]) then slugOf name else name]) := by
  obtain ⟨hfile, hvisible⟩ := isPage_iff.mp hpage
  have hname := isFileName_of_isPage h hpage
  have hlocate := locate_of_isWithin h hname hwithin
  rcases slugOf_eq_or name with hslug | ⟨hnonempty, hslug⟩
  · have hof : fileOf files path name = .ok (path.join name) := by
      rw [fileOf, isFile_of_isWithin h hname hwithin, hfile]
      rfl
    rw [hslug, readFor?, hof, ite_self]
    simp only [Except.toOption, Option.bind_some, hlocate]
  · generalize slugOf name = stem at hnonempty hslug ⊢
    subst hslug
    have hstem := isFileName_of_append hname hnonempty hvisible
    have hwithin' := isWithin_of_append hstem hname hwithin
    have hof : fileOf files path stem
        = .ok (path.join (if files.hasFile (place ++ [stem]) then stem else stem ++ ending)) := by
      rw [fileOf, isFile_of_isWithin h hstem hwithin']
      cases files.hasFile (place ++ [stem]) with
      | true => rfl
      | false => rfl
    have hlocate' := locate_of_isWithin h hstem hwithin'
    rw [readFor?, hof]
    cases files.hasFile (place ++ [stem]) with
    | true => simp [Except.toOption, hlocate']
    | false => simp [Except.toOption, hlocate]

/-- Slugs lead back to their files just if there are no twins. -/
theorem readFor?_slugOf_iff (h : files.HasDirectory path place) (hfits : Fits files path place) :
    (∀ name, isPage files place name = true →
      readFor? files path (slugOf name) = some (place ++ [name])) ↔ ¬ HasTwins files place := by
  have hread {name : String} (hpage : isPage files place name = true) :=
    readFor?_slugOf h hpage (hfits name (mem_namesIn_of_isPage h hpage))
  constructor
  · rintro hback ⟨name, hpage, hother⟩
    have hnonempty := (isFileName_of_isPage h hpage).nonempty
    have hpage' : isPage files place (name ++ ending) = true := by
      refine isPage_iff.mpr ⟨hother, ?_⟩
      rw [isVisible_append hnonempty]
      exact (isPage_iff.mp hpage).2
    have htwin := hread hpage'
    rw [hback _ hpage', slugOf_append hnonempty, if_pos (isPage_iff.mp hpage).1] at htwin
    have hsame : name ++ ending = name := by simpa using htwin
    have hsizes := congrArg String.length hsame
    rw [String.length_append] at hsizes
    have hending : ending.length ≠ 0 := by decide
    omega
  · intro hnone name hpage
    rw [hread hpage]
    rcases slugOf_eq_or name with hslug | ⟨hnonempty, hslug⟩
    · rw [hslug, ite_self]
    · -- a file under the slug would be the twin
      rw [if_neg]
      intro hfile
      obtain ⟨hother, hvisible⟩ := isPage_iff.mp hpage
      rw [← hslug] at hother
      rw [← hslug, isVisible_append hnonempty] at hvisible
      exact hnone ⟨slugOf name, isPage_iff.mpr ⟨hfile, hvisible⟩, hother⟩

end Directory

/-! ## A directory as a source -/

/-- Of the files under some names each has a slug of its own, and a search reads it once. -/
structure ReadsEachOnce (files : Files) (path : Path) (place : Place) (names : List String) :
    Prop where
  /-- No slug occurs twice. -/
  slugs : (names.map slugOf).Nodup
  /-- The page under a slug is told by the octets of the file that the slug was taken from. -/
  pages : ∀ name ∈ names,
    page files path (slugOf name) = pageIn (slugOf name) (files.octetsAt (place ++ [name]))
  /-- A search that is not cancelled has each file once, reads that file when its turn comes,
  and comes to each turn unless asking its program of a page breaks down. -/
  turns : ∀ (search : Search) (program : Program) (arrange : List PageRef → List PageRef),
    1 ≤ search.maxWorkers →
    (arrange (source files path).refs).Perm (source files path).refs →
    ∃ turns : List String, turns.Perm names ∧
      (arrange (source files path).refs).map (fun ref => readFor? files path ref.slug)
        = turns.map (fun name => some (place ++ [name])) ∧
      (turns ≠ [] → search.Accounts (source files path) program turns.length
        (search.reached (source files path) program (turns.map refOf))
        (search.run (source files path) program arrange none)) ∧
      (search.Answers (source files path) program (turns.map refOf) →
        search.reached (source files path) program (turns.map refOf) = turns.map refOf)

theorem keepsSlugs_source (files : Files) (path : Path) : (source files path).KeepsSlugs := by
  intro slug read hpage
  have hpage' : page files path slug = .ok read := hpage
  rw [page] at hpage'
  obtain ⟨file, -, hpage'⟩ := bind_eq_ok_iff.mp hpage'
  obtain ⟨text, -, hpage'⟩ := bind_eq_ok_iff.mp hpage'
  obtain ⟨payload, -, hpage'⟩ := bind_eq_ok_iff.mp hpage'
  exact slug_of_ofJson_eq_ok (mapError_eq_ok_iff.mp hpage')

section Directory

variable {files : Files} {path : Path} {place : Place} {names : List String}

theorem refs_map_refOf (names : List String) :
    Directory.refs (names.map fun name => .ok (refOf name)) = names.map refOf := by
  rw [Directory.refs, List.filterMap_map]
  exact congrFun List.filterMap_eq_map names

theorem refs_source
    (hlisted : directory files path = .ok (names.map fun name => .ok (refOf name))) :
    (source files path).refs = names.map refOf := by
  have hdirectory : (source files path).directory = directory files path := rfl
  simp only [Source.refs, hdirectory, hlisted, refs_map_refOf]

theorem readsEachOnce_of_readFor? (hpages : ArePages files place names)
    (hlisted : directory files path = .ok (names.map fun name => .ok (refOf name)))
    (hback : ∀ name ∈ names, readFor? files path (slugOf name) = some (place ++ [name])) :
    ReadsEachOnce files path place names where
  slugs := by
    refine hpages.nodup.map_on fun name hmem name' hmem' heq => ?_
    have hplaces := hback name' hmem'
    rw [← heq, hback name hmem] at hplaces
    simpa using hplaces
  pages := by
    intro name hmem
    have hfile := (isPage_iff.mp ((hpages.mem_iff name).mp hmem)).1
    obtain ⟨bytes, hat⟩ := Files.hasFile_iff.mp hfile
    rw [page_of_readFor? (hback name hmem) hat, Files.octetsAt, hat]
  turns := by
    intro search program arrange hworkers horder
    have hrefs := refs_source hlisted
    -- the places in their order come from files in some order
    obtain ⟨turns, hturns, hperm⟩ :
        ∃ turns : List String, arrange (source files path).refs = turns.map refOf ∧
          turns.Perm names := by
      have hmapped : (arrange (source files path).refs).Perm (names.map refOf) :=
        horder.trans (List.Perm.of_eq hrefs)
      exact (congrFun (congrFun (List.eq_map_comp_perm refOf) _) _).mpr hmapped
    refine ⟨turns, hperm, ?_, fun hsome => ?_, Search.Answers.reached⟩
    · rw [hturns, List.map_map]
      refine List.map_congr_left fun name hmem => ?_
      rw [Function.comp_apply, slug_refOf, hback name (hperm.mem_iff.mp hmem)]
    · have hrefs' : (source files path).refs ≠ [] := by
        rw [hrefs]
        intro hnil
        exact hsome (List.eq_nil_of_length_eq_zero
          (by rw [hperm.length_eq, List.map_eq_nil_iff.mp hnil]; rfl))
      have htotal : turns.length = (source files path).refs.length := by
        rw [← horder.length_eq, hturns, List.length_map]
      rw [htotal, ← hturns]
      exact accounts_run search program (keepsSlugs_source files path) hworkers horder hrefs'

/-- **Slugs lead back to their files just if there are no twins.**  A directory lists a slug for
each file with a page and nothing else, unless the path to something in it is too long to be
followed; then it lists nothing.  Each slug leads back to the file that it was taken from if and
only if no file with a page has a twin under its name with the ending.  Then no slug occurs
twice, and a search reads each file once. -/
theorem slugs_lead_back (h : files.HasDirectory path place) :
    (¬ Fits files path place → ∃ name ∈ files.namesIn place, ¬ IsWithin path name ∧
      directory files path = .error (.read (.file ⟨.nameTooLong, path.join name⟩))) ∧
    (Fits files path place → ∃ names, ArePages files place names ∧
      directory files path = .ok (names.map fun name => .ok (refOf name)) ∧
      ((∀ name ∈ names, readFor? files path (slugOf name) = some (place ++ [name]))
        ↔ ¬ HasTwins files place) ∧
      (¬ HasTwins files place → ReadsEachOnce files path place names)) := by
  refine ⟨directory_of_not_fits h, fun hfits => ?_⟩
  obtain ⟨names, hpages, hlisted⟩ := directory_of_fits h hfits
  have hiff : (∀ name ∈ names, readFor? files path (slugOf name) = some (place ++ [name]))
      ↔ ¬ HasTwins files place := by
    rw [← readFor?_slugOf_iff h hfits]
    exact forall_congr' fun name => imp_congr_left (hpages.mem_iff name)
  exact ⟨names, hpages, hlisted, hiff,
    fun hnone => readsEachOnce_of_readFor? hpages hlisted (hiff.mpr hnone)⟩

/-- A file without the ending, a file with it, a hidden file, and a directory under the slug of
one of them. -/
theorem slugs_lead_back_beside_directory :
    let files : Files := { entries := [
      (["pages"], .directory), (["pages", "b"], .octets [123, 125]),
      (["pages", "a.json"], .octets [123, 125]), (["pages", ".a"], .octets []),
      (["pages", "a"], .directory)] }
    let path : Path := ⟨0, ["pages"]⟩
    files.HasDirectory path ["pages"] ∧ Fits files path ["pages"] ∧ ¬ HasTwins files ["pages"] ∧
      ∃ names, ArePages files ["pages"] names ∧
        directory files path = .ok (names.map fun name => .ok (refOf name)) ∧
        readFor? files path "a" = some ["pages", "a.json"] ∧
        ReadsEachOnce files path ["pages"] names := by
  intro files path
  have hdirectory : files.HasDirectory path ["pages"] :=
    ⟨by decide +kernel, by decide +kernel, by decide +kernel⟩
  have hfits : Fits files path ["pages"] := by decide +kernel
  have hnone : ¬ HasTwins files ["pages"] := by
    rintro ⟨name, hpage, hother⟩
    have hmem := mem_namesIn_of_isPage hdirectory hpage
    have htwins : ∀ name ∈ files.namesIn ["pages"],
        files.hasFile (["pages"] ++ [name ++ ending]) = true →
          isPage files ["pages"] name = false := by
      decide +kernel
    exact Bool.false_ne_true ((htwins name hmem hother).symm.trans hpage)
  obtain ⟨names, hpages, hlisted, hiff, hreads⟩ := (slugs_lead_back hdirectory).2 hfits
  have hback := hiff.mpr hnone "a.json" ((hpages.mem_iff _).mpr (by decide +kernel))
  have hslug : slugOf "a.json" = "a" := by decide +kernel
  rw [hslug] at hback
  exact ⟨hdirectory, hfits, hnone, names, hpages, hlisted, hback, hreads hnone⟩

/-- A directory that is there, with a file whose path is too long although the path of the
directory is not: nothing is listed of it. -/
theorem nothing_listed_past_the_limit :
    let dir := String.ofList (List.replicate 60 'p')
    let path : Path := ⟨0, dir :: (List.replicate 63 ["..", dir]).flatten⟩
    let files : Files := { entries := [([dir], .directory), ([dir, "page"], .octets [123, 125])] }
    files.HasDirectory path [dir] ∧ isPage files [dir] "page" = true ∧
      directory files path = .error (.read (.file ⟨.nameTooLong, path.join "page"⟩)) ∧
      ¬ ∃ names, ArePages files [dir] names ∧
        directory files path = .ok (names.map fun name => .ok (refOf name)) := by
  intro dir path files
  have hdirectory : files.HasDirectory path [dir] :=
    ⟨by decide +kernel, by decide +kernel, by decide +kernel⟩
  have hnames : files.namesIn [dir] = ["page"] := by decide +kernel
  have hfits : ¬ Fits files path [dir] := by
    rw [Fits, hnames]
    decide +kernel
  obtain ⟨name, hmem, -, hlisted⟩ := directory_of_not_fits hdirectory hfits
  obtain rfl : name = "page" := by simpa [hnames] using hmem
  refine ⟨hdirectory, by decide +kernel, hlisted, ?_⟩
  rintro ⟨names, -, hnames⟩
  rw [hlisted] at hnames
  nomatch hnames

end Directory

end PageGrep.Folder
