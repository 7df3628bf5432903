/-
# What is listed of a directory

A system of files keeps at most one thing at a place, and each under a name that can be part of
a path (`Files.IsSound`).  What it lists of a directory are then the names of what is in it,
each once (`mem_namesIn_iff`, `nodup_namesIn`).  A path to a directory that goes on with one of
these names leads to what is there under the name, unless the path gets too long
(`locate_join`): this is how a program gets from a name that it was told to a file.
-/
import Mathlib.Data.List.Nodup
import PageGrep.Files.Basic
import PageGrep.Proofs.Program.Lines

namespace PageGrep

/-! ## Names -/

/-- Whether something may be kept under a name. -/
structure IsFileName (name : String) : Prop where
  nonempty : name ≠ ""
  notHere : name ≠ "."
  notUp : name ≠ ".."
  noSlash : '/' ∉ name.toList
  noNull : '\x00' ∉ name.toList
  short : name.utf8ByteSize ≤ Files.nameLimit

instance (name : String) : Decidable (IsFileName name) :=
  decidable_of_iff (name ≠ "" ∧ name ≠ "." ∧ name ≠ ".." ∧ '/' ∉ name.toList
      ∧ '\x00' ∉ name.toList ∧ name.utf8ByteSize ≤ Files.nameLimit)
    ⟨fun ⟨h₁, h₂, h₃, h₄, h₅, h₆⟩ => ⟨h₁, h₂, h₃, h₄, h₅, h₆⟩,
      fun h => ⟨h.nonempty, h.notHere, h.notUp, h.noSlash, h.noNull, h.short⟩⟩

theorem Path.ofText_fileName {name : String} (h : IsFileName name) :
    Path.ofText name = ⟨0, [name]⟩ := by
  have hslashes : frontSlashes name.toList = 0 := by
    have hnone : name.toList.takeWhile (· == '/') = [] := by
      cases hname : name.toList with
      | nil => rfl
      | cons c rest =>
          have hc : ¬ (c == '/') = true := by
            intro heq
            exact h.noSlash (by rw [hname, beq_iff_eq.mp heq]; exact List.mem_cons_self)
          exact List.takeWhile_cons_of_neg hc
    rw [frontSlashes, hnone]
    rfl
  have hstep : isStep name.toList = true := by
    have hnonempty : name.toList ≠ [] := mt String.toList_eq_nil_iff.mp h.nonempty
    have hdot : name.toList ≠ ['.'] := by
      intro heq
      exact h.notHere (String.toList_injective (heq.trans (by decide)))
    simp [isStep, hnonempty, hdot]
  rw [ofText, hslashes, stepsOf, Text.cutAt_of_not_mem h.noSlash, List.filter_cons_of_pos hstep,
    List.filter_nil, List.map_singleton, String.ofList_toList]

theorem Path.join_fileName (path : Path) {name : String} (h : IsFileName name) :
    path.join name = { path with names := path.names ++ [name] } := by
  have hrelative : (Path.ofText name).isAbsolute = false := by
    rw [ofText_fileName h]
    rfl
  rw [join, if_neg (by simp [hrelative]), ofText_fileName h]

/-- The text of a path that goes on with a name ends in that name, after the same characters
whatever the name. -/
theorem Path.exists_text_append (path : Path) :
    ∃ before : String, ∀ name, Path.text { path with names := path.names ++ [name] }
      = before ++ name := by
  have hnames (names : List String) :
      ∃ before : String, ∀ name, "/".intercalate (names ++ [name]) = before ++ name := by
    induction names with
    | nil => exact ⟨"", fun name => by simp⟩
    | cons first rest ih =>
        obtain ⟨before, hbefore⟩ := ih
        refine ⟨first ++ "/" ++ before, fun name => ?_⟩
        obtain ⟨next, others, hcons⟩ := List.exists_cons_of_ne_nil
          (List.append_ne_nil_of_right_ne_nil rest (List.cons_ne_nil name []))
        rw [List.cons_append, hcons, String.intercalate_cons_cons, ← hcons, hbefore,
          String.append_assoc, String.append_assoc, String.append_assoc]
  obtain ⟨before, hbefore⟩ := hnames path.names
  refine ⟨String.ofList (List.replicate path.slashes '/') ++ before, fun name => ?_⟩
  rw [text]
  split
  · rename_i hnil
    exact absurd hnil (by simp)
  · rw [hbefore, String.append_assoc]

namespace Files

/-! ## Systems of files -/

/-- Whether files are as a system keeps them. -/
structure IsSound (files : Files) : Prop where
  /-- There is one thing at a place. -/
  places : (files.entries.map Prod.fst).Nodup
  /-- It is kept under names. -/
  names : ∀ entry ∈ files.entries, ∀ name ∈ entry.1, IsFileName name
  /-- What leads to the working directory is a directory. -/
  here : ∀ entry ∈ files.entries, entry.1.isPrefixOf files.here = true → entry.2 = .directory

instance (files : Files) : Decidable files.IsSound :=
  decidable_of_iff ((files.entries.map Prod.fst).Nodup
      ∧ (∀ entry ∈ files.entries, ∀ name ∈ entry.1, IsFileName name)
      ∧ ∀ entry ∈ files.entries, entry.1.isPrefixOf files.here = true → entry.2 = .directory)
    ⟨fun ⟨h₁, h₂, h₃⟩ => ⟨h₁, h₂, h₃⟩, fun h => ⟨h.places, h.names, h.here⟩⟩

def hasFile (files : Files) (place : Place) : Bool :=
  (files.at? place).any (· matches .octets _)

section Sound

variable {files : Files} {place : Place}

theorem at?_eq_octets_iff (h : files.IsSound) {bytes : List UInt8} :
    files.at? place = some (.octets bytes) ↔ (place, .octets bytes) ∈ files.entries := by
  constructor
  · intro hat
    rw [at?] at hat
    split at hat
    · nomatch hat
    · obtain ⟨⟨place', content⟩, hfind, hcontent⟩ := Option.map_eq_some_iff.mp hat
      obtain rfl : place' = place := by simpa using List.find?_some hfind
      obtain rfl : content = .octets bytes := hcontent
      exact List.mem_of_find?_eq_some hfind
  · intro hmem
    have hfree : ¬ place.isPrefixOf files.here = true :=
      fun hprefix => nomatch h.here _ hmem hprefix
    obtain ⟨entry, hfind⟩ : ∃ entry, files.entries.find? (·.1 == place) = some entry := by
      rw [← Option.isSome_iff_exists, List.find?_isSome]
      exact ⟨_, hmem, beq_self_eq_true place⟩
    have hplace : entry.1 = place := by simpa using List.find?_some hfind
    have hsame := List.inj_on_of_nodup_map h.places (List.mem_of_find?_eq_some hfind) hmem hplace
    rw [at?, if_neg hfree, hfind, hsame, Option.map_some]

theorem hasFile_iff :
    files.hasFile place = true ↔ ∃ bytes, files.at? place = some (.octets bytes) := by
  rw [hasFile, Option.any_eq_true]
  constructor
  · rintro ⟨content, hat, hkind⟩
    cases content with
    | octets bytes => exact ⟨bytes, hat⟩
    | directory => nomatch hkind
  · rintro ⟨bytes, hat⟩
    exact ⟨.octets bytes, hat, rfl⟩

theorem nameIn?_eq_some_iff {directory : Place} {name : String} :
    nameIn? directory place = some name ↔ place = directory ++ [name] := by
  constructor
  · intro hname
    rw [nameIn?] at hname
    split at hname
    · rename_i last hlast
      split at hname
      · rename_i hdirectory
        obtain rfl : last = name := Option.some.inj hname
        rw [← beq_iff_eq.mp hdirectory]
        obtain ⟨before, rfl⟩ := List.getLast?_eq_some_iff.mp hlast
        rw [List.dropLast_concat]
      · nomatch hname
    · nomatch hname
  · rintro rfl
    rw [nameIn?, List.getLast?_concat, List.dropLast_concat]
    simp

theorem mem_namesIn_iff {name : String} :
    name ∈ files.namesIn place ↔ place ++ [name] ∈ files.entries.map Prod.fst := by
  rw [namesIn, List.mem_filterMap]
  constructor
  · rintro ⟨other, hmem, hname⟩
    rwa [← nameIn?_eq_some_iff.mp hname]
  · intro hmem
    exact ⟨_, hmem, nameIn?_eq_some_iff.mpr rfl⟩

theorem nodup_namesIn (h : files.IsSound) (place : Place) : (files.namesIn place).Nodup := by
  refine h.places.filterMap fun other other' name hname hname' => ?_
  rw [nameIn?_eq_some_iff.mp hname, nameIn?_eq_some_iff.mp hname']

theorem isFileName_of_mem_namesIn (h : files.IsSound) {name : String}
    (hmem : name ∈ files.namesIn place) : IsFileName name := by
  obtain ⟨entry, hentry, hplace⟩ := List.mem_map.mp (mem_namesIn_iff.mp hmem)
  refine h.names entry hentry name ?_
  rw [hplace]
  exact List.mem_append_right place (List.mem_singleton_self name)

theorem mem_namesIn_of_hasFile (h : files.IsSound) {name : String}
    (hfile : files.hasFile (place ++ [name]) = true) : name ∈ files.namesIn place := by
  obtain ⟨bytes, hat⟩ := hasFile_iff.mp hfile
  exact mem_namesIn_iff.mpr (List.mem_map_of_mem ((at?_eq_octets_iff h).mp hat))

end Sound

/-! ## Directories -/

theorem follow_append (files : Files) (place : Place) (names names' : List String) :
    files.follow place (names ++ names')
      = (files.follow place names).bind fun place' => files.follow place' names' := by
  induction names generalizing place with
  | nil => rfl
  | cons name names ih =>
      rw [List.cons_append, follow, follow]
      split
      · rfl
      · rfl
      · split
        · rfl
        · exact ih _

/-- A path leads to the directory at a place. -/
structure HasDirectory (files : Files) (path : Path) (place : Place) : Prop where
  sound : files.IsSound
  locate : files.locate path = .ok place
  directory : files.at? place = some .directory

section Directory

variable {files : Files} {path : Path} {place : Place} {name : String}

theorem isOfKind_of_locate (kind : Content → Bool) (h : files.locate path = .ok place) :
    isOfKind kind files path = .ok ((files.at? place).any kind) := by
  cases hat : files.at? place with
  | none =>
      have hlook : files.look path = .error .notFound := by
        rw [look, h]
        simp only [bind, Except.bind, hat]
      rw [isOfKind, hlook, Option.any_none]
  | some content =>
      have hlook : files.look path = .ok content := by
        rw [look, h]
        simp only [bind, Except.bind, hat]
      rw [isOfKind, hlook, Option.any_some]

theorem isOfKind_of_long (kind : Content → Bool) (h : files.locate path = .error .nameTooLong) :
    isOfKind kind files path = .error ⟨.nameTooLong, path⟩ := by
  have hlook : files.look path = .error .nameTooLong := by
    rw [look, h]
    rfl
  rw [isOfKind, hlook]

theorem HasDirectory.isDirectory (h : files.HasDirectory path place) :
    files.isDirectory path = .ok true := by
  rw [Files.isDirectory, isOfKind_of_locate _ h.locate, h.directory]
  rfl

/-- A path that goes on with a name leads to what is under the name, if it can be followed. -/
theorem HasDirectory.locate_join (h : files.HasDirectory path place) (hname : IsFileName name) :
    files.locate (path.join name)
      = if pathLimit ≤ (path.join name).text.utf8ByteSize then .error .nameTooLong
        else .ok (place ++ [name]) := by
  have hlocate := h.locate
  rw [Files.locate] at hlocate ⊢
  split at hlocate
  · nomatch hlocate
  · rename_i hnull
    split at hlocate
    · nomatch hlocate
    · have hlast : files.follow place [name] = .ok (place ++ [name]) := by
        have hshort : ¬ nameLimit < name.utf8ByteSize := Nat.not_lt.mpr hname.short
        have hdown : ¬ (name == "..") = true := by simpa using hname.notUp
        simp only [follow, h.directory, if_neg hshort, if_neg hdown]
      have hnull' : ¬ (path.join name).names.any (fun name => name.toList.any (· == '\x00'))
          = true := by
        rw [Path.join_fileName path hname, List.any_append, Bool.or_eq_true, not_or]
        refine ⟨hnull, ?_⟩
        simpa using hname.noNull
      rw [if_neg hnull']
      congr 1
      rw [Path.join_fileName path hname]
      have habsolute : Path.isAbsolute { path with names := path.names ++ [name] }
          = path.isAbsolute := rfl
      rw [habsolute, follow_append, hlocate]
      exact hlast

/-- Whether there is a file under a name is told by its path, if it can be followed. -/
theorem HasDirectory.isFile_join (h : files.HasDirectory path place) (hname : IsFileName name) :
    files.isFile (path.join name)
      = if pathLimit ≤ (path.join name).text.utf8ByteSize then
          .error ⟨.nameTooLong, path.join name⟩
        else .ok (files.hasFile (place ++ [name])) := by
  have hlocate := h.locate_join hname
  by_cases hlong : pathLimit ≤ (path.join name).text.utf8ByteSize
  · rw [if_pos hlong] at hlocate ⊢
    exact isOfKind_of_long _ hlocate
  · rw [if_neg hlong] at hlocate ⊢
    exact isOfKind_of_locate _ hlocate

end Directory

end Files

end PageGrep
