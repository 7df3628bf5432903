/-
# What is changed among files

An operation that makes directories adds directories where nothing was and leaves all else
as it is; one that writes a file changes what is at the place of that file.  So each comes
with the places that it writes to, and elsewhere there are the same files with the same
octets, and directories stay (`Files.ChangedAt`).  A path that could be followed before can
be followed afterwards, and leads to the same place (`follow_of_changedAt`).

A log writes to the files among its sinks and to no others (`changedAt_writeToFiles`).
-/
import PageGrep.Log.Sink

namespace PageGrep

namespace Files

/-! ## One place -/

section Put

variable {files : Files} {place other : Place}

theorem at?_put_of_ne (content : Content) (h : other ≠ place) :
    (files.put place content).at? other = files.at? other := by
  have hlast : [(place, content)].find? (fun entry => entry.1 == other) = none := by
    simp [Ne.symm h]
  have hothers : (files.entries.filter (·.1 != place)).find? (fun entry => entry.1 == other)
      = files.entries.find? (fun entry => entry.1 == other) := by
    rw [List.find?_filter]
    congr 1
    funext entry
    by_cases heq : entry.1 = other
    · simp [heq, h]
    · simp [heq]
  simp only [at?, put, List.find?_append, hothers, hlast, Option.or_none]

theorem at?_put_self (content : Content) (h : place.isPrefixOf files.here = false) :
    (files.put place content).at? place = some content := by
  have hothers : (files.entries.filter (·.1 != place)).find? (fun entry => entry.1 == place)
      = none := by
    rw [List.find?_eq_none]
    intro entry hmem heq
    exact (bne_iff_ne.mp (List.mem_filter.mp hmem).2) (beq_iff_eq.mp heq)
  simp [at?, put, h, List.find?_append, hothers]

theorem isPrefixOf_here_of_ne (h : files.at? place ≠ some .directory) :
    place.isPrefixOf files.here = false := by
  rw [← Bool.not_eq_true]
  intro hprefix
  exact h (by rw [at?, if_pos hprefix])

end Put

/-! ## Changes at some places -/

/-- Files after an operation that wrote to some places. -/
structure ChangedAt (written : Place → Prop) (before after : Files) : Prop where
  /-- The working directory is the same. -/
  here : after.here = before.here
  /-- Elsewhere there are the same files with the same octets. -/
  octets : ∀ place, ¬ written place → ∀ bytes,
    after.at? place = some (.octets bytes) ↔ before.at? place = some (.octets bytes)
  /-- Elsewhere there are the directories that were there. -/
  directory : ∀ place, ¬ written place →
    before.at? place = some .directory → after.at? place = some .directory

def nowhere : Place → Prop := fun _ => False

section ChangedAt

variable {written written' : Place → Prop} {a b c : Files}

theorem changedAt_refl (files : Files) : ChangedAt written files files :=
  ⟨rfl, fun _ _ _ => Iff.rfl, fun _ _ h => h⟩

theorem ChangedAt.trans (h : ChangedAt written a b) (h' : ChangedAt written b c) :
    ChangedAt written a c where
  here := h'.here.trans h.here
  octets place hplace bytes := (h'.octets place hplace bytes).trans (h.octets place hplace bytes)
  directory place hplace hdir := h'.directory place hplace (h.directory place hplace hdir)

theorem ChangedAt.mono (h : ChangedAt written a b) (hle : ∀ place, written place → written' place) :
    ChangedAt written' a b where
  here := h.here
  octets place hplace := h.octets place (mt (hle place) hplace)
  directory place hplace := h.directory place (mt (hle place) hplace)

theorem ChangedAt.of_nowhere (h : ChangedAt nowhere a b) : ChangedAt written a b :=
  h.mono fun _ => False.elim

theorem changedAt_put (files : Files) (place : Place) (content : Content) :
    ChangedAt (· = place) files (files.put place content) where
  here := rfl
  octets other hother bytes := by rw [at?_put_of_ne content hother]
  directory other hother hdir := by rwa [at?_put_of_ne content hother]

theorem changedAt_put_directory {files : Files} {place : Place} (h : files.at? place = none) :
    ChangedAt nowhere files (files.put place .directory) where
  here := rfl
  octets other _ bytes := by
    by_cases hother : other = place
    · have hnew : (files.put place .directory).at? place = some .directory :=
        at?_put_self .directory (isPrefixOf_here_of_ne (by simp [h]))
      simp [hother, hnew, h]
    · rw [at?_put_of_ne .directory hother]
  directory other _ hdir := by
    have hother : other ≠ place := by
      rintro rfl
      simp [h] at hdir
    rwa [at?_put_of_ne .directory hother]

/-! ## Paths -/

theorem follow_of_changedAt (h : ChangedAt written a b)
    (hfiles : ∀ place, written place → a.at? place ≠ some .directory)
    {from_ place : Place} {names : List String} (hfollow : a.follow from_ names = .ok place) :
    b.follow from_ names = .ok place := by
  induction names generalizing from_ with
  | nil => exact hfollow
  | cons name rest ih =>
      rw [follow] at hfollow ⊢
      cases hat : a.at? from_ with
      | none => simp [hat] at hfollow
      | some content =>
          cases content with
          | octets bytes => simp [hat] at hfollow
          | directory =>
              have hstays : b.at? from_ = some .directory :=
                h.directory from_ (fun hwritten => hfiles from_ hwritten hat) hat
              simp only [hat, hstays] at hfollow ⊢
              split at hfollow
              · nomatch hfollow
              · rename_i hshort
                rw [if_neg hshort]
                exact ih hfollow

theorem locate_of_changedAt (h : ChangedAt written a b)
    (hfiles : ∀ place, written place → a.at? place ≠ some .directory)
    {path : Path} {place : Place} (hlocate : a.locate path = .ok place) :
    b.locate path = .ok place := by
  rw [locate] at hlocate ⊢
  split at hlocate
  · nomatch hlocate
  · rename_i hnull
    rw [if_neg hnull]
    split at hlocate
    · nomatch hlocate
    · rename_i hshort
      rw [if_neg hshort, h.here]
      exact follow_of_changedAt h hfiles hlocate

theorem getLast?_of_follow {from_ place : Place} {names : List String} {name : String}
    (hfollow : a.follow from_ names = .ok place) (hlast : names.getLast? = some name)
    (hup : name ≠ "..") : place.getLast? = some name := by
  induction names generalizing from_ with
  | nil => nomatch hlast
  | cons first rest ih =>
      rw [follow] at hfollow
      split at hfollow
      · nomatch hfollow
      · nomatch hfollow
      · split at hfollow
        · nomatch hfollow
        · cases rest with
          | nil =>
              obtain rfl : first = name := by simpa using hlast
              rw [if_neg (by simpa using hup), follow] at hfollow
              rw [← Except.ok.inj hfollow, List.getLast?_concat]
          | cons next rest => exact ih hfollow (by simpa using hlast)

theorem getLast?_of_locate {path : Path} {place : Place} {name : String}
    (hlocate : a.locate path = .ok place) (hlast : path.names.getLast? = some name)
    (hup : name ≠ "..") : place.getLast? = some name := by
  rw [locate] at hlocate
  split at hlocate
  · nomatch hlocate
  · split at hlocate
    · nomatch hlocate
    · exact getLast?_of_follow hlocate hlast hup

end ChangedAt

/-! ## Directories and files -/

theorem changedAt_makeFrom (files : Files) (path : Path) (names : List String) :
    ChangedAt nowhere files (files.makeFrom path names).1 := by
  induction names generalizing files path with
  | nil => exact changedAt_refl files
  | cons name rest ih =>
      rw [makeFrom]
      split
      · exact changedAt_refl files
      · split
        · exact changedAt_refl files
        · exact ih files _
        · rename_i hnone
          exact (changedAt_put_directory hnone).trans (ih _ _)

theorem changedAt_makeDirectory (files : Files) (path : Path) :
    ChangedAt nowhere files (files.makeDirectory path).1 :=
  changedAt_makeFrom files _ _

theorem readOctets_eq_ok_iff {files : Files} {path : Path} {bytes : List UInt8} :
    files.readOctets path = .ok bytes ↔
      ∃ place, files.locate path = .ok place ∧ files.at? place = some (.octets bytes) := by
  rw [readOctets, look]
  cases hlocate : files.locate path with
  | error fault => simp [bind, Except.bind]
  | ok place =>
      cases hat : files.at? place with
      | none => simp [bind, Except.bind, hat]
      | some content => cases content <;> simp [bind, Except.bind, hat]

theorem readOctets_of_changedAt {written : Place → Prop} {a b : Files}
    (h : ChangedAt written a b) (hfiles : ∀ place, written place → a.at? place ≠ some .directory)
    {path : Path} {bytes : List UInt8} (hread : a.readOctets path = .ok bytes)
    (hspared : ∀ place, a.locate path = .ok place → ¬ written place) :
    b.readOctets path = .ok bytes := by
  obtain ⟨place, hlocate, hat⟩ := readOctets_eq_ok_iff.mp hread
  exact readOctets_eq_ok_iff.mpr ⟨place, locate_of_changedAt h hfiles hlocate,
    (h.octets place (hspared place hlocate) bytes).mpr hat⟩

/-- Writing a file changes what is at the place that its path leads to, and no directory is
there. -/
theorem changedAt_writeText {files after : Files} {path : Path} {text : String}
    (h : files.writeText path text = .ok after) :
    ∃ place, files.locate path = .ok place ∧ files.at? place ≠ some .directory ∧
      ChangedAt (· = place) files after ∧
      after.at? place = some (.octets (Text.Utf8.encode text)) := by
  rw [writeText, placeToWrite] at h
  cases hlocate : files.locate path with
  | error fault =>
      rw [hlocate] at h
      nomatch h
  | ok place =>
      rw [hlocate] at h
      dsimp only at h
      split at h
      · nomatch h
      · rename_i hfile
        cases h
        have hfile : files.at? place ≠ some .directory := fun heq => hfile (by rw [heq]; rfl)
        exact ⟨place, rfl, hfile, changedAt_put files place _,
          at?_put_self _ (isPrefixOf_here_of_ne hfile)⟩

theorem readOctets_of_writeText {files after : Files} {path : Path} {text : String}
    (h : files.writeText path text = .ok after) :
    after.readOctets path = .ok (Text.Utf8.encode text) := by
  obtain ⟨place, hlocate, hfile, hchanged, hat⟩ := changedAt_writeText h
  refine readOctets_eq_ok_iff.mpr ⟨place, locate_of_changedAt hchanged ?_ hlocate, hat⟩
  rintro _ rfl
  exact hfile

theorem changedAt_appendAt (files : Files) (place : Place) (text : String) :
    ChangedAt (· = place) files (files.appendAt place text) :=
  changedAt_put files place _

end Files

/-! ## Logs -/

namespace Log

/-- The place is that of a file among sinks. -/
def IsFileOf (sinks : List Sink) (place : Place) : Prop := Sink.file place ∈ sinks

theorem changedAt_writeToFiles (files : Files) (line : String) (sinks : List Sink) :
    Files.ChangedAt (IsFileOf sinks) files (writeToFiles files line sinks) := by
  induction sinks generalizing files with
  | nil => exact Files.changedAt_refl files
  | cons sink sinks ih =>
      have hrest (files : Files) :
          Files.ChangedAt (IsFileOf (sink :: sinks)) files (writeToFiles files line sinks) :=
        (ih files).mono fun _ => List.mem_cons_of_mem sink
      rw [writeToFiles, List.foldl_cons]
      cases sink with
      | console threshold => exact hrest files
      | file place =>
          refine ((Files.changedAt_appendAt files place line).mono ?_).trans (hrest _)
          rintro _ rfl
          exact List.mem_cons_self

theorem changedAt_write (log : Log) (files : Files) (now : Moment) (number : Int)
    (message : String) :
    Files.ChangedAt (IsFileOf log.sinks) files (log.write files now number message).1 := by
  refine (changedAt_writeToFiles files _ _).mono fun place hplace => ?_
  rw [IsFileOf, sinksFor] at hplace
  split at hplace
  · exact (List.mem_filter.mp hplace).1
  · nomatch hplace

/-- The log file is the only one that is made; without one there is none. -/
theorem changedAt_openFile (files : Files) (directory action : String) (now : Moment) :
    Files.ChangedAt (fun place => (openFile files directory action now).2 = .ok place) files
      (openFile files directory action now).1 := by
  rw [openFile]
  have hmade := Files.changedAt_makeDirectory files
    ((Path.ofText (if directory == "" then defaultDirectory else directory)).join action)
  split
  rename_i made error? heq
  rw [heq] at hmade
  cases error? with
  | some error => exact hmade.of_nowhere
  | none =>
      dsimp only
      split
      · exact hmade.of_nowhere
      · rename_i place hplace
        refine (hmade.of_nowhere).trans ((Files.changedAt_appendAt made place "").mono ?_)
        rintro _ rfl
        rfl

theorem changedAt_configure (old : Log) (files : Files) (level action : String) (toFile : Bool)
    (directory : String) (now : Moment) :
    Files.ChangedAt (IsFileOf (old.configure files level action toFile directory now).2.1.sinks)
      files (old.configure files level action toFile directory now).1 := by
  rw [configure]
  have hopened := changedAt_openFile files directory action now
  split
  · split
    · rename_i after place heq
      rw [heq] at hopened
      refine hopened.mono ?_
      rintro _ ⟨⟩
      exact List.mem_cons_of_mem _ List.mem_cons_self
    · rename_i after error heq
      rw [heq] at hopened
      exact hopened.mono nofun
  · exact Files.changedAt_refl files

theorem configure_of_not_toFile (old : Log) (files : Files) (level action directory : String)
    (now : Moment) :
    old.configure files level action false directory now
      = (files, ⟨min (Level.debug.number : Int) (Level.numberOf level),
          [.console (Level.numberOf level)]⟩, none) := by
  rw [configure]
  rfl

end Log

end PageGrep
