/-
# What reports leave among files

A report is put out in one form after the other, and each form other than the console writes
one file.  What was written for a form can be read in the end (`readOctets_of_put`): the
forms that come after it write other files, since the name of a file ends in the name of its
form (`names_outputPath`), and a form that comes twice writes the same again.
-/
import PageGrep.Proofs.Files.Changes
import PageGrep.Proofs.Program.Lines
import PageGrep.Report.Output

namespace PageGrep

/-! ## Names of files -/

theorem Text.exists_getLast?_cutAt {c : Char} {ending : List Char} (h : c ∉ ending)
    (cs : List Char) : ∃ stem, (cutAt c (cs ++ ending)).getLast? = some (stem ++ ending) := by
  induction cs with
  | nil => exact ⟨[], by rw [List.nil_append, cutAt_of_not_mem h]; rfl⟩
  | cons x rest ih =>
      obtain ⟨stem, hstem⟩ := ih
      obtain ⟨piece, pieces, hpieces⟩ := List.exists_cons_of_ne_nil
        (List.ne_nil_of_mem (List.mem_of_getLast? hstem))
      rw [List.cons_append, cutAt]
      split
      · rw [hpieces] at hstem ⊢
        exact ⟨stem, by rw [List.getLast?_cons_cons, hstem]⟩
      · rw [hpieces] at hstem ⊢
        cases pieces with
        | nil =>
            obtain rfl : piece = stem ++ ending := by simpa using hstem
            exact ⟨x :: stem, rfl⟩
        | cons next others => exact ⟨stem, by rwa [List.getLast?_cons_cons] at hstem ⊢⟩

namespace Format

/-- What the name of a file in this form ends in. -/
def ending (format : Format) : List Char := '.' :: format.name.toList

theorem slash_not_mem_ending (format : Format) : '/' ∉ format.ending := by
  cases format <;> decide

theorem eq_of_append_ending {f g : Format} {stem stem' : List Char}
    (h : stem ++ f.ending = stem' ++ g.ending) : f = g := by
  have hlast := congrArg List.getLast? h
  rw [List.getLast?_append, List.getLast?_append] at hlast
  cases f <;> cases g <;> first | rfl | exact absurd hlast (by simp [ending, name])

theorem isStep_append_ending (stem : List Char) (format : Format) :
    Path.isStep (stem ++ format.ending) = true := by
  have hlong : 1 < (stem ++ format.ending).length := by
    cases format <;> simp [ending, name]
  cases hname : stem ++ format.ending with
  | nil => simp [hname] at hlong
  | cons first rest =>
      rw [hname] at hlong
      cases rest with
      | nil => simp at hlong
      | cons _ _ => simp [Path.isStep]

theorem names_outputPath (format : Format) (base action : String) (now : Moment) :
    ∃ stem, (format.outputPath base action now).names.getLast?
      = some (String.ofList (stem ++ format.ending)) := by
  have htext : (action ++ "_" ++ now.resultStamp ++ "." ++ format.name).toList
      = (action ++ "_" ++ now.resultStamp).toList ++ format.ending := by
    rw [String.toList_append, String.toList_append, List.append_assoc]
    rfl
  obtain ⟨stem, hstem⟩ := Text.exists_getLast?_cutAt format.slash_not_mem_ending
    (action ++ "_" ++ now.resultStamp).toList
  have hstep := isStep_append_ending stem format
  have hsteps :
      (Path.ofText (action ++ "_" ++ now.resultStamp ++ "." ++ format.name)).names.getLast?
        = some (String.ofList (stem ++ format.ending)) := by
    obtain ⟨others, hothers⟩ := List.getLast?_eq_some_iff.mp hstem
    rw [Path.ofText, Path.stepsOf, htext, hothers, List.filter_append,
      List.filter_cons_of_pos hstep, List.map_append, List.filter_nil, List.map_singleton, List.getLast?_concat]
  refine ⟨stem, ?_⟩
  rw [outputPath, Path.join]
  split
  · exact hsteps
  · rw [List.getLast?_append, hsteps]
    rfl

theorem getLast?_of_locate_outputPath {files : Files} {format : Format} {base action : String}
    {now : Moment} {place : Place}
    (h : files.locate (format.outputPath base action now) = .ok place) :
    ∃ stem, place.getLast? = some (String.ofList (stem ++ format.ending)) := by
  obtain ⟨stem, hstem⟩ := names_outputPath format base action now
  refine ⟨stem, Files.getLast?_of_locate h hstem fun hup => ?_⟩
  have hlength := congrArg (fun name => name.toList.length) hup
  revert hlength
  cases format <;> simp [ending, name]

theorem ne_of_locate {files : Files} {f g : Format} {base action : String} {now : Moment}
    {place place' : Place} (hne : f ≠ g)
    (h : files.locate (f.outputPath base action now) = .ok place)
    (h' : files.locate (g.outputPath base action now) = .ok place') : place ≠ place' := by
  obtain ⟨stem, hstem⟩ := getLast?_of_locate_outputPath h
  obtain ⟨stem', hstem'⟩ := getLast?_of_locate_outputPath h'
  rintro rfl
  have hname := Option.some.inj (hstem.symm.trans hstem')
  exact hne (eq_of_append_ending (by simpa using congrArg String.toList hname))

end Format

namespace Report

/-! ## One form -/

/-- The text of a report in a form, if the form is written to a file. -/
def textIn? (report : Report) (action : String) : Format → Option String
  | .console => none
  | .json => some (report.toJson.text 2)
  | .html => some (report.toDocument action)

/-- What is logged when a report was put out in a form. -/
def putNotes (report : Report) (base action : String) (now : Moment) : Format → List Record
  | .console => report.lastNotes
  | format => [⟨.info, format.title ++ " saved to " ++ (format.outputPath base action now).text⟩]

section One

variable {report : Report} {base action : String} {now : Moment} {files : Files}

theorem writeFile_of_no_error {format : Format} {text : String}
    (h : (writeFile format base action now text files).error? = none) :
    ∃ after, (files.makeDirectory (format.directory base)).1.writeText
        (format.outputPath base action now) text = .ok after ∧
      writeFile format base action now text files
        = { files := after
            log := [⟨.info, format.title ++ " saved to "
              ++ (format.outputPath base action now).text⟩] } := by
  rw [writeFile] at h ⊢
  cases hmade : files.makeDirectory (format.directory base) with
  | mk made error? =>
      cases error? with
      | some error => simp [hmade] at h
      | none =>
          cases hwritten : made.writeText (format.outputPath base action now) text with
          | error error => simp [hmade, hwritten] at h
          | ok after => exact ⟨after, rfl, by simp [hwritten]⟩

/-- A file that was written can be read, and the files of other forms as before. -/
theorem readOctets_of_writeFile {format : Format} {text : String}
    (h : (writeFile format base action now text files).error? = none) :
    (writeFile format base action now text files).files.readOctets
        (format.outputPath base action now) = .ok (Text.Utf8.encode text) ∧
      ∀ other bytes, other ≠ format →
        files.readOctets (other.outputPath base action now) = .ok bytes →
        (writeFile format base action now text files).files.readOctets
          (other.outputPath base action now) = .ok bytes := by
  obtain ⟨after, hwritten, heq⟩ := writeFile_of_no_error h
  rw [heq]
  refine ⟨Files.readOctets_of_writeText hwritten, fun other bytes hother hread => ?_⟩
  have hmade := Files.readOctets_of_changedAt
    (Files.changedAt_makeDirectory files (format.directory base)) nofun hread nofun
  obtain ⟨place, hlocate, hfile, hchanged, -⟩ := Files.changedAt_writeText hwritten
  refine Files.readOctets_of_changedAt hchanged (by rintro _ rfl; exact hfile) hmade ?_
  exact fun place' hlocate' => Format.ne_of_locate hother hlocate' hlocate

/-- A form that was put out is logged, its file can be read, and the files of other forms as
before. -/
theorem putOne_of_no_error {format : Format}
    (h : (report.putOne base action now files format).error? = none) :
    (report.putOne base action now files format).log = report.putNotes base action now format ∧
      (∀ text, report.textIn? action format = some text →
        (report.putOne base action now files format).files.readOctets
          (format.outputPath base action now) = .ok (Text.Utf8.encode text)) ∧
      ∀ other bytes, other ≠ format →
        files.readOctets (other.outputPath base action now) = .ok bytes →
        (report.putOne base action now files format).files.readOctets
          (other.outputPath base action now) = .ok bytes := by
  have hwritten (format : Format) (text : String)
      (h : (writeFile format base action now text files).error? = none) :
      (writeFile format base action now text files).log
        = [⟨.info, format.title ++ " saved to " ++ (format.outputPath base action now).text⟩] := by
    obtain ⟨_, -, heq⟩ := writeFile_of_no_error h
    rw [heq]
  cases format with
  | console => exact ⟨rfl, nofun, fun _ _ _ => id⟩
  | json | html =>
      obtain ⟨hown, hothers⟩ := readOctets_of_writeFile h
      refine ⟨hwritten _ _ h, ?_, hothers⟩
      rintro _ ⟨⟩
      exact hown

end One

/-! ## One form after the other -/

/-- Every form that was put out is logged, and its file can be read in the end; so can a file
that held the same before. -/
theorem put_of_no_error (report : Report) (base action : String) (now : Moment)
    (formats : List Format) {files : Files}
    (h : (report.put base action now files formats).error? = none) :
    (report.put base action now files formats).log
        = formats.flatMap (report.putNotes base action now) ∧
      ∀ format text, report.textIn? action format = some text →
        format ∈ formats ∨
          files.readOctets (format.outputPath base action now) = .ok (Text.Utf8.encode text) →
        (report.put base action now files formats).files.readOctets
          (format.outputPath base action now) = .ok (Text.Utf8.encode text) := by
  induction formats generalizing files with
  | nil => exact ⟨rfl, fun _ _ _ hread => hread.resolve_left nofun⟩
  | cons first rest ih =>
      rw [put] at h ⊢
      cases hone : (report.putOne base action now files first).error? with
      | some error => simp [hone] at h
      | none =>
          simp only [hone] at h ⊢
          obtain ⟨hlog, hown, hothers⟩ := putOne_of_no_error hone
          obtain ⟨hlogs, hread⟩ := ih h
          refine ⟨by rw [hlog, hlogs, List.flatMap_cons], fun format text htext hheld => ?_⟩
          refine hread format text htext ?_
          by_cases hfirst : format = first
          · subst hfirst
            exact .inr (hown text htext)
          · rcases hheld with hmem | hheld
            · exact .inl ((List.mem_cons.mp hmem).resolve_left hfirst)
            · exact .inr (hothers format _ hfirst hheld)

end Report

end PageGrep
