/-
# Settings that were loaded

Settings come from a mapping, from the text of one file, or from two files of which one is laid
over the other.  Whichever way it was, there is one mapping in the end that they were accepted
from (`Config.IsLoaded.exists_mapping`), so whatever accepted settings are known to keep holds of
all settings that a command can run with.
-/
import PageGrep.Config.File
import PageGrep.Proofs.Config.Accepted

namespace PageGrep

namespace Config

/-- Settings were accepted, from a mapping or from files. -/
inductive IsLoaded (config : Config) : Prop
  | ofMapping {m : Mapping} : Config.ofMapping m = .ok config → IsLoaded config
  | ofFile {files : Files} {path : Path} : load files path = .ok config → IsLoaded config
  | ofFiles {files : Files} {defaults path : Path} :
      loadOver files defaults path = .ok config → IsLoaded config

variable {config : Config}

theorem ofMapping_of_checked {m : Mapping}
    (h : (checked m).mapError LoadError.settings = .ok config) :
    Config.ofMapping m = .ok config := by
  rwa [mapError_eq_ok_iff, checked, mapError_eq_ok_iff] at h

theorem exists_mapping_of_load {files : Files} {path : Path} (h : load files path = .ok config) :
    ∃ m, Config.ofMapping m = .ok config := by
  obtain ⟨⟨_, m⟩, -, hchecked⟩ := bind_eq_ok_iff.mp h
  exact ⟨m, ofMapping_of_checked hchecked⟩

theorem exists_mapping_of_loadOver {files : Files} {defaults path : Path}
    (h : loadOver files defaults path = .ok config) : ∃ m, Config.ofMapping m = .ok config := by
  rw [loadOver] at h
  split at h
  · exact exists_mapping_of_load h
  · obtain ⟨layered, -, h⟩ := bind_eq_ok_iff.mp h
    cases layered with
    | false => exact exists_mapping_of_load h
    | true =>
        obtain ⟨⟨below, lower⟩, -, h⟩ := bind_eq_ok_iff.mp h
        obtain ⟨⟨above, upper⟩, -, h⟩ := bind_eq_ok_iff.mp h
        dsimp only at h
        split at h
        · nomatch h
        · exact ⟨Mapping.layered lower upper, ofMapping_of_checked h⟩

theorem IsLoaded.exists_mapping (h : config.IsLoaded) :
    ∃ m, Config.ofMapping m = .ok config := by
  cases h with
  | ofMapping hm => exact ⟨_, hm⟩
  | ofFile hload => exact exists_mapping_of_load hload
  | ofFiles hload => exact exists_mapping_of_loadOver hload

theorem IsLoaded.exists_draft (h : config.IsLoaded) : ∃ d : Draft, d.Passes config := by
  obtain ⟨m, hm⟩ := h.exists_mapping
  obtain ⟨d, -, hpasses⟩ := exists_draft_of_ofMapping hm
  exact ⟨d, hpasses⟩

theorem IsLoaded.formats_ne_nil (h : config.IsLoaded) : config.output.formats ≠ [] := by
  obtain ⟨d, hpasses⟩ := h.exists_draft
  exact hpasses.formats_ne_nil

end Config

end PageGrep
