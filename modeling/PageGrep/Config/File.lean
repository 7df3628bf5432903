/-
# Settings files

Settings are read from a file, laid over a file with defaults if there is one.  A file
that is itself the one with defaults stands alone.  Where there is no end to what is to be laid
over what, the settings cannot be had.
-/
import PageGrep.Config.Load
import PageGrep.Files.Basic

namespace PageGrep

/-- Why settings cannot be had. -/
inductive LoadError where
  | read (error : ReadError)
  | settings (error : SettingsError)
  | endless
deriving DecidableEq, Repr

def LoadError.message : LoadError → String
  | read error => error.message
  | settings error => error.message
  | endless => "maximum recursion depth exceeded in comparison"

namespace Config

/-- The file with defaults, where no other is named. -/
def defaultPath : Path := ⟨0, ["config", "default.yml"]⟩

/-- What a file states: a document, and the mapping that it stands for. -/
def statedIn (files : Files) (path : Path) : Except LoadError (Yaml.Document × Mapping) := do
  let text ← (files.readText path).mapError LoadError.read
  let document ← (Yaml.Document.ofText text).mapError fun fault => .settings (.text fault)
  let mapping ← (Mapping.ofValue document.value).mapError LoadError.settings
  return (document, mapping)

/-- The settings that a file states on its own. -/
def load (files : Files) (path : Path) : Except LoadError Config := do
  let (_, mapping) ← statedIn files path
  (checked mapping).mapError LoadError.settings

/-- The settings that a file states over one with defaults. -/
def loadOver (files : Files) (defaults path : Path) : Except LoadError Config := do
  let layered ← if path == defaults then .ok false
    else (files.isFile defaults).mapError fun error => .read (.file error)
  if layered then
    let (below, lower) ← statedIn files defaults
    let (above, upper) ← statedIn files path
    if below.isEndless above then throw .endless
    (checked (Mapping.layered lower upper)).mapError LoadError.settings
  else load files path

end Config

end PageGrep
