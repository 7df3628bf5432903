/-
# Settings from texts

The text of a settings file states a mapping; an empty file states nothing.
-/
import PageGrep.Config.Layers
import PageGrep.Config.Reading
import PageGrep.Yaml.Value

namespace PageGrep

/-- Why the text of a settings file is refused. -/
inductive SettingsError where
  | text (fault : Yaml.Fault)
  | config (error : ConfigError)
deriving DecidableEq, Repr

def SettingsError.message : SettingsError → String
  | text fault => fault.message
  | config error => error.message

def Mapping.ofValue : Value → Except SettingsError Mapping
  | .map pairs => .ok pairs
  | v => if v.isEmpty then .ok [] else .error (.config .noMapping)

def Mapping.ofText (text : String) : Except SettingsError Mapping := do
  Mapping.ofValue (← (Yaml.load text).mapError SettingsError.text)

def Config.checked (m : Mapping) : Except SettingsError Config :=
  (Config.ofMapping m).mapError SettingsError.config

end PageGrep
