/-
# Reading settings

Settings are read section by section with a type for each key, and then checked.  What
is wrong is told by the dotted name of its key.
-/
import PageGrep.Config.Basic
import PageGrep.Config.Value
import PageGrep.Text.Blank
import PageGrep.Text.Case

namespace PageGrep

/-- The type that a setting must have. -/
inductive Wanted where
  | object
  | string
  | boolean
  | integer
  | number
  | list
deriving DecidableEq, Repr

/-- Why settings are refused. -/
inductive ConfigError where
  | noMapping
  | missing (name : String)
  | wrongType (key : String) (wanted : Wanted)
  | numberTooLarge
  | unknownLevel
  | empty (key : String)
  | unknownSource (name : String)
  | notPositive (key : String)
  | noFormats
  | unknownFormat (name : String)
  | sourceNeeds (source : SourceName) (key : String)
deriving DecidableEq, Repr

/-- What is at fault in settings that are refused: the type of a value, a value of the right
type that is not allowed, or a number beyond the range of the format it is kept in. -/
inductive ConfigError.Kind where
  | wrongType
  | wrongValue
  | outOfRange
deriving DecidableEq, Repr

def ConfigError.kind : ConfigError → Kind
  | wrongType _ _ => .wrongType
  | numberTooLarge => .outOfRange
  | _ => .wrongValue

def Wanted.noun : Wanted → String
  | object => "an object"
  | string => "a string"
  | boolean => "a boolean"
  | integer => "an integer"
  | number => "a number"
  | list => "a list"

def sortedNames (names : List String) : List String := names.mergeSort fun a b => a ≤ b

def ConfigError.message : ConfigError → String
  | noMapping => "Config root must be a mapping/object"
  | missing name => "Missing required config: " ++ name
  | wrongType key wanted => key ++ " must be " ++ wanted.noun
  | numberTooLarge => "int too large to convert to float"
  | unknownLevel =>
    "log.level must be one of ["
      ++ ", ".intercalate ((sortedNames (Level.all.map Level.name)).map fun n => "'" ++ n ++ "'")
      ++ "]"
  | empty key => key ++ " must not be empty"
  | unknownSource name =>
    "Unsupported source in config.search.source: " ++ name ++ ". Allowed: "
      ++ ", ".intercalate (sortedNames (SourceName.all.map SourceName.name))
  | notPositive key => key ++ " must be positive"
  | noFormats => "output.formats must include at least one format"
  | unknownFormat name => "output.formats contains unknown format: " ++ name
  | sourceNeeds source key => "search.source=" ++ source.name ++ " requires " ++ key

namespace Setting

/-! ## Types -/

def string (key : String) : Value → Except ConfigError String
  | .str s => .ok s
  | _ => .error (.wrongType key .string)

/-- A text or nothing. -/
def string? (key : String) : Value → Except ConfigError (Option String)
  | .null => .ok none
  | v => some <$> string key v

def boolean (key : String) : Value → Except ConfigError Bool
  | .bool b => .ok b
  | _ => .error (.wrongType key .boolean)

def integer (key : String) : Value → Except ConfigError Int
  | .int i => .ok i
  | _ => .error (.wrongType key .integer)

/-- A number; a whole one must be within the range of the binary format. -/
def number (key : String) : Value → Except ConfigError Binary64
  | .float x => .ok x
  | .int i =>
    match Binary64.ofInt? i with
    | some x => .ok x
    | none => .error .numberTooLarge
  | _ => .error (.wrongType key .number)

/-- The items of a list, numbered from `index` on, which must be texts. -/
def stringsFrom (key : String) (index : Nat) : List Value → Except ConfigError (List String)
  | [] => .ok []
  | v :: vs => do
    let s ← string (key ++ "[" ++ toString index ++ "]") v
    return s :: (← stringsFrom key (index + 1) vs)

def strings (key : String) : Value → Except ConfigError (List String)
  | .list items => stringsFrom key 0 items
  | _ => .error (.wrongType key .list)

/-! ## Sections -/

/-- A section that may be missing, and is empty then. -/
def sectionOf (name : String) (m : Mapping) : Except ConfigError Mapping :=
  match m.named? name with
  | none | some .null => .ok []
  | some (.map pairs) => .ok pairs
  | some _ => .error (.wrongType name .object)

/-- A section that must be there. -/
def requiredSection (name : String) (m : Mapping) : Except ConfigError Mapping :=
  match m.named? name with
  | none | some .null => .error (.missing name)
  | _ => sectionOf name m

/-- A setting of a section, or the value it has when it is not stated. -/
def stated (name : String) (default : Value) (m : Mapping) : Value :=
  (m.named? name).getD default

end Setting

/-! ## Unchecked settings -/

/-- Settings of the right types that are still to be checked. -/
structure Draft where
  level : String
  toFile : Bool
  logDir : String
  program : String
  source : String
  maxWorkers : Int
  chained : Bool
  site : Option String
  timeout : Binary64
  pagesDir : Option String
  formats : List String
  baseDir : String
deriving Repr

open Setting in
/-- Reads every setting in turn: the log, the search, the sources, the output. -/
def Draft.ofMapping (m : Mapping) : Except ConfigError Draft := do
  let log ← sectionOf "log" m
  let level ← string "log.level" (stated "level" (.str "INFO") log)
  let toFile ← boolean "log.to_file" (stated "to_file" (.bool false) log)
  let logDir ← string "log.dir" (stated "dir" (.str "log") log)
  let search ← requiredSection "search" m
  let program ← string "search.program" (stated "program" (.str "") search)
  let source ← string "search.source" (stated "source" (.str "wiki") search)
  let maxWorkers ← integer "search.max_workers" (stated "max_workers" (.int 16) search)
  let chained ← boolean "search.chain_steps" (stated "chain_steps" (.bool false) search)
  let wiki ← sectionOf "wiki" m
  let folder ← sectionOf "local" m
  let site ← string? "wiki.site" (stated "site" .null wiki)
  let timeout ← number "wiki.timeout" (stated "timeout" (.int 30) wiki)
  let pagesDir ← string? "local.pages_dir" (stated "pages_dir" .null folder)
  let output ← sectionOf "output" m
  let formats ← strings "output.formats" (stated "formats" (.list [.str "console"]) output)
  let baseDir ← string "output.base_dir" (stated "base_dir" (.str "output") output)
  return {
    level := Text.upperText level, toFile, logDir, program
    source := Text.lowerText (Text.trim source)
    maxWorkers, chained, site, timeout, pagesDir
    formats := formats.map Text.lowerText
    baseDir }

/-! ## Checks -/

/-- Refuses a text of blanks. -/
def notBlank (key s : String) : Except ConfigError Unit :=
  if Text.isBlankText s then .error (.empty key) else .ok ()

def formatsOf : List String → Except ConfigError (List Format)
  | [] => .ok []
  | name :: names =>
    match Format.ofName? name with
    | some f => do return f :: (← formatsOf names)
    | none => .error (.unknownFormat name)

/-- Refuses a source without the setting it needs. -/
def checkSource (d : Draft) (source : SourceName) : Except ConfigError Unit :=
  match source with
  | .wiki =>
    if Text.isBlankText (d.site.getD "") then .error (.sourceNeeds .wiki "wiki.site") else .ok ()
  | .folder =>
    if Text.isBlankText (d.pagesDir.getD "") then
      .error (.sourceNeeds .folder "local.pages_dir")
    else .ok ()

/-- Checks every setting in turn, and last that the source has what it needs. -/
def Draft.check (d : Draft) : Except ConfigError Config := do
  let some level := Level.ofName? d.level | throw .unknownLevel
  notBlank "log.dir" d.logDir
  let some source := SourceName.ofName? d.source | throw (.unknownSource d.source)
  if d.maxWorkers ≤ 0 then throw (.notPositive "search.max_workers")
  if d.timeout.atMostZero then throw (.notPositive "wiki.timeout")
  if d.formats.isEmpty then throw .noFormats
  let formats ← formatsOf d.formats
  notBlank "output.base_dir" d.baseDir
  checkSource d source
  return {
    log := ⟨level, d.toFile, d.logDir⟩
    search := ⟨d.program, source, d.maxWorkers, d.chained⟩
    sources := ⟨d.site, d.timeout, d.pagesDir⟩
    output := ⟨d.baseDir, formats⟩ }

/-- The settings that a mapping states. -/
def Config.ofMapping (m : Mapping) : Except ConfigError Config := do
  (← Draft.ofMapping m).check

end PageGrep
