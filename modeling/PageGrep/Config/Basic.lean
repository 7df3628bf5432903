/-
# Settings

The settings of a search and of what surrounds it: the log, the program and the source
of the pages, how the sources are reached, and where the results go.
-/
import PageGrep.Log.Level
import PageGrep.Number.Shortest

namespace PageGrep

/-- Where pages come from. -/
inductive SourceName where
  | wiki
  | folder
deriving DecidableEq, Repr

/-- A form in which results are put out. -/
inductive Format where
  | console
  | json
  | html
deriving DecidableEq, Repr

namespace SourceName

def all : List SourceName := [wiki, folder]

def name : SourceName → String
  | wiki => "wiki"
  | folder => "local"

def ofName? (name : String) : Option SourceName := all.find? (·.name == name)

end SourceName

namespace Format

def all : List Format := [console, json, html]

def name : Format → String
  | console => "console"
  | json => "json"
  | html => "html"

def ofName? (name : String) : Option Format := all.find? (·.name == name)

end Format

/-- What is logged, and whether to a file too. -/
structure LogSettings where
  level : Level
  toFile : Bool
  dir : String
deriving DecidableEq, Repr

/-- What is searched for, where, by how many at a time, and whether every step counts. -/
structure SearchSettings where
  program : String
  source : SourceName
  maxWorkers : Int
  chained : Bool
deriving DecidableEq, Repr

/-- How the sources are reached. -/
structure SourceSettings where
  site : Option String
  timeout : Binary64
  pagesDir : Option String
deriving DecidableEq, Repr

/-- Where results go, and in which forms. -/
structure OutputSettings where
  baseDir : String
  formats : List Format
deriving DecidableEq, Repr

/-- All settings. -/
structure Config where
  log : LogSettings
  search : SearchSettings
  sources : SourceSettings
  output : OutputSettings
deriving DecidableEq, Repr

end PageGrep
