/-
# What settings set up

Settings name the source of the pages and the forms of the report.  A report has at
least one form, each at most once, in a fixed order however they were listed.
-/
import PageGrep.Config.Basic
import PageGrep.Search.Run
import PageGrep.Source.Folder
import PageGrep.Source.Site

namespace PageGrep

/-- Why nothing can be set up. -/
inductive SetupError where
  | noFormats
  | unknownSource (name : String)
deriving DecidableEq, Repr

def SetupError.message : SetupError → String
  | noFormats => "No output writers configured"
  | unknownSource name => "Unsupported source in config.search.source: " ++ name

/-- Where pages are kept: at a site that answers within some seconds, or in a directory. -/
inductive Store where
  | site (site : Site) (timeout : Binary64)
  | folder (path : Path)
deriving DecidableEq, Repr

def Store.name : Store → SourceName
  | site _ _ => .wiki
  | folder _ => .folder

/-- A store as a source, given the files and the exchanges to come for each address. -/
def Store.source (files : Files) (exchanges : String → List Exchange) : Store → Source
  | site s _ => s.source exchanges
  | folder path => Folder.source files path

namespace Config

def reportFormats (config : Config) : Except SetupError (List Format) :=
  match Format.all.filter config.output.formats.contains with
  | [] => .error .noFormats
  | formats => .ok formats

def store (config : Config) : SourceName → Store
  | .wiki => .site (Site.ofText (config.sources.site.getD "")) config.sources.timeout
  | .folder => .folder (Path.ofText (config.sources.pagesDir.getD ""))

def storeNamed (config : Config) (name : String) : Except SetupError Store :=
  match SourceName.ofName? name with
  | some source => .ok (config.store source)
  | none => .error (.unknownSource name)

def searching (config : Config) : Search :=
  ⟨config.search.maxWorkers, config.search.chained⟩

end Config

end PageGrep
