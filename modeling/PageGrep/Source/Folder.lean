/-
# Pages in a directory

A directory of files serves as a source: each file whose name does not start with a dot
holds a page in the data format.  Whether there is a file under a name is asked of its path,
which may be too long to be asked.  The page's slug is the name of the file without the
ending `.json`; a slug leads back to the file of that name, and if there is none, to the
file with the ending.
-/
import PageGrep.Config.Basic
import PageGrep.Source.Basic

namespace PageGrep.Folder

/-- The ending that slugs do without. -/
def ending : String := ".json"

def slugOf (name : String) : String :=
  let cs := name.toList
  let stem := cs.take (cs.length - ending.length)
  if !stem.isEmpty && cs == stem ++ ending.toList then String.ofList stem else name

/-- Whether a file with a name holds a page. -/
def isVisible (name : String) : Bool := name.toList.head? != some '.'

/-- Those of the names in a directory whose files hold pages. -/
def pageFiles (files : Files) (path : Path) : List String → Except FileError (List String)
  | [] => .ok []
  | name :: rest => do
    let isFile ← files.isFile (path.join name)
    let others ← pageFiles files path rest
    return if isFile && isVisible name then name :: others else others

/-- The names of the files with pages in the directory at a place, in the order of their
characters. -/
def sortedFiles (files : Files) (path : Path) (place : Place) : Except FileError (List String) :=
  pageFiles files path ((files.namesIn place).mergeSort fun a b => decide (a ≤ b))

/-- The directory of pages: a place for each file, in the order of the names of files. -/
def directory (files : Files) (path : Path) : Except SourceError Directory :=
  match files.isDirectory path with
  | .error error => .error (.read (.file error))
  | .ok false => .error (.noDirectory path)
  | .ok true =>
    match files.locate path with
    | .error fault => .error (.read (.file ⟨fault, path⟩))
    | .ok place =>
      match sortedFiles files path place with
      | .error error => .error (.read (.file error))
      | .ok names => .ok (names.map fun name => .ok { slug := slugOf name })

/-- The file that a slug leads to. -/
def fileOf (files : Files) (path : Path) (slug : String) : Except FileError Path := do
  if ← files.isFile (path.join slug) then .ok (path.join slug)
  else .ok (path.join (slug ++ ending))

def page (files : Files) (path : Path) (slug : String) : Except SourceError Page := do
  let file ← (fileOf files path slug).mapError fun error => .read (.file error)
  let text ← (files.readText file).mapError .read
  let payload ← (Json.parse text).mapError .json
  (Page.ofJson slug payload).mapError .malformed

def source (files : Files) (path : Path) : Source where
  name := SourceName.folder.name
  directory := directory files path
  page := page files path

end PageGrep.Folder
