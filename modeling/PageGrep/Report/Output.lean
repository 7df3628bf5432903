/-
# Putting reports out

At the end of a command a report is put out in each of its forms: the console tells the
last status, and the other forms are written to files named for the action and the
moment.  A form that cannot be put out stops those after it.
-/
import PageGrep.Files.Basic
import PageGrep.Log.Moment
import PageGrep.Report.Basic

namespace PageGrep

/-- Why a report cannot be put out. -/
inductive OutputError where
  | unwritable (format : Format) (path : Path)
  | nullCharacter
deriving DecidableEq, Repr

namespace Format

def title : Format → String
  | console => "console"
  | json => "JSON"
  | html => "HTML"

def directory (format : Format) (base : String) : Path := (Path.ofText base).join format.name

def outputPath (format : Format) (base action : String) (now : Moment) : Path :=
  (format.directory base).join (action ++ "_" ++ now.resultStamp ++ "." ++ format.name)

end Format

def OutputError.message : OutputError → String
  | unwritable format path =>
    "Failed to write " ++ format.title ++ " file: " ++ path.text
  | nullCharacter => "embedded null byte"

/-- What comes of putting a report out: the files then, what was logged, and why it
stopped short if it did. -/
structure Put where
  files : Files
  log : List Record := []
  error? : Option OutputError := none
deriving Repr

namespace Report

def outputError (format : Format) (path : Path) (error : FileError) : OutputError :=
  match error.fault with
  | .nullCharacter => .nullCharacter
  | _ => .unwritable format path

def writeFile (format : Format) (base action : String) (now : Moment) (text : String)
    (files : Files) : Put :=
  let path := format.outputPath base action now
  let (files, error?) := files.makeDirectory (format.directory base)
  match error? with
  | some error => { files := files, error? := some (outputError format path error) }
  | none =>
    match files.writeText path text with
    | .error error => { files := files, error? := some (outputError format path error) }
    | .ok files =>
      { files := files, log := [⟨.info, format.title ++ " saved to " ++ path.text⟩] }

def putOne (report : Report) (base action : String) (now : Moment) (files : Files) :
    Format → Put
  | .console => { files := files, log := report.lastNotes }
  | .json => writeFile .json base action now (report.toJson.text 2) files
  | .html => writeFile .html base action now (report.toDocument action) files

/-- Puts a report out in each of its forms. -/
def put (report : Report) (base action : String) (now : Moment) (files : Files) :
    List Format → Put
  | [] => { files := files }
  | format :: rest =>
    let one := report.putOne base action now files format
    match one.error? with
    | some _ => one
    | none =>
      let others := report.put base action now one.files rest
      { others with log := one.log ++ others.log }

end Report

end PageGrep
