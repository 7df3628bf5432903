/-
# The program

The outer layer: it takes a picture of the files that a command may look at, runs the
command on the picture, and writes back what has changed.  Records go to the standard
error.  No server is reached from here, so every exchange ends without a connection.
-/
import PageGrep.Command.Line
import Std.Time.Zoned

namespace PageGrep

def Moment.ofClock : IO Moment := do
  let now ← Std.Time.PlainDateTime.now
  return {
    year := now.year.toInt.toNat
    month := now.month.val.toNat
    day := now.day.val.toNat
    hour := now.hour.val.toNat
    minute := now.minute.val.toNat
    second := now.second.val.toNat }

def Place.ofText (path : String) : Place := (Path.ofText path).names

def Place.text (place : Place) : String := "/" ++ "/".intercalate place

partial def Files.picture (files : Files) (path : String) : IO Files := do
  let real ← IO.FS.realPath path
  let place := Place.ofText real.toString
  if ← real.isDir then
    let mut files := files.put place .directory
    for member in ← real.readDir do
      files ← Files.picture files member.path.toString
    return files
  else if ← real.pathExists then
    return files.put place (.octets (← IO.FS.readBinFile real).toList)
  else return files

/-- Adds what is at a path, and the directories above it, if anything can be read there. -/
def Files.pictureIfAny (files : Files) (path : String) : IO Files := do
  try
    let place := Place.ofText (← IO.FS.realPath path).toString
    (files.makeDirectory ⟨1, place.dropLast⟩).1.picture path
  catch _ => return files

/-- The paths that words of the arguments may name: each word, and what follows its equals
sign. -/
def pathsNamed (arguments : List String) : List String :=
  arguments ++ arguments.filterMap fun word =>
    match Word.ofText word with
    | .option _ value? => value?
    | _ => none

/-- The directory of pages that the settings name, if arguments lead to settings. -/
def pagesNamed (files : Files) (arguments : List String) : Option String := do
  let given ← Given.read? "--config" false arguments
  let path := Path.ofText (given.value?.getD Config.defaultPath.text)
  (← (Config.loadOver files Config.defaultPath path).toOption).sources.pagesDir

/-- Writes back what is in a picture and was not there before. -/
def Files.writeBack (before after : Files) : IO Unit := do
  for (place, content) in after.entries do
    if before.at? place != some content then
      match content with
      | .directory => IO.FS.createDirAll (Place.text place)
      | .octets bytes => IO.FS.writeBinFile (Place.text place) ⟨bytes.toArray⟩

def usage : String :=
  "Usage: pagegrep [--config FILE] check|search [--program FILE]\n\n"
    ++ "Searches wiki pages with a small grep language.\n"

/-- Runs the command line on the files of the working directory and those that arguments
and settings name. -/
def runOnFiles (arguments : List String) : IO UInt32 := do
  let here := (← IO.currentDir).toString
  let mut files : Files := { here := Place.ofText here }
  files ← files.picture here
  for path in pathsNamed arguments do
    files ← files.pictureIfAny path
  if let some path := pagesNamed files arguments then
    files ← files.pictureIfAny path
  let around : Surroundings :=
    ⟨.late, ← Moment.ofClock,
      fun _ => List.replicate attemptLimit (.trouble .connection "no connection")⟩
  let (session, ending) := Session.runLine { files := files } around arguments
  files.writeBack session.files
  IO.eprint session.console
  match ending with
  | .help => IO.print usage
  | .misuse => IO.eprint usage
  | .escaped escape => IO.eprintln escape.message
  | _ => pure ()
  return ending.code.toUInt32

end PageGrep

def main (arguments : List String) : IO UInt32 := PageGrep.runOnFiles arguments
