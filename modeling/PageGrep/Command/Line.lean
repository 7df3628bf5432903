/-
# The command line

The arguments name a settings file, if it is not the usual one, then a command, and for
the command a file with the program, if it is not the one of the settings.  Arguments
are looked at before settings, and the arguments of the command after them.
-/
import PageGrep.Command.Arguments
import PageGrep.Command.Session
import PageGrep.Config.File

namespace PageGrep

/-- The commands. -/
inductive Command where
  | check
  | search
deriving DecidableEq, Repr

namespace Command

def all : List Command := [check, search]

def name : Command → String
  | check => "check"
  | search => "search"

def ofName? (name : String) : Option Command := all.find? (·.name == name)

end Command

/-! ## Files named in arguments -/

/-- What a text in the arguments leads to.  A text that ends as a directory does leads to
no file. -/
def Files.named (files : Files) (text : String) : Except FileFault Content := do
  if text == "" then .error .notFound
  let content ← files.look (Path.ofText text)
  if endsInDirectory text && content != .directory then .error .notADirectory
  .ok content

/-- Whether a text may stand where a file belongs: it must not lead to a directory, and if
the file has to be there, it must lead to one. -/
def Files.admits (files : Files) (required : Bool) (text : String) : Except FileFault Bool :=
  match files.named text with
  | .ok content => .ok (content != .directory)
  | .error .nullCharacter => .error .nullCharacter
  | .error _ => .ok !required

/-! ## Running -/

namespace Session

def programText (session : Session) (config : Config) : Option String → Except ReadError String
  | some path => session.files.readText (Path.ofText path)
  | none => .ok config.search.program

def run (session : Session) (around : Surroundings) (config : Config) (command : Command)
    (source : String) : Session × Ending :=
  match session.configure config.log command.name around.now with
  | (session, some error) => (session, .escaped (.file error))
  | (session, none) =>
    match command with
    | .check => session.check around source
    | .search => session.find around config command.name source

def runWith (session : Session) (around : Surroundings) (config : Config) (command : Command)
    (arguments : List String) : Session × Ending :=
  match Given.read? "--program" true arguments with
  | none => (session, .misuse)
  | some given =>
    if given.help then (session, .help)
    else
      match (given.value?.map (session.files.admits true)).getD (.ok true) with
      | .error fault => (session, .escaped (.file ⟨fault, Path.ofText (given.value?.getD "")⟩))
      | .ok false => (session, .misuse)
      | .ok true =>
        if !given.words.isEmpty then (session, .misuse)
        else
          match session.programText config given.value? with
          | .error error => (session, .escaped (.read error))
          | .ok source => session.run around config command source

/-- What comes of words where no command is named: help if they ask for it as options. -/
def unknown (session : Session) (words : List String) : Session × Ending :=
  match Given.read? "--config" false words with
  | some given => (session, if given.help then .help else .misuse)
  | none => (session, .misuse)

/-- Runs the whole command line. -/
def runLine (session : Session) (around : Surroundings) (arguments : List String) :
    Session × Ending :=
  match arguments, Given.read? "--config" false arguments with
  | [], _ | _, none => (session, .misuse)
  | _, some given =>
    if given.help then (session, .help)
    else
      let settings := given.value?.getD Config.defaultPath.text
      match session.files.admits false settings with
      | .error fault => (session, .escaped (.file ⟨fault, Path.ofText settings⟩))
      | .ok false => (session, .misuse)
      | .ok true =>
        match given.words with
        | [] => (session, .misuse)
        | name :: rest =>
          match Command.ofName? name with
          | none => session.unknown (name :: rest)
          | some command =>
            match Config.loadOver session.files Config.defaultPath (Path.ofText settings) with
            | .error error => (session, .escaped (.load error))
            | .ok config => session.runWith around config command rest

end Session

end PageGrep
