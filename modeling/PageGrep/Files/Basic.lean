/-
# Files

The files that a program sees are places with what is there: octets, or a directory.
A place is the list of names that lead to it from the root.  The working directory and
the directories above it are always there.

A path is followed name by name: every name but the last must lead to a directory, two
dots go up, and a name or a path may not be too long.  Each operation on files that
changes them gives the files as they are then, also where it fails midway.
-/
import PageGrep.Files.Path
import PageGrep.Text.Quoted
import PageGrep.Text.Utf8

namespace PageGrep

/-- What is at a place. -/
inductive Content where
  | octets (bytes : List UInt8)
  | directory
deriving DecidableEq, Repr, Inhabited

/-- A place, as the names that lead to it from the root. -/
abbrev Place := List String

/-- The working directory, and what is at which place. -/
structure Files where
  here : Place := []
  entries : List (Place × Content) := []
deriving Repr, Inhabited

/-! ## Faults -/

/-- Why nothing can be done at a path. -/
inductive FileFault where
  | notFound
  | exists
  | notADirectory
  | isADirectory
  | nameTooLong
  | nullCharacter
deriving DecidableEq, Repr

/-- A fault and the path it is about. -/
structure FileError where
  fault : FileFault
  path : Path
deriving DecidableEq, Repr

def FileError.message (e : FileError) : String :=
  let numbered (number : Nat) (what : String) : String :=
    "[Errno " ++ toString number ++ "] " ++ what ++ ": " ++ Text.quoted e.path.text
  match e.fault with
  | .notFound => numbered 2 "No such file or directory"
  | .exists => numbered 17 "File exists"
  | .notADirectory => numbered 20 "Not a directory"
  | .isADirectory => numbered 21 "Is a directory"
  | .nameTooLong => numbered 36 "File name too long"
  | .nullCharacter => "embedded null byte"

/-- Why the text of a file cannot be had. -/
inductive ReadError where
  | file (error : FileError)
  | encoding (fault : Text.Utf8.Fault)
deriving DecidableEq, Repr

def ReadError.message : ReadError → String
  | file error => error.message
  | encoding fault => fault.message

namespace Files

/-! ## Places -/

def at? (files : Files) (place : Place) : Option Content :=
  if place.isPrefixOf files.here then some .directory
  else (files.entries.find? (·.1 == place)).map (·.2)

/-- Puts something at a place, in the stead of what was there. -/
def put (files : Files) (place : Place) (content : Content) : Files :=
  let others := files.entries.filter (·.1 != place)
  { files with entries := others ++ [(place, content)] }

/-- The octets that a name may have. -/
def nameLimit : Nat := 255

/-- The octets from which on a path is too long. -/
def pathLimit : Nat := 4096

def follow (files : Files) (place : Place) : List String → Except FileFault Place
  | [] => .ok place
  | name :: rest =>
    match files.at? place with
    | none => .error .notFound
    | some (.octets _) => .error .notADirectory
    | some .directory =>
      if nameLimit < name.utf8ByteSize then .error .nameTooLong
      else files.follow (if name == ".." then place.dropLast else place ++ [name]) rest

/-- The place that a path leads to, whether anything is there or not. -/
def locate (files : Files) (path : Path) : Except FileFault Place :=
  if path.names.any fun name => name.toList.any (· == '\x00') then .error .nullCharacter
  else if pathLimit ≤ path.text.utf8ByteSize then .error .nameTooLong
  else files.follow (if path.isAbsolute then [] else files.here) path.names

/-- What a path leads to. -/
def look (files : Files) (path : Path) : Except FileFault Content := do
  match files.at? (← files.locate path) with
  | some content => .ok content
  | none => .error .notFound

/-! ## Asking -/

/-- Whether what a path leads to is of a kind; a path that leads nowhere is of none, but
one that is too long is an error. -/
def isOfKind (kind : Content → Bool) (files : Files) (path : Path) : Except FileError Bool :=
  match files.look path with
  | .ok content => .ok (kind content)
  | .error .nameTooLong => .error ⟨.nameTooLong, path⟩
  | .error _ => .ok false

def isFile : Files → Path → Except FileError Bool := isOfKind (· matches .octets _)

def isDirectory : Files → Path → Except FileError Bool := isOfKind (· matches .directory)

/-- The name under which a place is in the directory at another, if it is in it. -/
def nameIn? (directory place : Place) : Option String :=
  match place.getLast? with
  | some name => if place.dropLast == directory then some name else none
  | none => none

def namesIn (files : Files) (place : Place) : List String :=
  (files.entries.map Prod.fst).filterMap (nameIn? place)

/-! ## Reading -/

def readOctets (files : Files) (path : Path) : Except FileError (List UInt8) :=
  match files.look path with
  | .ok (.octets bytes) => .ok bytes
  | .ok .directory => .error ⟨.isADirectory, path⟩
  | .error fault => .error ⟨fault, path⟩

def readText (files : Files) (path : Path) : Except ReadError String := do
  let bytes ← (files.readOctets path).mapError ReadError.file
  (Text.readText bytes).mapError ReadError.encoding

/-! ## Writing -/

/-- The place of the file that a path leads to or that can be made there. -/
def placeToWrite (files : Files) (path : Path) : Except FileError Place :=
  match files.locate path with
  | .error fault => .error ⟨fault, path⟩
  | .ok place =>
    if files.at? place == some .directory then .error ⟨.isADirectory, path⟩ else .ok place

def writeText (files : Files) (path : Path) (text : String) : Except FileError Files :=
  (files.placeToWrite path).map fun place => files.put place (.octets (Text.Utf8.encode text))

/-- The octets at a place; none if no file is there. -/
def octetsAt (files : Files) (place : Place) : List UInt8 :=
  match files.at? place with
  | some (.octets bytes) => bytes
  | _ => []

/-- Writes a text at the end of the file at a place, which is made if it is not there. -/
def appendAt (files : Files) (place : Place) (text : String) : Files :=
  files.put place (.octets (files.octetsAt place ++ Text.Utf8.encode text))

/-- Makes the directory that names lead to from a path, and those on the way. -/
def makeFrom (files : Files) (path : Path) : List String → Files × Option FileError
  | [] => (files, none)
  | name :: rest =>
    let further : Path := { path with names := path.names ++ [name] }
    match files.locate further with
    | .error fault => (files, some ⟨fault, further⟩)
    | .ok place =>
      match files.at? place with
      | some (.octets _) =>
        (files, some ⟨if rest.isEmpty then .exists else .notADirectory, further⟩)
      | some .directory => files.makeFrom further rest
      | none => (files.put place .directory).makeFrom further rest

/-- Makes the directory that a path leads to, and those on the way; it may be there.  The
error, if there is one, is told beside the files. -/
def makeDirectory (files : Files) (path : Path) : Files × Option FileError :=
  files.makeFrom { path with names := [] } path.names

end Files

end PageGrep
