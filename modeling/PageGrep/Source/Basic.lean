/-
# Sources of pages

A source gives a directory of its pages and each page under its slug.  Either can fail,
and what failed is told by its cause.
-/
import PageGrep.Files.Basic
import PageGrep.Json.Parser
import PageGrep.Page.Reading

namespace PageGrep

/-- What may go wrong on the way to a server, so that no response comes back. -/
inductive Trouble where
  | timeout
  | connection
  | redirects
  | protocol
  | other
deriving DecidableEq, Repr

/-- Why a source cannot give its directory or a page; the last is for a server that was not
even asked. -/
inductive SourceError where
  | read (error : ReadError)
  | noDirectory (path : Path)
  | json (error : Json.ParseError)
  | malformed (fault : Malformed)
  | refused (status : Int) (reason url : String)
  | busy (status : Int)
  | trouble (kind : Trouble) (message : String)
  | unasked
deriving DecidableEq, Repr

namespace SourceError

/-- Whose fault a refusal is, by its status. -/
def side (status : Int) : String := if status < 500 then "Client" else "Server"

def message : SourceError → String
  | read error => error.message
  | noDirectory path => "Pages directory not found: " ++ path.text
  | json error => error.message
  | malformed fault => fault.message
  | refused status reason url =>
    toString status ++ " " ++ side status ++ " Error: " ++ reason ++ " for url: " ++ url
  | busy status => "HTTP " ++ toString status
  | trouble _ message => message
  | unasked => ""

end SourceError

/-- A source of pages. -/
structure Source where
  name : String
  directory : Except SourceError Directory
  page : String → Except SourceError Page

end PageGrep
