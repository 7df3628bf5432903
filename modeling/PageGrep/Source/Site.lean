/-
# Sites

A site is named by its origin.  Its directory and its pages have addresses below the
origin, for which it is asked one after the other, and what a server answers for them is
read as a directory or a page.
-/
import PageGrep.Config.Basic
import PageGrep.Source.Exchange
import PageGrep.Text.Blank
import PageGrep.Text.Percent

namespace PageGrep

/-- A site, by its origin. -/
structure Site where
  origin : String
deriving DecidableEq, Repr

namespace Site

/-- What stands between the scheme and the host of an address. -/
def mark : String := "://"

/-- Whether the mark of a scheme stands somewhere. -/
def hasScheme : List Char → Bool
  | [] => false
  | c :: rest => mark.toList.isPrefixOf (c :: rest) || hasScheme rest

/-- The site that a text names: blanks around it and slashes at its end do not count,
and the scheme may be left out. -/
def ofText (s : String) : Site :=
  let origin := Text.trimRightOf '/' (Text.trim s)
  ⟨if hasScheme origin.toList then origin else "http" ++ mark ++ origin⟩

def sitemapUrl (site : Site) : String := site.origin ++ "/system/sitemap.json"

def pageUrl (site : Site) (slug : String) : String :=
  site.origin ++ "/" ++ Text.percentEncode slug ++ ".json"

/-! ## Requests -/

/-- What a site is asked for. -/
inductive Request where
  | directory
  | page (slug : String)
deriving DecidableEq, Repr

def urlOf (site : Site) : Request → String
  | .directory => site.sitemapUrl
  | .page slug => site.pageUrl slug

/-- Asks a site for one thing after the other, given the exchanges to come. -/
def askAll (site : Site) : List Request → List Exchange → List (Asked Json)
  | [], _ => []
  | request :: requests, exchanges =>
    let asked := askFor (site.urlOf request) exchanges
    asked :: site.askAll requests asked.rest

/-! ## What is answered -/

def readDirectory (answer : Except SourceError Json) : Except SourceError Directory := do
  (Directory.ofJson (← answer)).mapError .malformed

def readPage (slug : String) (answer : Except SourceError Json) : Except SourceError Page := do
  (Page.ofJson slug (← answer)).mapError .malformed

/-- Answers for a directory and for pages as a source. -/
def sourceOf (directory : Except SourceError Json) (page : String → Except SourceError Json) :
    Source where
  name := SourceName.wiki.name
  directory := readDirectory directory
  page slug := readPage slug (page slug)

/-- A site as a source, with the exchanges to come for each address. -/
def source (site : Site) (exchanges : String → List Exchange) : Source :=
  let answer (url : String) := (askFor url (exchanges url)).result
  sourceOf (answer site.sitemapUrl) fun slug => answer (site.pageUrl slug)

end Site

end PageGrep
