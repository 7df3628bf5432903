/-
# The panel

The panel shows the listing of a program, a caption that tells how the search stands,
and the pages found as links.
-/
import PageGrep.Page.Basic
import PageGrep.Page.Link

namespace PageGrep

/-- How a search stands: pages found, pages checked and, until all are checked, how many
remain. -/
def statusText (found checked total : Int) : String :=
  "found " ++ toString found ++ " pages of " ++ toString checked ++ " checked"
    ++ if checked < total then ", " ++ toString (total - checked) ++ " remain" else ""

def resultLine (reference : String) : String := resolveLinks reference ++ "<br>"

/-- The panel of a listing, which is markup, a status, which is text, and the references
of the pages found. -/
def panel (listing status : String) (references : List String) : String :=
  String.join [
    "<div style=\"background-color:#eee;padding:15px;\">\n",
    "  <div style=\"text-align:center\">\n",
    "    <div class=listing>", listing, " <a class=open href='#'>»</a></div>\n",
    "    <button>find</button>\n",
    "    <p class=\"caption\">", Text.escape status, "</p>\n",
    "  </div>\n",
    "  <p class=\"result\">", String.join (references.map resultLine), "</p>\n",
    "</div>"]

/-- A whole document around a panel. -/
def document (title content : String) : String :=
  String.join [
    "<!DOCTYPE html>\n<html>\n<head>\n<meta charset=\"utf-8\">\n<title>",
    Text.escapeAttribute title,
    "</title>\n</head>\n<body>\n", content, "\n</body>\n</html>\n"]

end PageGrep
