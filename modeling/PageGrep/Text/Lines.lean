/-
# Lines

A text is cut at each line feed; the pieces joined again with line feeds are the text,
and there is one piece more than there are line feeds.
-/

namespace PageGrep.Text

/-- The pieces of a text between the characters `c`. -/
def cutAt (c : Char) : List Char → List (List Char)
  | [] => [[]]
  | x :: rest =>
    if x == c then [] :: cutAt c rest
    else
      match cutAt c rest with
      | [] => [[x]]
      | piece :: pieces => (x :: piece) :: pieces

def lines (s : String) : List String := (cutAt '\n' s.toList).map String.ofList

end PageGrep.Text
