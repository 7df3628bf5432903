/-
# Text within markup

The characters that markup gives a meaning are written as entities: `escape` for
text between tags, `escapeAttribute` for text between the quotes of an attribute,
where both kinds of quote are written as entities too.
-/

namespace PageGrep.Text

/-- The written form of one character between tags. -/
def entity (c : Char) : List Char :=
  if c == '&' then "&amp;".toList
  else if c == '<' then "&lt;".toList
  else if c == '>' then "&gt;".toList
  else [c]

/-- The written form of one character between the quotes of an attribute. -/
def attributeEntity (c : Char) : List Char :=
  if c == '"' then "&quot;".toList
  else if c == '\'' then "&#x27;".toList
  else entity c

/-- Text as it stands between tags. -/
def escape (s : String) : String := String.ofList (s.toList.flatMap entity)

/-- Text as it stands between the quotes of an attribute. -/
def escapeAttribute (s : String) : String := String.ofList (s.toList.flatMap attributeEntity)

end PageGrep.Text
