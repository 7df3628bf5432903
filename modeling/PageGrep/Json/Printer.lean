/-
# Writing a value

`Json.render` writes a value with each item and field on a line of its own, indented by
a number of spaces for each level; empty lists and objects are written without a line
break.  Quotes, backslashes and control characters are escaped, everything else stands
for itself.  `Json.shown` is the form a value takes within running text.
-/
import PageGrep.Json.Basic
import PageGrep.Text.Quoted

namespace PageGrep.Json

/-! ## Lines and indentation -/

def escapeChar (c : Char) : List Char :=
  if c == '"' || c == '\\' then ['\\', c]
  else if c == '\n' then ['\\', 'n']
  else if c == '\r' then ['\\', 'r']
  else if c == '\t' then ['\\', 't']
  else if c == '\x08' then ['\\', 'b']
  else if c == '\x0c' then ['\\', 'f']
  else if c.toNat < 0x20 then '\\' :: 'u' :: Text.Quoted.hexDigits 4 c.toNat
  else [c]

def renderString (s : String) : List Char := '"' :: (s.toList.flatMap escapeChar ++ ['"'])

/-- The written form of a number of the binary format. -/
def floatText : Binary64 → String
  | .nan => "NaN"
  | .infinite negative => if negative then "-Infinity" else "Infinity"
  | x => x.text

/-- A new line, indented for a level. -/
def newLine (step depth : Nat) : List Char := '\n' :: List.replicate (step * depth) ' '

mutual

/-- Writes a value that stands on a level, with `step` spaces for each. -/
def render (step depth : Nat) : Json → List Char
  | .null => "null".toList
  | .bool value => (if value then "true" else "false").toList
  | .int value => (toString value).toList
  | .float value => (floatText value).toList
  | .str value => renderString value
  | .arr [] => ['[', ']']
  | .arr (item :: items) =>
    '[' :: (newLine step (depth + 1) ++ render step (depth + 1) item
      ++ renderItems step (depth + 1) items ++ newLine step depth ++ [']'])
  | .obj [] => ['{', '}']
  | .obj ((name, value) :: fields) =>
    '{' :: (newLine step (depth + 1) ++ renderString name ++ [':', ' ']
      ++ render step (depth + 1) value
      ++ renderFields step (depth + 1) fields ++ newLine step depth ++ ['}'])

def renderItems (step depth : Nat) : List Json → List Char
  | [] => []
  | item :: items =>
    ',' :: (newLine step depth ++ render step depth item ++ renderItems step depth items)

def renderFields (step depth : Nat) : List (String × Json) → List Char
  | [] => []
  | (name, value) :: fields =>
    ',' :: (newLine step depth ++ renderString name ++ [':', ' '] ++ render step depth value
      ++ renderFields step depth fields)

end

/-- The written form of a value, with `step` spaces for each level. -/
def text (step : Nat) (value : Json) : String := String.ofList (render step 0 value)

/-! ## Within running text -/

mutual

def shownInside : Json → String
  | .null => "None"
  | .bool value => if value then "True" else "False"
  | .int value => toString value
  | .float value => value.text
  | .str value => Text.quoted value
  | .arr items => "[" ++ String.intercalate ", " (shownItems items) ++ "]"
  | .obj fields => "\x7b" ++ String.intercalate ", " (shownFields fields) ++ "\x7d"

def shownItems : List Json → List String
  | [] => []
  | item :: items => shownInside item :: shownItems items

def shownFields : List (String × Json) → List String
  | [] => []
  | (name, value) :: fields =>
    (Text.quoted name ++ ": " ++ shownInside value) :: shownFields fields

end

/-- The form of a value within running text: a text stands for itself. -/
def shown : Json → String
  | .str value => value
  | value => shownInside value

end PageGrep.Json
