/-
# What a pattern does wrong

A pattern that cannot be read is refused at a place; one that can be read may still be
refused as a whole.  Each cause has one wording.
-/
import PageGrep.Pattern.Tree
import PageGrep.Text.Numeral
import PageGrep.Text.Quoted

namespace PageGrep.Pattern

/-- Why a pattern is refused at a place. -/
inductive Cause where
  | escapeAtEnd
  | incompleteEscape (escape : String)
  | badEscape (escape : String)
  | octalTooLarge (escape : String)
  | missingBrace
  | missingName (what : String)
  | unterminatedName (closing : Char)
  | unknownCharacter (name : String)
  | openGroup
  | sameLookBehind
  | noSuchGroup (number : Int)
  | badGroupName (name : String)
  | unknownGroupName (name : String)
  | repeatedGroupName (name : String) (number former : Nat)
  | badGroupNumber
  | unterminatedSet
  | badRange (low high : String)
  | leastAboveMost
  | nothingToRepeat
  | multipleRepeat
  | endOfPattern
  | unknownExtension (text : String)
  | unterminatedComment
  | unterminatedGroup
  | unbalanced
  | thirdAlternative
  | lateSettings
  | unknownSetting
  | settingExpected (what : String)
  | localeSetting
  | classesConflict
  | classesOff
  | globalOn
  | globalOff
  | onAndOff
deriving DecidableEq, Repr

def Cause.message : Cause → String
  | escapeAtEnd => "bad escape (end of pattern)"
  | incompleteEscape escape => "incomplete escape " ++ escape
  | badEscape escape => "bad escape " ++ escape
  | octalTooLarge escape => "octal escape value " ++ escape ++ " outside of range 0-0o377"
  | missingBrace => "missing \x7b"
  | missingName what => "missing " ++ what
  | unterminatedName closing => "missing " ++ String.singleton closing ++ ", unterminated name"
  | unknownCharacter name => "undefined character name " ++ Text.quoted name
  | openGroup => "cannot refer to an open group"
  | sameLookBehind => "cannot refer to group defined in the same lookbehind subpattern"
  | noSuchGroup number => "invalid group reference " ++ toString number
  | badGroupName name => "bad character in group name " ++ Text.quoted name
  | unknownGroupName name => "unknown group name " ++ Text.quoted name
  | repeatedGroupName name number former =>
    "redefinition of group name " ++ Text.quoted name ++ " as group " ++ toString number
      ++ "; was group " ++ toString former
  | badGroupNumber => "bad group number"
  | unterminatedSet => "unterminated character set"
  | badRange low high => "bad character range " ++ low ++ "-" ++ high
  | leastAboveMost => "min repeat greater than max repeat"
  | nothingToRepeat => "nothing to repeat"
  | multipleRepeat => "multiple repeat"
  | endOfPattern => "unexpected end of pattern"
  | unknownExtension text => "unknown extension ?" ++ text
  | unterminatedComment => "missing ), unterminated comment"
  | unterminatedGroup => "missing ), unterminated subpattern"
  | unbalanced => "unbalanced parenthesis"
  | thirdAlternative => "conditional backref with more than two branches"
  | lateSettings => "global flags not at the start of the expression"
  | unknownSetting => "unknown flag"
  | settingExpected what => "missing " ++ what
  | localeSetting => "bad inline flags: cannot use 'L' flag with a str pattern"
  | classesConflict => "bad inline flags: flags 'a', 'u' and 'L' are incompatible"
  | classesOff => "bad inline flags: cannot turn off flags 'a', 'u' and 'L'"
  | globalOn => "bad inline flags: cannot turn on global flag"
  | globalOff => "bad inline flags: cannot turn off global flag"
  | onAndOff => "bad inline flags: flag turned on and off"

/-- What a pattern asks for that no matcher can do. -/
inductive Excess where
  | countTooLarge
  | countTooLong (digits : Nat)
  | codeTooLarge
  | lookBehindTooLong
  | twoClassChoices
deriving DecidableEq, Repr

def Excess.message : Excess → String
  | countTooLarge => "the repetition number is too large"
  | countTooLong digits => Text.Numeral.tooManyDigitsMessage digits
  | codeTooLarge => "Python int too large to convert to C int"
  | lookBehindTooLong => "invalid SRE code"
  | twoClassChoices => "ASCII and UNICODE flags are incompatible"

/-- Why a pattern is refused.  An excess is no fault of the text and is reported apart
from the others. -/
inductive Error where
  | broken (cause : Cause) (position : Nat)
  | repeatInPlain (greed : Greed)
  | lookBehindWidth
  | lookBehindTooFar
  | excessive (excess : Excess)
deriving DecidableEq, Repr

def Greed.label : Greed → String
  | greedy => "MAX_REPEAT"
  | reluctant => "MIN_REPEAT"
  | possessive => "POSSESSIVE_REPEAT"

/-- The line and the column of a position, both from one. -/
def lineAndColumn (source : List Char) (position : Nat) : Nat × Nat :=
  let before := source.take position
  (before.count '\n' + 1, (before.reverse.takeWhile (· != '\n')).length + 1)

/-- The wording of an error in the pattern `source`; a pattern of several lines is told
the line and the column too. -/
def Error.message (source : String) : Error → String
  | broken cause position =>
    let cs := source.toList
    let place := cause.message ++ " at position " ++ toString position
    if cs.contains '\n' then
      let (line, column) := lineAndColumn cs position
      place ++ " (line " ++ toString line ++ ", column " ++ toString column ++ ")"
    else place
  | repeatInPlain greed => "internal: unsupported template operator " ++ greed.label
  | lookBehindWidth => "look-behind requires fixed-width pattern"
  | lookBehindTooFar => "looks too much behind"
  | excessive excess => excess.message

end PageGrep.Pattern
