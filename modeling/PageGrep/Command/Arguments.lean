/-
# Arguments

Arguments are words.  A word that starts with a dash and goes on is an option, with its
value after an equals sign or in the next word; two dashes alone end the options.  One
option takes a value and one asks for help; any other is a misuse.  Where an option is
given again, its last value counts.
-/
import PageGrep.Text.Lines

namespace PageGrep

/-- What a word is. -/
inductive Word where
  | endOfOptions
  | plain
  | option (name : String) (value? : Option String)
deriving DecidableEq, Repr

def Word.ofText (s : String) : Word :=
  match s.toList with
  | ['-', '-'] => endOfOptions
  | '-' :: c :: rest =>
    let cs := '-' :: c :: rest
    let name := String.ofList (cs.takeWhile (· != '='))
    match cs.dropWhile (· != '=') with
    | _ :: value => option name (some (String.ofList value))
    | [] => option name none
  | _ => plain

def helpOption : String := "--help"

/-- Options as they are given: the last value of the one that takes a value, whether
help is asked for, and the words that are no options. -/
structure Given where
  value? : Option String := none
  help : Bool := false
  words : List String := []
deriving DecidableEq, Repr

namespace Given

def withValue (given : Given) (value : String) : Given :=
  { given with value? := some (given.value?.getD value) }

def withWord (given : Given) (word : String) : Given :=
  { given with words := word :: given.words }

/-- Reads arguments; none for a misuse.  With `mixed`, options may come after words that
are none; without, the first such word ends the options. -/
def read? (valued : String) (mixed : Bool) : List String → Option Given
  | [] => some {}
  | word :: rest =>
    match Word.ofText word with
    | .endOfOptions => some { words := rest }
    | .plain =>
      if mixed then (read? valued mixed rest).map (·.withWord word)
      else some { words := word :: rest }
    | .option name value? =>
      if name == helpOption then
        if value?.isSome then none
        else (read? valued mixed rest).map fun given => { given with help := true }
      else if name != valued then none
      else
        match value? with
        | some value => (read? valued mixed rest).map (·.withValue value)
        | none =>
          match rest with
          | [] => none
          | value :: others => (read? valued mixed others).map (·.withValue value)

end Given

end PageGrep
