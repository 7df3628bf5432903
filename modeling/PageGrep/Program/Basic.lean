/-
# Programs

A program is a list of steps.  A selecting step goes to the members of a page's story
or journal that have a type, the empty type standing for any; a testing step asks
whether a pattern matches what it reads of the part selected.
-/
import PageGrep.Page.Field
import PageGrep.Pattern.Basic

namespace PageGrep

/-- The members of a page that a step can select. -/
inductive Collection where
  | story
  | journal
deriving DecidableEq, Repr

/-- What a step tests. -/
inductive Subject where
  | field (f : Field)
  | whole
deriving DecidableEq, Repr

/-- What a step does. -/
inductive Op where
  | select (c : Collection)
  | test (s : Subject)
deriving DecidableEq, Repr

namespace Op

def all : List Op :=
  [select .story, select .journal, test (.field .text), test (.field .title),
    test (.field .site), test (.field .id), test (.field .otherName), test .whole]

def name : Op → String
  | select .story => "ITEM"
  | select .journal => "ACTION"
  | test (.field .text) => "TEXT"
  | test (.field .title) => "TITLE"
  | test (.field .site) => "SITE"
  | test (.field .id) => "ID"
  | test (.field .otherName) => "ALIAS"
  | test .whole => "JSON"

def ofName? (word : String) : Option Op := all.find? (·.name == word)

def isSelector : Op → Bool
  | select _ => true
  | test _ => false

/-- The field that it tests, if it tests one. -/
def field? : Op → Option Field
  | test (.field f) => some f
  | _ => none

end Op

/-- One step. -/
inductive Step where
  | select (c : Collection) (kind : String)
  | test (s : Subject) (pattern : Pattern)
deriving Repr

abbrev Program := List Step

/-- Why a step cannot be made, or a part cannot be read. -/
inductive StepError where
  | unknownOp (word : String)
  | needsType (op : Op)
  | needsPattern (op : Op)
  | readsNoField (op : Op)
deriving DecidableEq, Repr

def StepError.message : StepError → String
  | unknownOp word => Text.quoted word ++ " is not a valid Op"
  | needsType op => op.name ++ " step takes a type, not a pattern"
  | needsPattern op => op.name ++ " step takes a pattern, not a type"
  | readsNoField op => op.name ++ " does not read a field"

namespace Step

def op : Step → Op
  | select c _ => .select c
  | test s _ => .test s

def kind? : Step → Option String
  | select _ kind => some kind
  | test _ _ => none

def pattern? : Step → Option Pattern
  | select _ _ => none
  | test _ pattern => some pattern

/-- The step with a type or a pattern, whichever it takes. -/
def make (op : Op) (kind? : Option String) (pattern? : Option Pattern) :
    Except StepError Step :=
  match op, kind?, pattern? with
  | .select c, some kind, none => .ok (.select c kind)
  | .select _, _, _ => .error (.needsType op)
  | .test s, none, some pattern => .ok (.test s pattern)
  | .test _, _, _ => .error (.needsPattern op)

end Step

/-- What a field operation reads of a part; the others read no field. -/
def Op.readField (op : Op) (part : Part) : Except StepError String :=
  match op.field? with
  | some f => .ok (f.read part)
  | none => .error (.readsNoField op)

/-- What a test reads of a part. -/
def Subject.read (s : Subject) (part : Part) : String :=
  match s with
  | .field f => f.read part
  | .whole => part.jsonText

end PageGrep
