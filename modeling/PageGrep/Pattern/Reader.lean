/-
# Reading a pattern

`Pattern.read` gives the tree of a pattern and its settings, or the first error.  A
group is read when its parenthesis comes, sets and repetitions in place; alternatives
that all start alike share what they start with, alternatives of one character each
become a set, and plain groups leave only their bodies.  `fuel` bounds the number of
signs that may still be taken; every reader that calls itself has taken one.
-/
import PageGrep.Pattern.Escape
import PageGrep.Text.Identifier

namespace PageGrep.Pattern

/-! ## Alternatives -/

/-- The members without those that came before. -/
def distinct (members : List Member) : List Member :=
  members.foldl (fun so m => if so.contains m then so else so ++ [m]) []

/-- The leaf that every alternative starts with. -/
def sharedLeaf? (alternatives : List (List Tree)) : Option Leaf :=
  match alternatives with
  | (first :: _) :: others =>
    first.leaf?.filter fun l =>
      others.all fun alternative => (alternative.head?.bind Tree.leaf?) == some l
  | _ => none

/-- Moves what all alternatives start with in front of them. -/
def factor (alternatives : List (List Tree)) : (fuel : Nat) → List Leaf × List (List Tree)
  | 0 => ([], alternatives)
  | fuel + 1 =>
    match sharedLeaf? alternatives with
    | some l =>
      let (leaves, rest) := factor (alternatives.map (·.drop 1)) fuel
      (l :: leaves, rest)
    | none => ([], alternatives)

/-- The members that an alternative of one character stands for. -/
def charactersOf? : List Tree → Option (List Member)
  | [.leaf (.one code)] => some [.one code]
  | [.leaf (.set false members)] => some members
  | _ => none

/-- The sequence that stands for several alternatives. -/
def ofAlternatives (alternatives : List (List Tree)) : List Tree :=
  match alternatives with
  | [only] => only
  | _ =>
    let (leaves, rest) := factor alternatives ((alternatives.headD []).length + 1)
    let last :=
      match rest.mapM charactersOf? with
      | some members => Tree.leaf (.set false (distinct members.flatten))
      | none => Tree.branch rest
    leaves.map Tree.leaf ++ [last]

/-! ## Sets -/

/-- One end of a range, or a member alone. -/
def readMember (t : Token) : Read Member :=
  if t.escaped then memberEscape t.char else return .one t.char.toNat

def refuseRange {α : Type} (low high : Token) : Read α :=
  Read.refuse (.badRange low.text high.text) (low.size + 1 + high.size)

/-- Takes the next sign of the set that starts at `start`. -/
def nextInSet (start : Nat) : Read Token := do
  match ← Read.next with
  | some t => return t
  | none => Read.refuseAt .unterminatedSet start

/-- The members of a set, `so` being those before; a closing bracket that comes first
is a member. -/
def readMembers (start : Nat) (so : List Member) : (fuel : Nat) → Read (List Member)
  | 0 => Read.refuseAt .unterminatedSet start
  | fuel + 1 => do
    let low ← nextInSet start
    if low.isChar ']' && !so.isEmpty then return so
    let member ← readMember low
    if !(← Read.accept '-') then readMembers start (so ++ [member]) fuel
    else
      let high ← nextInSet start
      if high.isChar ']' then return so ++ [member, .one '-'.toNat]
      let other ← readMember high
      match member, other with
      | .one a, .one b =>
        if b < a then refuseRange low high
        else readMembers start (so ++ [.range a b]) fuel
      | _, _ => refuseRange low high

/-- A set, from the sign after its bracket on. -/
def readSet (start : Nat) : Read Leaf := do
  let negated ← Read.accept '^'
  let members := distinct (← readMembers start [] ((← get).ahead.length + 1))
  match members, negated with
  | [.one code], true => return .notOne code
  | [.one code], false => return .one code
  | _, _ => return .set negated members

/-! ## Repetitions -/

/-- Counts from this one on are refused. -/
def countLimit : Nat := 4294967295

/-- The count that digits spell, none without digits. -/
def readCount (digits : List Char) : Read (Option Nat) := do
  if digits.isEmpty then return none
  if Text.Numeral.digitLimit < digits.length then throw (.excessive (.countTooLong digits.length))
  let count := digitsValue 10 digits
  if countLimit ≤ count then throw (.excessive .countTooLarge)
  return some count

/-- The bounds of a repetition, from the sign after its brace on; nothing if the brace
stands for itself, and then no sign is taken. -/
def readBounds : Read (Option (Nat × Option Nat)) := do
  if ← Read.nextIs (· == '\x7d') then return none
  let here ← get
  let start ← Read.position
  let low ← Read.takeAll isDecimal
  let high ← if ← Read.accept ',' then Read.takeAll isDecimal else pure low
  if !(← Read.accept '\x7d') then
    set here
    return none
  let least ← readCount low
  let most ← readCount high
  if let (some a, some b) := (least, most) then
    if b < a then Read.refuseAt .leastAboveMost start
  return some (least.getD 0, most)

/-- The bounds that a sign of repetition gives. -/
def boundsOf (c : Char) : Read (Option (Nat × Option Nat)) := do
  if c == '?' then return some (0, some 1)
  else if c == '*' then return some (0, none)
  else if c == '+' then return some (1, none)
  else readBounds

def isRepeatSign (c : Char) : Bool := c == '*' || c == '+' || c == '?' || c == '\x7b'

/-- How a repetition chooses its count, by the sign after it. -/
def readGreed : Read Greed := do
  if ← Read.accept '?' then return .reluctant
  else if ← Read.accept '+' then return .possessive
  else return .greedy

/-- Repeats the last part of a sequence, kept in reverse. -/
def repeatLast (parts : List Tree) (place least : Nat) (most : Option Nat) :
    Read (List Tree) := do
  match parts with
  | [] => Read.refuseAt .nothingToRepeat place
  | .leaf (.place _) :: _ => Read.refuseAt .nothingToRepeat place
  | .repeated _ _ _ _ :: _ => Read.refuseAt .multipleRepeat place
  | part :: before =>
    let body := part.plainBody?.getD [part]
    return .repeated (← readGreed) least most body :: before

/-! ## Settings within the pattern -/

/-- Refuses a sign where another setting or one of `what` should stand. -/
def refuseSetting {α : Type} (t : Token) (what : String) : Read α :=
  Read.refuse
    (if t.satisfies (fun c => Text.isLetter c.toNat) then .unknownSetting
      else .settingExpected what) t.size

/-- Whether a sign is a letter for a setting; `L` is one that is always refused. -/
def isSettingLetter (c : Char) : Bool := (Settings.ofLetter? c).isSome || c == 'L'

/-- The settings switched on, from the letter just taken on, and the sign after them. -/
def readOn (so : Settings) (c : Char) : (fuel : Nat) → Read (Settings × Char)
  | 0 => Read.refuse (.settingExpected "-, : or )") 0
  | fuel + 1 => do
    match Settings.ofLetter? c with
    | none => Read.refuse .localeSetting 0
    | some setting =>
      let on := so.union setting
      if setting.choosesClasses && on.ascii && on.unicode then Read.refuse .classesConflict 0
      match ← Read.next with
      | none => Read.refuse (.settingExpected "-, : or )") 0
      | some t =>
        if t.satisfies (fun c => c == ')' || c == '-' || c == ':') then return (on, t.char)
        else if t.satisfies isSettingLetter then readOn on t.char fuel
        else refuseSetting t "-, : or )"

/-- The settings switched off, from the letter just taken on. -/
def readOff (so : Settings) (c : Char) : (fuel : Nat) → Read Settings
  | 0 => Read.refuse (.settingExpected ":") 0
  | fuel + 1 => do
    match Settings.ofLetter? c with
    | none => Read.refuse .classesOff 0
    | some setting =>
      if setting.choosesClasses then Read.refuse .classesOff 0
      let off := so.union setting
      match ← Read.next with
      | none => Read.refuse (.settingExpected ":") 0
      | some t =>
        if t.isChar ':' then return off
        else if t.satisfies isSettingLetter then readOff off t.char fuel
        else refuseSetting t ":"

/-- The settings of a group, from its first sign on: those switched on and off inside
it, or nothing if they were made settings of the whole pattern. -/
def readSettings (c : Char) : Read (Option (Settings × Settings)) := do
  let fuel := (← get).ahead.length + 1
  let (on, closing) ← if c == '-' then pure (Settings.none, '-') else readOn .none c fuel
  if closing == ')' then
    modify fun now => { now with settings := now.settings.union on }
    return none
  if on.plain then Read.refuse .globalOn 1
  let off ←
    if closing == '-' then
      match ← Read.next with
      | none => Read.refuse (.settingExpected "flag") 0
      | some t =>
        if t.satisfies isSettingLetter then readOff .none t.char fuel
        else refuseSetting t "flag"
    else pure Settings.none
  if off.plain then Read.refuse .globalOff 1
  if on.common off ≠ Settings.none then Read.refuse .onAndOff 1
  return some (on, off)

/-! ## Groups -/

/-- What a parenthesis opens. -/
inductive Opening where
  | group (capturing : Bool) (called : Option String) (on off : Settings)
  | atomic
  | look (ahead positive : Bool)
  | choice (group : Nat)
  | again (group : Nat)
  | comment
  | settings
deriving Repr

/-- Takes the next sign of an opening, of which there must be one. -/
def nextInOpening : Read Token := do
  match ← Read.next with
  | some t => return t
  | none => Read.refuse .endOfPattern 0

def readGroupName (closing : Char) : Read String := do
  let name ← Read.name closing "group name"
  if !Text.isName name.toList then Read.refuse (.badGroupName name) (name.length + 1)
  return name

def readNamedReference : Read Opening := do
  let name ← readGroupName ')'
  match (← get).names.find? (·.1 == name) with
  | none => Read.refuse (.unknownGroupName name) (name.length + 1)
  | some (_, number) =>
    if !(← Read.isClosed number) then Read.refuse .openGroup (name.length + 1)
    Read.checkBehind number
    return .again number

def readNamed : Read Opening := do
  if ← Read.accept '<' then
    return .group true (some (← readGroupName '>')) .none .none
  else if ← Read.accept '=' then readNamedReference
  else
    let t ← nextInOpening
    Read.refuse (.unknownExtension ("P" ++ t.text)) (t.size + 2)

/-- Group numbers from this one on are refused. -/
def groupLimit : Nat := 1073741823

/-- The number of the group that a choice depends on. -/
def readChoiceGroup (name : String) : Read Nat := do
  let back := name.length + 1
  if Text.isName name.toList then
    match (← get).names.find? (·.1 == name) with
    | some (_, number) => return number
    | none => Read.refuse (.unknownGroupName name) back
  else
    match Text.numeral name with
    | .error _ => Read.refuse (.badGroupName name) back
    | .ok number =>
      if number < 0 then Read.refuse (.badGroupName name) back
      if number = 0 then Read.refuse .badGroupNumber back
      if groupLimit ≤ number then Read.refuse (.noSuchGroup number) back
      let group := number.toNat
      if !((← get).choices.any (·.1 == group)) then
        let place ← Read.position
        modify fun now => { now with choices := now.choices ++ [(group, place - back)] }
      return group

def readChoice : Read Opening := do
  let group ← readChoiceGroup (← Read.name ')' "group name")
  Read.checkBehind group
  return .choice group

def readLookBehind : Read Opening := do
  let t ← nextInOpening
  if t.isChar '=' then return .look false true
  else if t.isChar '!' then return .look false false
  else Read.refuse (.unknownExtension ("<" ++ t.text)) (t.size + 2)

def skipComment (start : Nat) : (fuel : Nat) → Read Unit
  | 0 => Read.refuseAt .unterminatedComment start
  | fuel + 1 => do
    match ← Read.next with
    | none => Read.refuseAt .unterminatedComment start
    | some t => if t.isChar ')' then return else skipComment start fuel

/-- What a parenthesis with a question mark opens; `start` is its position. -/
def readExtension (start : Nat) : Read Opening := do
  let t ← nextInOpening
  if t.isChar 'P' then readNamed
  else if t.isChar ':' then return .group false none .none .none
  else if t.isChar '#' then
    skipComment start ((← get).ahead.length + 1)
    return .comment
  else if t.isChar '=' then return .look true true
  else if t.isChar '!' then return .look true false
  else if t.isChar '<' then readLookBehind
  else if t.isChar '(' then readChoice
  else if t.isChar '>' then return .atomic
  else if t.satisfies (fun c => isSettingLetter c || c == '-') then
    match ← readSettings t.char with
    | none => return .settings
    | some (on, off) => return .group false none on off
  else Read.refuse (.unknownExtension t.text) (t.size + 1)

/-- What a parenthesis opens; `start` is its position. -/
def readOpening (start : Nat) : Read Opening := do
  if ← Read.accept '?' then readExtension start
  else return .group true none .none .none

/-- Takes the parenthesis that closes what was opened at `start`. -/
def closing (start : Nat) : Read Unit := do
  if !(← Read.accept ')') then Read.refuseAt .unterminatedGroup start

/-! ## Sequences -/

/-- Takes the rest of a comment that ends with its line. -/
def skipLine : (fuel : Nat) → Read Unit
  | 0 => return
  | fuel + 1 => do
    match ← Read.next with
    | none => return
    | some t => if t.isChar '\n' then return else skipLine fuel

/-- Whether a character between parts is skipped where the pattern may be laid out. -/
def isLayout (c : Char) : Bool := Text.isBasicBlank c.toNat

/-- The leaf of a sign that is neither a bracket nor a sign of repetition. -/
def readLeaf (t : Token) : Read Leaf :=
  if t.escaped then leafEscape t.char
  else if t.char == '.' then return .any
  else if t.char == '^' then return .place .lineStart
  else if t.char == '$' then return .place .lineEnd
  else if t.char == '[' then readSet t.start
  else return .one t.char.toNat

/-- Remembers the groups open before a look-behind, unless within another. -/
def enterBehind (ahead : Bool) : Read (Option Nat) := do
  let before := (← get).behind
  if !ahead && before.isNone then
    modify fun now => { now with behind := some now.groups.size }
  return before

/-- Forgets them again after it. -/
def leaveBehind (ahead : Bool) (before : Option Nat) : Read Unit :=
  if !ahead && before.isNone then modify fun now => { now with behind := none }
  else return

mutual

/-- Alternatives up to a closing parenthesis or the end.  On the outermost level the
layout is that of the global settings, which the first alternative may change. -/
def readAlternatives (verbose outermost : Bool) (so : List (List Tree)) :
    (fuel : Nat) → Read (List Tree)
  | 0 => return ofAlternatives so
  | fuel + 1 => do
    let parts ← readParts verbose (outermost && so.isEmpty) [] fuel
    let so := so ++ [parts]
    if ← Read.accept '|' then
      let settings := (← get).settings
      readAlternatives (if outermost then settings.verbose else verbose) outermost so fuel
    else return ofAlternatives so

/-- A sequence of parts up to a bar, a closing parenthesis or the end; `so` holds the
parts before, the last first.  `first` says that global settings may still come. -/
def readParts (verbose first : Bool) (so : List Tree) : (fuel : Nat) → Read (List Tree)
  | 0 => return Tree.splice so.reverse
  | fuel + 1 => do
    match ← Read.peek with
    | none => return Tree.splice so.reverse
    | some t =>
      if t.isChar '|' || t.isChar ')' then return Tree.splice so.reverse
      Read.proceed ((← get).ahead.drop 1)
      if verbose && t.satisfies isLayout then readParts verbose first so fuel
      else if verbose && t.isChar '#' then
        skipLine ((← get).ahead.length + 1)
        readParts verbose first so fuel
      else if t.satisfies isRepeatSign then
        match ← boundsOf t.char with
        | none => readParts verbose first (.leaf (.one t.char.toNat) :: so) fuel
        | some (least, most) =>
          readParts verbose first (← repeatLast so t.start least most) fuel
      else if t.isChar '(' then
        match ← readOpening t.start with
        | .comment => readParts verbose first so fuel
        | .settings =>
          if !first || !so.isEmpty then Read.refuseAt .lateSettings t.start
          let settings := (← get).settings
          readParts settings.verbose first so fuel
        | opening => readParts verbose first ((← readGroup verbose t.start opening fuel) :: so) fuel
      else readParts verbose first (.leaf (← readLeaf t) :: so) fuel

/-- The part that an opening at `start` begins, with its closing parenthesis. -/
def readGroup (verbose : Bool) (start : Nat) (opening : Opening) : (fuel : Nat) → Read Tree
  | 0 => Read.refuseAt .unterminatedGroup start
  | fuel + 1 => do
    match opening with
    | .group capturing called on off =>
      let number ← if capturing then some <$> Read.openGroup called else pure none
      let body ← readAlternatives ((verbose || on.verbose) && !off.verbose) false [] fuel
      closing start
      if let some n := number then Read.closeGroup n body
      return .group number on off body
    | .atomic =>
      let body ← readAlternatives verbose false [] fuel
      closing start
      return .atomic body
    | .look ahead positive =>
      let before ← enterBehind ahead
      let body ← readAlternatives verbose false [] fuel
      leaveBehind ahead before
      closing start
      return .look ahead positive body
    | .choice group =>
      let matched ← readParts verbose false [] fuel
      let unmatched ←
        if ← Read.accept '|' then
          let parts ← readParts verbose false [] fuel
          if ← Read.nextIs (· == '|') then Read.refuse .thirdAlternative 0
          pure parts
        else pure []
      closing start
      return .choice group matched unmatched
    | .again group => return .leaf (.again group)
    | .comment | .settings => return .group none .none .none []

end

/-! ## Whole patterns -/

/-- A pattern that has been read. -/
structure Parsed where
  parts : List Tree
  settings : Settings
  groups : Array (Option Width)

/-- Reads a whole pattern, of which `settings` are in force from the start. -/
def readWhole : Read (List Tree) := do
  Read.proceed (← get).ahead
  let now ← get
  let parts ← readAlternatives now.settings.verbose true [] (3 * now.ahead.length + 3)
  let settings := (← get).settings
  if settings.ascii && settings.unicode then throw (.excessive .twoClassChoices)
  if !(← Read.peek).isNone then Read.refuse .unbalanced 0
  for (group, place) in (← get).choices do
    if (← get).groups.size ≤ group then Read.refuseAt (.noSuchGroup group) place
  return parts

/-- The tree of a pattern, or why it is refused. -/
def read (engine : Engine) (settings : Settings) (source : String) : Except Error Parsed := do
  let cs := source.toList
  let (tokens, dangling) := Token.split 0 cs
  let start : Progress :=
    ⟨engine, tokens, dangling, cs.length, settings, #[none], [], none, []⟩
  let (parts, done) ← readWhole.run start
  return ⟨parts, done.settings, done.groups⟩

end PageGrep.Pattern
