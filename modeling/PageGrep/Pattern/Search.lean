/-
# Finding a match

The matcher walks a sequence of nodes with a continuation for what comes after it, and
goes back to the last choice when the continuation fails.  A match is found if the walk
succeeds from some place of the text.

A walk leaves a trail: marks where groups were entered and left, and the place that was
noted last.  Going back to a choice takes marks back: all of them in the round of a
repetition, elsewhere only the number of those that count.  A possessive repetition goes
on from the place that was noted last.  That is where its last round ended, if the engine
rewinds; in one that does not, it is where the round that failed was given up.

A repetition that is free to stop tries another round only if the last one moved on, so
the rounds that it is free to take are bounded by the length of the text.
-/
import PageGrep.Pattern.Node

namespace PageGrep.Pattern

/-! ## Trails -/

/-- Marks of groups, two for each, of which so many count, and the place noted last. -/
structure Trail where
  marks : Array (Option Nat)
  counting : Nat
  noted : Nat
deriving Repr

/-- What follows a part of the pattern at a place: whether it succeeds, and the trail. -/
abbrev Rest := Nat → Trail → Bool × Trail

/-- A part of the pattern that leads on to what follows it. -/
abbrev Walk := Nat → Rest → Trail → Bool × Trail

namespace Trail

def start (groups pos : Nat) : Trail := ⟨Array.replicate (2 * groups) none, 0, pos⟩

def note (pos : Nat) (t : Trail) : Trail := { t with noted := pos }

/-- Forgets the marks from one number up to another. -/
def forget (marks : Array (Option Nat)) (first : Nat) : (count : Nat) → Array (Option Nat)
  | 0 => marks
  | n + 1 => forget (marks.setIfInBounds first none) (first + 1) n

/-- Sets a mark; marks before it that did not count are forgotten. -/
def mark (number pos : Nat) (t : Trail) : Trail :=
  let marks := forget t.marks t.counting (number - t.counting)
  { t with
    marks := marks.setIfInBounds number (some pos)
    counting := max t.counting (number + 1) }

/-- Takes back what was marked since an earlier trail. -/
def back (looping : Bool) (before now : Trail) : Trail :=
  { now with
    marks := if looping then before.marks else now.marks
    counting := before.counting }

/-- The text between the marks of a group, as its two ends. -/
def held? (t : Trail) (group : Nat) : Option (Nat × Nat) :=
  if 2 * group ≤ t.counting then
    match t.marks.getD (2 * group - 2) none, t.marks.getD (2 * group - 1) none with
    | some a, some b => if a ≤ b then some (a, b) else none
    | _, _ => none
  else none

/-- Whether some group is left before it is entered. -/
def isGarbled (t : Trail) : Bool :=
  (List.range (t.counting / 2)).any fun k =>
    match t.marks.getD (2 * k) none, t.marks.getD (2 * k + 1) none with
    | some a, some b => b < a
    | _, _ => false

end Trail

/-- Succeeds where it stands. -/
def accept : Rest := fun pos t => (true, t.note pos)

/-! ## Places -/

/-- Whether the character at a position is of the kind that makes up words. -/
def isWordAt (text : Array Nat) (ascii : Bool) (pos : Nat) : Bool :=
  (text[pos]?.map (Kind.holds .word ascii)).getD false

/-- Whether a place lies between a word and what is no word. -/
def isWordEdge (text : Array Nat) (ascii : Bool) (pos : Nat) : Bool :=
  (0 < pos && isWordAt text ascii (pos - 1)) != isWordAt text ascii pos

/-- Whether a condition holds of a place.  In the empty text no place is an edge of a
word, nor is any inside of or outside of one. -/
def Condition.holds (text : Array Nat) (pos : Nat) : Condition → Bool
  | .textStart => pos == 0
  | .textEnd => pos == text.size
  | .lastLineEnd => pos == text.size || (pos + 1 == text.size && text.getD pos 0 == 10)
  | .lineStart => pos == 0 || text.getD (pos - 1) 0 == 10
  | .lineEnd => pos == text.size || text.getD pos 0 == 10
  | .wordEdge ascii negated => text.size != 0 && isWordEdge text ascii pos != negated

def Class.holdsAt (text : Array Nat) (c : Class) (pos : Nat) : Bool :=
  if h : pos < text.size then c.holds text[pos] else false

/-! ## Repetitions -/

/-- Whether another free round may be taken from a place: the bound is not reached and
the last round, which started at `last`, has moved on. -/
def mayGo (most last : Option Nat) (pos : Nat) : Bool := most != some 0 && last != some pos

/-- Goes a number of rounds and on. -/
def rounds (body : Walk) (rest : Rest) : (count : Nat) → Rest
  | 0, pos, t => rest pos t
  | n + 1, pos, t =>
    match body pos (rounds body rest n) (t.note pos) with
    | (true, t) => (true, t)
    | (false, t) => (false, t.note pos)

/-- Goes on, and notes where it stood if that fails. -/
def orNote (rest : Rest) (pos : Nat) (t : Trail) : Bool × Trail :=
  match rest pos t with
  | (true, t) => (true, t)
  | (false, t) => (false, t.note pos)

/-- Free rounds, the most first. -/
def mostFirst (body : Walk) (rest : Rest) : (fuel : Nat) → (most last : Option Nat) → Rest
  | 0, _, _, pos, t => orNote rest pos (t.note pos)
  | fuel + 1, most, last, pos, t =>
    let t := t.note pos
    if mayGo most last pos then
      match body pos (mostFirst body rest fuel (most.map (· - 1)) (some pos)) t with
      | (true, t) => (true, t)
      | (false, t') => orNote rest pos ((Trail.back true t t').note pos)
    else orNote rest pos t

/-- Free rounds, the least first. -/
def leastFirst (looping : Bool) (body : Walk) (rest : Rest) :
    (fuel : Nat) → (most last : Option Nat) → Rest
  | 0, _, _, pos, t => orNote rest pos (t.note pos)
  | fuel + 1, most, last, pos, t =>
    let t := t.note pos
    match rest pos t with
    | (true, t) => (true, t)
    | (false, t') =>
      let t := (Trail.back looping t t').note pos
      if mayGo most last pos then
        orNote (fun pos t => body pos
          (leastFirst looping body rest fuel (most.map (· - 1)) (some pos)) t) pos t
      else (false, t)

/-- A number of rounds none of which is taken back, from the place noted last. -/
def roundsWithoutReturn (body : Walk) : (count : Nat) → Trail → Bool × Trail
  | 0, t => (true, t)
  | n + 1, t =>
    match body t.noted accept t with
    | (true, t) => roundsWithoutReturn body n t
    | (false, t) => (false, t)

/-- Free rounds as long as they succeed, none of which is taken back.  With `rewinds` the round
that failed leaves the place noted where it was. -/
def withoutReturn (rewinds : Bool) (body : Walk) :
    (fuel : Nat) → (most last : Option Nat) → Trail → Trail
  | 0, _, _, t => t
  | fuel + 1, most, last, t =>
    if mayGo most last t.noted then
      match body t.noted accept t with
      | (true, t') => withoutReturn rewinds body fuel (most.map (· - 1)) (some t.noted) t'
      | (false, t') =>
        let t' := Trail.back true t t'
        if rewinds then t'.note t.noted else t'
    else t

/-- A repetition that takes nothing back. -/
def possessive (rewinds : Bool) (fuel least : Nat) (free : Option Nat) (body : Walk) : Walk :=
  fun pos rest t =>
    match roundsWithoutReturn body least (t.note pos) with
    | (false, t) => (false, t.note pos)
    | (true, t) =>
      let t := withoutReturn rewinds body fuel free none t
      rest t.noted t

/-- A repetition of a body, which is walked with `inside` in a repetition that takes
rounds back and with `outside` in one that does not. -/
def repetition (size : Nat) (looping : Bool) (greed : Greed) (rewinds : Bool) (least : Nat)
    (most : Option Nat) (inside outside : Walk) : Walk := fun pos rest t =>
  let free := most.map (· - least)
  match greed with
  | .greedy => rounds inside (mostFirst inside rest (size + 2) free none) least pos t
  | .reluctant => rounds inside (leastFirst looping inside rest (size + 2) free none) least pos t
  | .possessive => possessive rewinds (size + 2) least free outside pos rest t

/-! ## Repetitions of one character -/

/-- The number of characters of a class from a position on, at most `most`; `so` come
before. -/
def runLength (text : Array Nat) (c : Class) (pos so : Nat) : (most : Nat) → Nat
  | 0 => so
  | n + 1 => if c.holdsAt text pos then runLength text c (pos + 1) (so + 1) n else so

/-- The trail once `count` characters of a class were counted from a position on: a class
of letters in either case notes how far it went. -/
def counted (c : Class) (pos count : Nat) (t : Trail) : Trail :=
  if c.isFoldedSet && count != 0 then t.note (pos + count) else t

/-- Goes on from `count` characters after a position, then from one less, down to
`least`.  Where a certain character has to follow, only places before it are tried. -/
def shorten (text : Array Nat) (looping : Bool) (next? : Option Nat) (least pos : Nat)
    (rest : Rest) : (count : Nat) → Trail → Bool × Trail
  | count, t =>
    if count < least then (false, t)
    else
      let tried :=
        if next?.isNone || text[pos + count]? == next? then
          match rest (pos + count) (t.note (pos + count)) with
          | (true, t') => (true, t')
          | (false, t') => (false, Trail.back looping t t')
        else (false, t)
      match tried, count with
      | (true, t), _ => (true, t)
      | (false, t), n + 1 => shorten text looping next? least pos rest n t
      | (false, t), 0 => (false, t)

/-- Goes on from a position, then from one character of a class further, up to `most`
more. -/
def lengthen (text : Array Nat) (looping : Bool) (c : Class) (rest : Rest) :
    (fuel : Nat) → (most : Option Nat) → Rest
  | 0, _, _, t => (false, t)
  | fuel + 1, most, pos, t =>
    match rest pos (t.note pos) with
    | (true, t') => (true, t')
    | (false, t') =>
      let t := (Trail.back looping t t').note pos
      if c.holdsAt text pos then
        let t := counted c pos 1 t
        if most == some 0 then (false, t)
        else lengthen text looping c rest fuel (most.map (· - 1)) (pos + 1) t
      else (false, t)

/-- A repetition of one character. -/
def walkRun (text : Array Nat) (looping : Bool) (next? : Option Nat) (greed : Greed) (least : Nat)
    (most : Option Nat) (c : Class) : Walk := fun pos rest t =>
  let room := text.size - pos
  if room < least then (false, t)
  else
    let limit :=
      match greed with
      | .reluctant => least
      | _ => (most.map (min room)).getD room
    let count := runLength text c pos 0 limit
    let t := counted c pos count (t.note pos)
    if count < least then (false, t)
    else
      match greed with
      | .greedy => shorten text looping next? least pos rest count t
      | .reluctant =>
        lengthen text looping c rest (room + 1) (most.map (· - least)) (pos + count) t
      | .possessive => rest (pos + count) t

/-! ## Nodes -/

/-- Whether two stretches of the text are the same under a folding. -/
def sameText (text : Array Nat) (folding : Folding) (a b : Nat) : (count : Nat) → Bool
  | 0 => true
  | n + 1 =>
    match text[a]?, text[b]? with
    | some x, some y => folding.fold x == folding.fold y && sameText text folding (a + 1) (b + 1) n
    | _, _ => false

/-- The code point that a sequence must start with, if it starts with one character;
for the empty sequence, the one that must follow it. -/
def leading? (next? : Option Nat) : List Node → Option Nat
  | [] => next?
  | .one c :: _ => c.only?
  | _ => none

/-- Whether an alternative may be passed over at a place because it starts with a
character that is not there. -/
def passesOver (text : Array Nat) (pos : Nat) : List Node → Bool
  | .one c :: _ => c.isPlain && !c.holdsAt text pos
  | _ => false

mutual

/-- Matches one node and goes on.  `looping` tells whether it stands in a round of a
repetition, `next?` the code point that must come after it, if there is one. -/
def Node.walk (text : Array Nat) (looping : Bool) (next? : Option Nat) : Node → Walk
  | .one c, pos, rest, t => if c.holdsAt text pos then rest (pos + 1) t else (false, t)
  | .condition c, pos, rest, t => if c.holds text pos then rest pos t else (false, t)
  | .again folding group, pos, rest, t =>
    match t.held? group with
    | some (a, b) =>
      if sameText text folding a pos (b - a) then rest (pos + (b - a)) t else (false, t)
    | none => (false, t)
  | .capture group body, pos, rest, t =>
    Node.walkAll text looping none body pos (fun pos t => rest pos (t.mark (2 * group - 1) pos))
      (t.mark (2 * group - 2) pos)
  | .atomic body, pos, rest, t =>
    match Node.walkAll text looping none body pos accept (t.note pos) with
    | (true, t) => rest t.noted t
    | (false, t) => (false, t.note pos)
  | .branch alternatives, pos, rest, t => Node.walkAny text looping t alternatives pos rest t
  | .run greed least most c, pos, rest, t =>
    walkRun text looping next? greed least most c pos rest t
  | .repeated greed rewinds least most body, pos, rest, t =>
    repetition text.size looping greed rewinds least most (Node.walkAll text true none body)
      (Node.walkAll text looping none body) pos rest t
  | .look positive back body, pos, rest, t =>
    if pos < back then if positive then (false, t) else rest pos t
    else
      match positive,
          Node.walkAll text looping none body (pos - back) accept (t.note (pos - back)) with
      | true, (true, t) => rest pos t
      | false, (true, t) => (false, t)
      | true, (false, t') => (false, t')
      | false, (false, t') => rest pos (Trail.back looping t t')
  | .choice group matched unmatched, pos, rest, t =>
    match t.held? group with
    | some _ =>
      Node.walkAll text looping (if unmatched.isEmpty then next? else none) matched pos rest t
    | none => Node.walkAll text looping next? unmatched pos rest t

/-- Matches the nodes of a sequence one after the other and goes on. -/
def Node.walkAll (text : Array Nat) (looping : Bool) (next? : Option Nat) : List Node → Walk
  | [], pos, rest, t => rest pos t
  | node :: nodes, pos, rest, t =>
    Node.walk text looping (leading? next? nodes) node pos
      (fun pos t => Node.walkAll text looping next? nodes pos rest t) t

/-- Matches the first alternative that leads on; `before` is the trail before the first
one. -/
def Node.walkAny (text : Array Nat) (looping : Bool) (before : Trail) : List (List Node) → Walk
  | [], _, _, t => (false, t)
  | nodes :: others, pos, rest, t =>
    if passesOver text pos nodes then Node.walkAny text looping before others pos rest t
    else
      match Node.walkAll text looping none nodes pos rest (t.note pos) with
      | (true, t) => (true, t)
      | (false, t) =>
        Node.walkAny text looping before others pos rest (Trail.back looping before t)

end

/-! ## Whole texts -/

/-- What a search comes to; a match is garbled if a group in it is left before it is
entered. -/
inductive Finding where
  | absent
  | present
  | garbled
deriving DecidableEq, Repr

/-- Why a search gives no answer. -/
inductive Breakdown where
  | garbled
deriving DecidableEq, Repr

def Breakdown.message : Breakdown → String
  | garbled =>
    "The span of capturing group is wrong, please report a bug for the re module."

/-- Whether a match may start at a place: the character there must be of the first set. -/
def mayStart (text : Array Nat) (first? : Option Class) (pos : Nat) : Bool :=
  match first? with
  | none => true
  | some first => first.holdsAt text pos

/-- What comes of the nodes from a place. -/
def findAt (text : Array Nat) (groups : Nat) (nodes : List Node) (pos : Nat) : Finding :=
  match Node.walkAll text false none nodes pos accept (Trail.start groups pos) with
  | (true, t) => if t.isGarbled then .garbled else .present
  | (false, _) => .absent

/-- What comes of the nodes from one of the next places of the text. -/
def findFrom (text : Array Nat) (groups : Nat) (first? : Option Class) (nodes : List Node)
    (pos : Nat) : (places : Nat) → Finding
  | 0 => .absent
  | n + 1 =>
    let here := if mayStart text first? pos then findAt text groups nodes pos else .absent
    if here = .absent then findFrom text groups first? nodes (pos + 1) n else here

/-- What comes of the nodes in the text, of which a match takes `least` characters or
more. -/
def findIn (groups least : Nat) (first? : Option Class) (nodes : List Node) (text : Array Nat) :
    Finding :=
  if text.size < least then .absent
  else findFrom text groups first? nodes 0 (text.size + 2 - max least 1)

end PageGrep.Pattern
