/-
# Dates and times

A date is a year, a month and a day; a time of day may follow, with a fraction of a
second and the offset of a zone.
-/
import PageGrep.Yaml.Scalar

namespace PageGrep.Yaml

/-- A time of day: its parts, the digits of the fraction of its second, and the offset
of its zone in minutes. -/
structure Clock where
  hour : Nat
  minute : Nat
  second : Nat
  fraction : List Char
  offset : Option Int
deriving DecidableEq, Repr

/-- A date as it is written, with the time of day if there is one.  `padded` tells
whether the month and the day have two digits each. -/
structure Stamp where
  year : Nat
  month : Nat
  day : Nat
  padded : Bool
  clock : Option Clock
deriving DecidableEq, Repr

namespace Stamp

/-- Takes so many digits, at least and at most. -/
def digits? (least most : Nat) (cs : List Char) : Option (List Char × List Char) :=
  let digits := (cs.take most).takeWhile Json.isDecimal
  if digits.length < least then none else some (digits, cs.drop digits.length)

def past? (c : Char) : List Char → Option (List Char)
  | x :: rest => if x == c then some rest else none
  | [] => none

def isGap (c : Char) : Bool := c == ' ' || c == '\t'

def pastGap? : List Char → Option (List Char)
  | c :: rest =>
    if c == 'T' || c == 't' then some rest
    else if isGap c then some (rest.dropWhile isGap)
    else none
  | [] => none

/-- The digits after the point, if there is one. -/
def fraction : List Char → List Char × List Char
  | '.' :: rest => (rest.takeWhile Json.isDecimal, rest.dropWhile Json.isDecimal)
  | cs => ([], cs)

/-- The offset of a zone, which is all that may be left; nothing without a zone. -/
def zone? (cs : List Char) : Option (Option Int) := do
  if cs.isEmpty then return none
  match cs.dropWhile isGap with
  | ['Z'] => return some 0
  | s :: rest =>
    if s != '+' && s != '-' then failure
    let (hours, rest) ← digits? 1 2 rest
    let minutes ←
      match rest with
      | [] => pure []
      | _ => do
        let (minutes, rest) ← digits? 2 2 (← past? ':' rest)
        if rest.isEmpty then pure minutes else failure
    let size : Int := Json.decimalValue hours * 60 + Json.decimalValue minutes
    return some (if s == '-' then -size else size)
  | [] => failure

/-- The time of day, which is all that may be left. -/
def clock? (cs : List Char) : Option Clock := do
  let (hour, rest) ← digits? 1 2 (← pastGap? cs)
  let (minute, rest) ← digits? 2 2 (← past? ':' rest)
  let (second, rest) ← digits? 2 2 (← past? ':' rest)
  let (fraction, rest) := fraction rest
  return ⟨Json.decimalValue hour, Json.decimalValue minute, Json.decimalValue second, fraction,
    ← zone? rest⟩

/-- The date that characters write, with the time of day if there is one. -/
def ofChars? (cs : List Char) : Option Stamp := do
  let (year, rest) ← digits? 4 4 cs
  let (month, rest) ← digits? 1 2 (← past? '-' rest)
  let (day, rest) ← digits? 1 2 (← past? '-' rest)
  let clock ← if rest.isEmpty then pure none else some <$> clock? rest
  return ⟨Json.decimalValue year, Json.decimalValue month, Json.decimalValue day,
    month.length == 2 && day.length == 2, clock⟩

/-- Whether characters have the form of a date with padded parts, or of a date and a
time. -/
def isForm (cs : List Char) : Bool :=
  match ofChars? cs with
  | some s => s.padded || s.clock.isSome
  | none => false

/-! ## Checked dates -/

def isLeap (year : Nat) : Bool := (year % 4 == 0 && year % 100 != 0) || year % 400 == 0

def daysIn (year month : Nat) : Nat :=
  if month == 2 then (if isLeap year then 29 else 28)
  else if [4, 6, 9, 11].contains month then 30
  else 31

/-- The number of days before a date of a year from one on. -/
def daysBefore (year month day : Nat) : Nat :=
  let past := year - 1
  past * 365 + past / 4 - past / 100 + past / 400
    + ((List.range (month - 1)).map fun m => daysIn year (m + 1)).foldl Nat.add 0 + (day - 1)

/-- Refuses a date that does not exist. -/
def checkDate (s : Stamp) : Except Fault Unit := do
  if s.year == 0 then throw (.outOfRange .year s.year)
  if s.month == 0 || 12 < s.month then throw (.outOfRange .month s.month)
  if s.day == 0 || daysIn s.year s.month < s.day then throw (.outOfRange .day s.day)

/-- Refuses a zone that is a day or more away. -/
def checkOffset (c : Clock) : Except Fault Unit :=
  match c.offset with
  | some minutes => if 1440 ≤ minutes.natAbs then throw (.offsetTooLarge minutes) else .ok ()
  | none => .ok ()

/-- Refuses a time of day that does not exist. -/
def checkClock (c : Clock) : Except Fault Unit := do
  if 23 < c.hour then throw (.outOfRange .hour c.hour)
  if 59 < c.minute then throw (.outOfRange .minute c.minute)
  if 59 < c.second then throw (.outOfRange .second c.second)

/-- The fraction of a second in millionths. -/
def millionths (c : Clock) : Nat :=
  let digits := c.fraction.take 6
  Json.decimalValue (digits ++ List.replicate (6 - digits.length) '0')

/-- The number of millionths of a second before a date and a time, counted without the
offset of the zone. -/
def moment (s : Stamp) (c : Clock) : Int :=
  let seconds : Int :=
    ((daysBefore s.year s.month s.day * 24 + c.hour) * 60 + c.minute) * 60 + c.second
  (seconds - c.offset.getD 0 * 60) * 1000000 + millionths c

end Stamp

end PageGrep.Yaml
