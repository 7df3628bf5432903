/-
# Moments

The time at which a command runs stands in the lines of its log and in the names of the
files that it writes.
-/

namespace PageGrep

/-- A moment of the local clock. -/
structure Moment where
  year : Nat
  month : Nat
  day : Nat
  hour : Nat
  minute : Nat
  second : Nat
deriving DecidableEq, Repr, Inhabited

namespace Moment

/-- A number below a hundred, in two digits. -/
def two (n : Nat) : String := (if n < 10 then "0" else "") ++ toString n

/-- The hour, minute and second, with something between. -/
def timeOfDay (m : Moment) (between : String) : String :=
  between.intercalate [two m.hour, two m.minute, two m.second]

def resultStamp (m : Moment) : String :=
  toString m.year ++ two m.month ++ two m.day ++ "_" ++ m.timeOfDay ""

def logStamp (m : Moment) : String := two m.month ++ two m.day ++ m.timeOfDay ""

def lineStamp (m : Moment) : String :=
  two m.month ++ "-" ++ two m.day ++ " " ++ m.timeOfDay ":"

end Moment

end PageGrep
