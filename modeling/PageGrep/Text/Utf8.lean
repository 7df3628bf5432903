/-
# Octets and text

A file is a list of octets; its text is what they spell in UTF-8.  Overlong forms,
surrogates and numbers beyond the last code point are no text.  A fault names the
octets that cannot be read and why.  `plainLines` is the second half of reading a
text file: each of the three line ends is read as one line feed.
-/
import PageGrep.Text.Quoted

namespace PageGrep.Text

namespace Utf8

/-- Why octets are no text. -/
inductive Reason where
  | invalidStart
  | invalidContinuation
  | unexpectedEnd
deriving DecidableEq, Repr

/-- Octets that cannot be read: the first of them, its position and their number. -/
structure Fault where
  reason : Reason
  octet : Nat
  position : Nat
  count : Nat
deriving DecidableEq, Repr

def Reason.message : Reason → String
  | invalidStart => "invalid start byte"
  | invalidContinuation => "invalid continuation byte"
  | unexpectedEnd => "unexpected end of data"

def Fault.message (f : Fault) : String :=
  let place :=
    if f.count == 1 then
      "byte 0x" ++ String.ofList (Quoted.hexDigits 2 f.octet) ++ " in position "
        ++ toString f.position
    else
      "bytes in position " ++ toString f.position ++ "-" ++ toString (f.position + f.count - 1)
  "'utf-8' codec can't decode " ++ place ++ ": " ++ f.reason.message

/-- What the first octet of a character promises: how many octets follow, the range of
the next one, and the leading bits of the code point. -/
structure Lead where
  tails : Nat
  low : Nat
  high : Nat
  bits : Nat

/-- The promise of a first octet, if a character can start with it. -/
def lead? (a : Nat) : Option Lead :=
  if a < 0x80 then some ⟨0, 0x80, 0xBF, a⟩
  else if a < 0xC2 then none
  else if a < 0xE0 then some ⟨1, 0x80, 0xBF, a - 0xC0⟩
  else if a < 0xF0 then
    some ⟨2, if a == 0xE0 then 0xA0 else 0x80, if a == 0xED then 0x9F else 0xBF, a - 0xE0⟩
  else if a < 0xF5 then
    some ⟨3, if a == 0xF0 then 0x90 else 0x80, if a == 0xF4 then 0x8F else 0xBF, a - 0xF0⟩
  else none

/-- Reads the octets that follow a first one: the code point and the rest, or the
number of octets read before the fault. -/
def readTails (low high code read : Nat) :
    (count : Nat) → List UInt8 → Except (Reason × Nat) (Nat × List UInt8)
  | 0, rest => .ok (code, rest)
  | _ + 1, [] => .error (.unexpectedEnd, read)
  | n + 1, b :: rest =>
    if low ≤ b.toNat && b.toNat ≤ high then
      readTails 0x80 0xBF (code * 64 + (b.toNat - 0x80)) (read + 1) n rest
    else .error (.invalidContinuation, read)

/-- Reads characters until the octets end; `position` is the number of octets read. -/
def decodeFrom (position : Nat) : (fuel : Nat) → List UInt8 → Except Fault (List Char)
  | 0, _ | _, [] => .ok []
  | fuel + 1, a :: rest =>
    match lead? a.toNat with
    | none => .error ⟨.invalidStart, a.toNat, position, 1⟩
    | some l =>
      match readTails l.low l.high l.bits 1 l.tails rest with
      | .error (reason, count) => .error ⟨reason, a.toNat, position, count⟩
      | .ok (code, rest) =>
        match decodeFrom (position + l.tails + 1) fuel rest with
        | .ok cs => .ok (Char.ofNat code :: cs)
        | .error f => .error f

def decode (octets : List UInt8) : Except Fault String :=
  (decodeFrom 0 octets.length octets).map String.ofList

def encode (s : String) : List UInt8 := s.toUTF8.toList

end Utf8

/-- Reads a carriage return, alone or before a line feed, as a line feed. -/
def plainLines : List Char → List Char
  | [] => []
  | '\r' :: '\n' :: rest => '\n' :: plainLines rest
  | c :: rest => (if c == '\r' then '\n' else c) :: plainLines rest

/-- The text of a file with one kind of line end. -/
def readText (octets : List UInt8) : Except Utf8.Fault String :=
  (Utf8.decode octets).map fun s => String.ofList (plainLines s.toList)

end PageGrep.Text
