/-
# Characters by name

`namedCharacter?` finds a character by its name in Unicode 14, or by one of its other
names: corrections, those of the control characters, and abbreviations.  Most names are
enumerated; those of variation selectors give a number, those of ideographs the code
point, and those of Hangul syllables the letters that the syllable is made of.

Names are compared without regard to case, but for those of ideographs and syllables.
-/
import PageGrep.Text.CharacterName.Alphabets
import PageGrep.Text.CharacterName.OldScripts
import PageGrep.Text.CharacterName.Pictures
import PageGrep.Text.CharacterName.Syllabaries
import PageGrep.Text.CharacterName.Symbols

namespace PageGrep.Text

/-- The names that are enumerated. -/
def nameRuns : List NameRun :=
  alphabetNames ++ symbolNames ++ syllabaryNames ++ oldScriptNames ++ pictureNames

/-! ## Other names -/

/-- Other names of characters, a semicolon between those of one. -/
def otherNames : List (Nat × String) := [
  (0x0, "NULL;NUL"), (0x1, "START OF HEADING;SOH"), (0x2, "START OF TEXT;STX"),
  (0x3, "END OF TEXT;ETX"), (0x4, "END OF TRANSMISSION;EOT"), (0x5, "ENQUIRY;ENQ"),
  (0x6, "ACKNOWLEDGE;ACK"), (0x7, "ALERT;BEL"), (0x8, "BACKSPACE;BS"),
  (0x9, "CHARACTER TABULATION;HORIZONTAL TABULATION;HT;TAB"),
  (0xA, "LINE FEED;NEW LINE;END OF LINE;LF;NL;EOL"),
  (0xB, "LINE TABULATION;VERTICAL TABULATION;VT"), (0xC, "FORM FEED;FF"),
  (0xD, "CARRIAGE RETURN;CR"), (0xE, "SHIFT OUT;LOCKING-SHIFT ONE;SO"),
  (0xF, "SHIFT IN;LOCKING-SHIFT ZERO;SI"), (0x10, "DATA LINK ESCAPE;DLE"),
  (0x11, "DEVICE CONTROL ONE;DC1"), (0x12, "DEVICE CONTROL TWO;DC2"),
  (0x13, "DEVICE CONTROL THREE;DC3"), (0x14, "DEVICE CONTROL FOUR;DC4"),
  (0x15, "NEGATIVE ACKNOWLEDGE;NAK"), (0x16, "SYNCHRONOUS IDLE;SYN"),
  (0x17, "END OF TRANSMISSION BLOCK;ETB"), (0x18, "CANCEL;CAN"), (0x19, "END OF MEDIUM;EOM"),
  (0x1A, "SUBSTITUTE;SUB"), (0x1B, "ESCAPE;ESC"),
  (0x1C, "INFORMATION SEPARATOR FOUR;FILE SEPARATOR;FS"),
  (0x1D, "INFORMATION SEPARATOR THREE;GROUP SEPARATOR;GS"),
  (0x1E, "INFORMATION SEPARATOR TWO;RECORD SEPARATOR;RS"),
  (0x1F, "INFORMATION SEPARATOR ONE;UNIT SEPARATOR;US"), (0x20, "SP"), (0x7F, "DELETE;DEL"),
  (0x80, "PADDING CHARACTER;PAD"), (0x81, "HIGH OCTET PRESET;HOP"),
  (0x82, "BREAK PERMITTED HERE;BPH"), (0x83, "NO BREAK HERE;NBH"), (0x84, "INDEX;IND"),
  (0x85, "NEXT LINE;NEL"), (0x86, "START OF SELECTED AREA;SSA"),
  (0x87, "END OF SELECTED AREA;ESA"),
  (0x88, "CHARACTER TABULATION SET;HORIZONTAL TABULATION SET;HTS"),
  (0x89, "CHARACTER TABULATION WITH JUSTIFICATION;HORIZONTAL TABULATION WITH JUSTIFICATION;HTJ"),
  (0x8A, "LINE TABULATION SET;VERTICAL TABULATION SET;VTS"),
  (0x8B, "PARTIAL LINE FORWARD;PARTIAL LINE DOWN;PLD"),
  (0x8C, "PARTIAL LINE BACKWARD;PARTIAL LINE UP;PLU"),
  (0x8D, "REVERSE LINE FEED;REVERSE INDEX;RI"), (0x8E, "SINGLE SHIFT TWO;SINGLE-SHIFT-2;SS2"),
  (0x8F, "SINGLE SHIFT THREE;SINGLE-SHIFT-3;SS3"), (0x90, "DEVICE CONTROL STRING;DCS"),
  (0x91, "PRIVATE USE ONE;PRIVATE USE-1;PU1"), (0x92, "PRIVATE USE TWO;PRIVATE USE-2;PU2"),
  (0x93, "SET TRANSMIT STATE;STS"), (0x94, "CANCEL CHARACTER;CCH"), (0x95, "MESSAGE WAITING;MW"),
  (0x96, "START OF GUARDED AREA;START OF PROTECTED AREA;SPA"),
  (0x97, "END OF GUARDED AREA;END OF PROTECTED AREA;EPA"), (0x98, "START OF STRING;SOS"),
  (0x99, "SINGLE GRAPHIC CHARACTER INTRODUCER;SGC"), (0x9A, "SINGLE CHARACTER INTRODUCER;SCI"),
  (0x9B, "CONTROL SEQUENCE INTRODUCER;CSI"), (0x9C, "STRING TERMINATOR;ST"),
  (0x9D, "OPERATING SYSTEM COMMAND;OSC"), (0x9E, "PRIVACY MESSAGE;PM"),
  (0x9F, "APPLICATION PROGRAM COMMAND;APC"), (0xA0, "NBSP"), (0xAD, "SHY"),
  (0x1A2, "LATIN CAPITAL LETTER GHA"), (0x1A3, "LATIN SMALL LETTER GHA"), (0x34F, "CGJ"),
  (0x61C, "ALM"), (0x709, "SYRIAC SUBLINEAR COLON SKEWED LEFT"), (0xCDE, "KANNADA LETTER LLLA"),
  (0xE9D, "LAO LETTER FO FON"), (0xE9F, "LAO LETTER FO FAY"), (0xEA3, "LAO LETTER RO"),
  (0xEA5, "LAO LETTER LO"), (0xFD0, "TIBETAN MARK BKA- SHOG GI MGO RGYAN"),
  (0x11EC, "HANGUL JONGSEONG YESIEUNG-KIYEOK"),
  (0x11ED, "HANGUL JONGSEONG YESIEUNG-SSANGKIYEOK"), (0x11EE, "HANGUL JONGSEONG SSANGYESIEUNG"),
  (0x11EF, "HANGUL JONGSEONG YESIEUNG-KHIEUKH"), (0x180B, "FVS1"), (0x180C, "FVS2"),
  (0x180D, "FVS3"), (0x180E, "MVS"), (0x180F, "FVS4"), (0x200B, "ZWSP"), (0x200C, "ZWNJ"),
  (0x200D, "ZWJ"), (0x200E, "LRM"), (0x200F, "RLM"), (0x202A, "LRE"), (0x202B, "RLE"),
  (0x202C, "PDF"), (0x202D, "LRO"), (0x202E, "RLO"), (0x202F, "NNBSP"), (0x205F, "MMSP"),
  (0x2060, "WJ"), (0x2066, "LRI"), (0x2067, "RLI"), (0x2068, "FSI"), (0x2069, "PDI"),
  (0x2118, "WEIERSTRASS ELLIPTIC FUNCTION"), (0x2448, "MICR ON US SYMBOL"),
  (0x2449, "MICR DASH SYMBOL"),
  (0x2B7A, "LEFTWARDS TRIANGLE-HEADED ARROW WITH DOUBLE VERTICAL STROKE"),
  (0x2B7C, "RIGHTWARDS TRIANGLE-HEADED ARROW WITH DOUBLE VERTICAL STROKE"),
  (0xA015, "YI SYLLABLE ITERATION MARK"), (0xAA6E, "MYANMAR LETTER KHAMTI LLA"),
  (0xFE18, "PRESENTATION FORM FOR VERTICAL RIGHT WHITE LENTICULAR BRACKET"),
  (0xFEFF, "BYTE ORDER MARK;BOM;ZWNBSP"), (0x122D4, "CUNEIFORM SIGN NU11 TENU"),
  (0x122D5, "CUNEIFORM SIGN NU11 OVER NU11 BUR OVER BUR"),
  (0x16E56, "MEDEFAIDRIN CAPITAL LETTER H"), (0x16E57, "MEDEFAIDRIN CAPITAL LETTER NG"),
  (0x16E76, "MEDEFAIDRIN SMALL LETTER H"), (0x16E77, "MEDEFAIDRIN SMALL LETTER NG"),
  (0x1B001, "HENTAIGANA LETTER E-1"),
  (0x1D0C5, "BYZANTINE MUSICAL SYMBOL FTHORA SKLIRON CHROMA VASIS")]

def otherNamed? (name : List Char) : Option Nat :=
  (otherNames.find? fun (_, names) => (cutAt ';' names.toList).contains name).map Prod.fst

/-! ## Numbered names -/

/-- What follows a lead, if a name starts with it. -/
def afterLead? (lead : String) (name : List Char) : Option (List Char) :=
  if lead.toList.isPrefixOf name then some (name.drop lead.length) else none

/-- The number that decimal digits spell, the first of which is not zero. -/
def plainNumber? (digits : List Char) : Option Nat :=
  let isDigit := fun c : Char => '0'.toNat ≤ c.toNat && c.toNat ≤ '9'.toNat
  if digits.isEmpty || digits.head? == some '0' || !digits.all isDigit then none
  else some (digits.foldl (fun n c => n * 10 + (c.toNat - '0'.toNat)) 0)

/-- The variation selector of a number: the first sixteen stand apart from the others. -/
def variationSelector? (number : Nat) : Option Nat :=
  if number < 1 || 256 < number then none
  else if number ≤ 16 then some (0xFDFF + number)
  else some (0xE00EF + number)

/-- The variation selector with a name, long or short. -/
def selectorNamed? (name : List Char) : Option Nat :=
  (afterLead? "VARIATION SELECTOR-" name <|> afterLead? "VS" name)
    |>.bind fun digits => (plainNumber? digits).bind variationSelector?

/-- The value of a hexadecimal digit, of which the letters are capitals. -/
def capitalHexDigit? (c : Char) : Option Nat :=
  let n := c.toNat
  if 48 ≤ n && n ≤ 57 then some (n - 48)
  else if 65 ≤ n && n ≤ 70 then some (n - 55)
  else none

/-- The code point that four or five hexadecimal digits spell. -/
def capitalHexValue? (digits : List Char) : Option Nat :=
  if digits.length < 4 || 5 < digits.length then none
  else digits.foldl (fun so c => so.bind fun n => (capitalHexDigit? c).map (n * 16 + ·)) (some 0)

/-- Characters whose names are a lead and the code point: the first and the last of each
range. -/
def numberedNames : List (String × List (Nat × Nat)) := [
  ("CJK COMPATIBILITY IDEOGRAPH-", [(0xF900, 0xFA6D), (0xFA70, 0xFAD9), (0x2F800, 0x2FA1D)]),
  ("KHITAN SMALL SCRIPT CHARACTER-", [(0x18B00, 0x18CD5)]),
  ("NUSHU CHARACTER-", [(0x1B170, 0x1B2FB)])]

def inRanges (ranges : List (Nat × Nat)) (c : Nat) : Bool :=
  ranges.any fun (first, last) => first ≤ c && c ≤ last

/-- The character whose name tells its code point, which must not start with a zero. -/
def numbered? (name : List Char) : Option Nat :=
  numberedNames.findSome? fun (lead, ranges) =>
    (afterLead? lead name).bind fun digits =>
      if digits.head? == some '0' then none
      else (capitalHexValue? digits).filter (inRanges ranges)

/-! ## Ideographs and syllables -/

def ideographRanges : List (Nat × Nat) := [
  (0x3400, 0x4DBF), (0x4E00, 0x9FFF), (0x20000, 0x2A6DF), (0x2A700, 0x2B738),
  (0x2B740, 0x2B81D), (0x2B820, 0x2CEA1), (0x2CEB0, 0x2EBE0), (0x30000, 0x3134A)]

def ideograph? (digits : List Char) : Option Nat :=
  (capitalHexValue? digits).filter (inRanges ideographRanges)

def syllableStarts : List String :=
  ["G", "GG", "N", "D", "DD", "R", "M", "B", "BB", "S", "SS", "", "J", "JJ", "C", "K", "T", "P",
    "H"]

def syllableVowels : List String :=
  ["A", "AE", "YA", "YAE", "EO", "E", "YEO", "YE", "O", "WA", "WAE", "OE", "YO", "U", "WEO", "WE",
    "WI", "YU", "EU", "YI", "I"]

def syllableEnds : List String :=
  ["", "G", "GG", "GS", "N", "NJ", "NH", "D", "L", "LG", "LM", "LB", "LS", "LT", "LP", "LH", "M",
    "B", "BS", "S", "SS", "NG", "J", "C", "K", "T", "P", "H"]

/-- The place in a list of the longest text that a name starts with, and what follows it
in the name. -/
def longestFront? (texts : List String) (name : List Char) : Option (Nat × List Char) :=
  let fits := texts.zipIdx.filter fun (text, _) => text.toList.isPrefixOf name
  let best := fits.foldl (fun so (text, place) =>
    match so with
    | some (longest, found) =>
      if longest < text.length then some (text.length, place) else some (longest, found)
    | none => some (text.length, place)) (none : Option (Nat × Nat))
  best.map fun (length, place) => (place, name.drop length)

def syllable? (letters : List Char) : Option Nat := do
  let (start, rest) ← longestFront? syllableStarts letters
  let (vowel, rest) ← longestFront? syllableVowels rest
  let (ending, rest) ← longestFront? syllableEnds rest
  if rest.isEmpty then
    some (0xAC00 + (start * syllableVowels.length + vowel) * syllableEnds.length + ending)
  else none

/-! ## All names -/

def namedCharacter? (name : String) : Option Nat :=
  let cs := name.toList
  match afterLead? "HANGUL SYLLABLE " cs, afterLead? "CJK UNIFIED IDEOGRAPH-" cs with
  | some letters, _ => syllable? letters
  | none, some digits => ideograph? digits
  | none, none =>
    let capitals := cs.map Char.toUpper
    otherNamed? capitals <|> selectorNamed? capitals <|> numbered? capitals
      <|> nameRuns.findSome? (NameRun.find? (cutAt ' ' capitals))

end PageGrep.Text
