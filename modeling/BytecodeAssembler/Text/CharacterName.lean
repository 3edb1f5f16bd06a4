import BytecodeAssembler.Text.CharacterName.Alphabetic
import BytecodeAssembler.Text.CharacterName.Ancient
import BytecodeAssembler.Text.CharacterName.Further
import BytecodeAssembler.Text.CharacterName.Musical
import BytecodeAssembler.Text.CharacterName.Ornamental
import BytecodeAssembler.Text.CharacterName.Pictographic
import BytecodeAssembler.Text.CharacterName.Pictorial
import BytecodeAssembler.Text.CharacterName.Regional
import BytecodeAssembler.Text.CharacterName.Syllabic
import BytecodeAssembler.Text.CharacterName.Technical

/-!
# Characters by name

`CharacterName.codePoint?` gives the code point that has a name.  Most names stand in tables.  The
names of Hangul syllables are spelled from their parts, and those of ideographs and of a few other
characters end with their own code points in hexadecimal digits.  Names are read in any case, except
those of Hangul syllables and unified ideographs, which are read in capitals only.
-/

namespace BytecodeAssembler.Text.CharacterName

/-! ## Tables

A table is a text of entries with semicolons or line breaks between them.  An entry names the code
point after that of the entry before, unless it opens with its own code point, in hexadecimal digits
and a colon.  Then comes one digit: how many pieces the name shares with the name before it.  The
rest of the name follows.  The pieces of a name end at its blanks and hyphens.
-/

/-- The first pieces of a name, as many as asked for. -/
def firstPieces : Nat → List Char → List Char
  | 0, _ => []
  | _, [] => []
  | n + 1, c :: cs => c :: firstPieces (if c == ' ' || c == '-' then n else n + 1) cs

def hexValue (c : Char) : Nat :=
  if c.isDigit then c.toNat - '0'.toNat else c.toNat - 'A'.toNat + 10

/-- The number that hexadecimal digits spell. -/
def ofHex (digits : List Char) : Nat :=
  digits.foldl (fun n c => n * 16 + hexValue c) 0

/-- The code point of an entry and what follows; `next` is the code point after that of the entry
before. -/
def position (next : Nat) (entry : List Char) : Nat × List Char :=
  if entry.contains ':' then
    (ofHex (entry.takeWhile (· != ':')), (entry.dropWhile (· != ':')).drop 1)
  else (next, entry)

/-- The name that an entry spells after its code point; `before` is the name before it. -/
def spelled (before : List Char) : List Char → List Char
  | [] => []
  | c :: rest => firstPieces (hexValue c) before ++ rest

/-- The code point that has a name, by the entries of a table. -/
def find? (name : List Char) : Nat → List Char → List String → Option Nat
  | _, _, [] => none
  | next, before, entry :: entries =>
    let (code, entry) := position next entry.toList
    let current := spelled before entry
    if current == name then some code else find? name (code + 1) current entries

/-- The entries of a table. -/
def entries (table : String) : List String :=
  (table.splitOn "\n").flatMap fun line => line.splitOn ";"

def tables : List String :=
  [alphabetic, syllabic, technical, ornamental, regional, ancient, pictographic, musical, pictorial,
   further]

/-! ## Names with their own code point -/

def isCapitalHex (c : Char) : Bool :=
  c.isDigit || ('A' ≤ c && c ≤ 'F')

/-- The ranges of the unified ideographs. -/
def unifiedIdeographs : List (Nat × Nat) :=
  [(0x3400, 0x4dbf), (0x4e00, 0x9fff), (0x20000, 0x2a6df), (0x2a700, 0x2b738), (0x2b740, 0x2b81d),
   (0x2b820, 0x2cea1), (0x2ceb0, 0x2ebe0), (0x30000, 0x3134a)]

/-- The unified ideograph whose name ends with these digits.  They may be four or five, so that some
code points can be written with a zero in front. -/
def ideograph? (digits : List Char) : Option Nat :=
  let code := ofHex digits
  if (digits.length == 4 || digits.length == 5) && digits.all isCapitalHex &&
      unifiedIdeographs.any fun (low, high) => low ≤ code && code ≤ high then
    some code
  else none

/-- The ranges of other characters whose names end with their code points, with what stands before.
-/
def numbered : List (Nat × Nat × String) :=
  [(0xf900, 0xfa6d, "CJK COMPATIBILITY IDEOGRAPH-"),
   (0xfa70, 0xfad9, "CJK COMPATIBILITY IDEOGRAPH-"),
   (0x2f800, 0x2fa1d, "CJK COMPATIBILITY IDEOGRAPH-"),
   (0x18b00, 0x18cd5, "KHITAN SMALL SCRIPT CHARACTER-"), (0x1b170, 0x1b2fb, "NUSHU CHARACTER-")]

/-- The character of a range whose name ends with its code point. -/
def numbered? (name : List Char) : Nat × Nat × String → Option Nat
  | (low, high, opening) =>
    let digits := name.drop opening.length
    let code := ofHex digits
    if opening.toList.isPrefixOf name && digits.length == (if low < 0x10000 then 4 else 5) &&
        digits.all isCapitalHex && low ≤ code && code ≤ high then
      some code
    else none

/-! ## Hangul syllables -/

def leadingSounds : List String :=
  ["G", "GG", "N", "D", "DD", "R", "M", "B", "BB", "S", "SS", "", "J", "JJ", "C", "K", "T", "P",
   "H"]

def vowels : List String :=
  ["A", "AE", "YA", "YAE", "EO", "E", "YEO", "YE", "O", "WA", "WAE", "OE", "YO", "U", "WEO", "WE",
   "WI", "YU", "EU", "YI", "I"]

def trailingSounds : List String :=
  ["", "G", "GG", "GS", "N", "NJ", "NH", "D", "L", "LG", "LM", "LB", "LS", "LT", "LP", "LH", "M",
   "B", "BS", "S", "SS", "NG", "J", "C", "K", "T", "P", "H"]

/-- The index of the longest sound that a text begins with, and what follows it. -/
def soundAt (sounds : List String) (cs : List Char) : Option (Nat × List Char) :=
  let fitting := sounds.zipIdx.filter fun (sound, _) => sound.toList.isPrefixOf cs
  let longest := fitting.foldl (fun n (sound, _) => max n sound.length) 0
  (fitting.find? fun (sound, _) => sound.length == longest).map fun (sound, i) =>
    (i, cs.drop sound.length)

/-- The syllable that sounds spell. -/
def syllable? (cs : List Char) : Option Nat := do
  let (lead, cs) ← soundAt leadingSounds cs
  let (vowel, cs) ← soundAt vowels cs
  let (trail, cs) ← soundAt trailingSounds cs
  if cs.isEmpty then some (0xac00 + (lead * 21 + vowel) * 28 + trail) else none

/-! ## All names -/

def syllableOpening : String :=
  "HANGUL SYLLABLE "

def ideographOpening : String :=
  "CJK UNIFIED IDEOGRAPH-"

/-- The code point that has a name. -/
def codePoint? (name : List Char) : Option Nat :=
  if syllableOpening.toList.isPrefixOf name then syllable? (name.drop syllableOpening.length)
  else if ideographOpening.toList.isPrefixOf name then
    ideograph? (name.drop ideographOpening.length)
  else
    let name := name.map Char.toUpper
    match numbered.findSome? (numbered? name) with
    | some code => some code
    | none => tables.findSome? fun table => find? name 0 [] (entries table)

end BytecodeAssembler.Text.CharacterName
