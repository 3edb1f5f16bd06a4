import BytecodeAssembler.Literal.Token.Number
import BytecodeAssembler.Text.CharacterName

/-!
# Escapes in quoted texts and bytes

A backslash between quotes opens an escape: a line break that is dropped, a control character by
letter, a number in up to three octal digits, or in exactly two hexadecimal digits.  A quoted text
also takes four or eight hexadecimal digits, or the name of a character in braces.  A backslash
before anything else stands for itself.

Main definitions: `unescapeText` and `unescapeBytes`, which give what is meant by the characters
between two quotes, or nothing where an escape is malformed.
-/

namespace BytecodeAssembler.Literal

/-- What an escape stands for. -/
inductive Escape where
  /-- Nothing: a line break after a backslash. -/
  | dropped
  /-- The code point or byte of this number. -/
  | number (n : Nat)
  /-- The backslash itself. -/
  | kept

/-- The control character that a letter, quote or backslash stands for after a backslash. -/
def controlNumber? (c : Char) : Option Nat :=
  match c with
  | '\\' => some 0x5c
  | '\'' => some 0x27
  | '"' => some 0x22
  | 'a' => some 0x07
  | 'b' => some 0x08
  | 'f' => some 0x0c
  | 'n' => some 0x0a
  | 'r' => some 0x0d
  | 't' => some 0x09
  | 'v' => some 0x0b
  | _ => none

/-- A number in exactly `width` hexadecimal digits. -/
def fixedHex (width : Nat) (cs : List Char) : Option (Escape × List Char) :=
  let ds := cs.take width
  if ds.length = width && ds.all isHexDigit then some (.number (ofDigits 16 ds), cs.drop width)
  else none

/-- A character given by its name in braces. -/
def namedCharacter : List Char → Option (Escape × List Char)
  | '\x7b' :: cs =>
    match cs.dropWhile (· != '\x7d') with
    | _ :: rest =>
      (Text.CharacterName.codePoint? (cs.takeWhile (· != '\x7d'))).map fun n => (.number n, rest)
    | [] => none
  | _ => none

/-- The escape after a backslash, and what follows it.  `wide` holds in a text. -/
def escapeAt (wide : Bool) (cs : List Char) : Option (Escape × List Char) :=
  match cs with
  | [] => some (.kept, [])
  | '\n' :: rest => some (.dropped, rest)
  | 'x' :: rest => fixedHex 2 rest
  | c :: rest =>
    if wide && c == 'u' then fixedHex 4 rest
    else if wide && c == 'U' then fixedHex 8 rest
    else if wide && c == 'N' then namedCharacter rest
    else if isOctalDigit c then
      let ds := (cs.take 3).takeWhile isOctalDigit
      some (.number (ofDigits 8 ds), cs.drop ds.length)
    else
      match controlNumber? c with
      | some n => some (.number n, rest)
      | none => some (.kept, cs)

/-- The numbers behind characters between quotes; each step uses up at least one character, so their
count is fuel enough. -/
def unescape (wide : Bool) : Nat → List Char → Option (List Nat)
  | 0, _ => some []
  | _ + 1, [] => some []
  | fuel + 1, '\\' :: cs => do
    let (escape, rest) ← escapeAt wide cs
    let numbers ← unescape wide fuel rest
    match escape with
    | .dropped => some numbers
    | .number n => some (n :: numbers)
    | .kept => some ('\\'.toNat :: numbers)
  | fuel + 1, c :: cs => (unescape wide fuel cs).map (c.toNat :: ·)

/-- The text behind the characters between two quotes. -/
def unescapeText (cs : List Char) : Option Text :=
  (unescape true cs.length cs).bind fun numbers => numbers.mapM CodePoint.ofNat?

/-- The bytes behind the characters between two quotes; an octal number counts modulo 256. -/
def unescapeBytes (cs : List Char) : Option (List UInt8) :=
  (unescape false cs.length cs).map fun numbers => numbers.map UInt8.ofNat

/-- The bytes of ASCII characters without escapes. -/
def plainBytes (cs : List Char) : List UInt8 :=
  cs.map fun c => UInt8.ofNat c.toNat

end BytecodeAssembler.Literal
