import BytecodeAssembler.Text.Printable

/-!
# Quoted texts and bytes

A quoted text stands between single quotes, or between double quotes when it holds a single quote
and no double one.  The quote in use and the backslash are escaped by a backslash; tab, line feed
and carriage return have escapes of their own; any other code point that is not printable is written
by number in two, four or eight hexadecimal digits.  Quoted bytes follow the same rules with every
byte beyond printable ASCII written by number.
-/

namespace BytecodeAssembler.Text

/-- The number `n` in `width` hexadecimal digits. -/
def hexChars (width n : Nat) : List Char :=
  let digits := Nat.toDigits 16 n
  List.replicate (width - digits.length) '0' ++ digits

/-- The quote that a quoted text with these code point numbers stands between. -/
def quoteFor (numbers : List Nat) : Char :=
  if numbers.contains '\''.toNat && !numbers.contains '"'.toNat then '"' else '\''

/-- The escapes shared by texts and bytes; `none` where a number has none. -/
def shortEscape? (quote : Char) (n : Nat) : Option (List Char) :=
  if n = quote.toNat || n = '\\'.toNat then some ['\\', Char.ofNat n]
  else if n = '\t'.toNat then some ['\\', 't']
  else if n = '\n'.toNat then some ['\\', 'n']
  else if n = '\r'.toNat then some ['\\', 'r']
  else none

/-- One code point as it stands in a quoted text. -/
def escaped (quote : Char) (p : CodePoint) : Text :=
  match shortEscape? quote p.val with
  | some cs => ofChars cs
  | none =>
    if isPrintable p then [p]
    else if p.val < 0x100 then ofChars ('\\' :: 'x' :: hexChars 2 p.val)
    else if p.val < 0x10000 then ofChars ('\\' :: 'u' :: hexChars 4 p.val)
    else ofChars ('\\' :: 'U' :: hexChars 8 p.val)

/-- A text in quotes. -/
def quoted (t : Text) : Text :=
  let quote := quoteFor (t.map Fin.val)
  ofChars [quote] ++ t.flatMap (escaped quote) ++ ofChars [quote]

/-- One byte as it stands in quoted bytes. -/
def escapedByte (quote : Char) (b : UInt8) : List Char :=
  match shortEscape? quote b.toNat with
  | some cs => cs
  | none =>
    if 0x20 ≤ b.toNat && b.toNat ≤ 0x7e then [Char.ofNat b.toNat]
    else '\\' :: 'x' :: hexChars 2 b.toNat

/-- Bytes in quotes, after the mark `b`. -/
def quotedBytes (bytes : List UInt8) : List Char :=
  let quote := quoteFor (bytes.map UInt8.toNat)
  'b' :: quote :: bytes.flatMap (escapedByte quote) ++ [quote]

end BytecodeAssembler.Text
