import BytecodeAssembler.Text.Ranges

/-!
# Blanks, words and lines

Blank characters separate the words of a line.  A line ends at any of the line breaks below, with a
carriage return before a line feed counted as part of it; a break at the very end opens no new line.
-/

namespace BytecodeAssembler.Text

/-- White space, in the sense of the Unicode standard. -/
def blankRanges : Ranges :=
  [(0x09, 0x0d), (0x1c, 0x20), (0x85, 0x85), (0xa0, 0xa0), (0x1680, 0x1680), (0x2000, 0x200a),
   (0x2028, 0x2029), (0x202f, 0x202f), (0x205f, 0x205f), (0x3000, 0x3000)]

def isBlank (c : Char) : Bool :=
  blankRanges.holds c.toNat

/-- Characters that end a line. -/
def lineBreakRanges : Ranges :=
  [(0x0a, 0x0d), (0x1c, 0x1e), (0x85, 0x85), (0x2028, 0x2029)]

def isLineBreak (c : Char) : Bool :=
  lineBreakRanges.holds c.toNat

/-! ## Words -/

/-- Split at runs of blanks; `word` is what the current word holds so far, last character first. -/
def splitWords (word : List Char) : List Char → List (List Char)
  | [] => if word.isEmpty then [] else [word.reverse]
  | c :: cs =>
    if isBlank c then
      if word.isEmpty then splitWords [] cs else word.reverse :: splitWords [] cs
    else splitWords (c :: word) cs

/-- The words of a line. -/
def words (line : String) : List String :=
  (splitWords [] line.toList).map String.ofList

/-! ## Lines -/

/-- Split at line breaks; `line` is what the current line holds so far, last character first. -/
def splitLines (line : List Char) : List Char → List (List Char)
  | [] => if line.isEmpty then [] else [line.reverse]
  | '\r' :: '\n' :: cs => line.reverse :: splitLines [] cs
  | c :: cs => if isLineBreak c then line.reverse :: splitLines [] cs else splitLines (c :: line) cs

/-- The lines of a file. -/
def lines (content : String) : List String :=
  (splitLines [] content.toList).map String.ofList

end BytecodeAssembler.Text
