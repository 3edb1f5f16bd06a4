import BytecodeAssembler.Path

/-!
# Listings

A listing is the file that is assembled: its name and its lines.  A line that begins with `#` and
has something after it is a directive, every other line belongs to the code.
-/

namespace BytecodeAssembler

structure Listing where
  name : String
  lines : List String

namespace Listing

/-- Whether a line is a directive. -/
def isDirective (line : String) : Bool :=
  match line.toList with
  | '#' :: _ :: _ => true
  | _ => false

def directives (listing : Listing) : List String :=
  listing.lines.filter isDirective

/-- The lines that are not among the directives. -/
def code (listing : Listing) : List String :=
  listing.lines.filter fun line => !listing.directives.contains line

/-- The number of lines before the first line of the code, which is where a line like it stands
first. -/
def linesBeforeCode (listing : Listing) : Nat :=
  match listing.code with
  | [] => listing.lines.length
  | first :: _ => listing.lines.idxOf first

/-- The file that the assembled code goes to. -/
def targetName (listing : Listing) : String :=
  Path.withoutExtension listing.name ++ ".pyc"

end Listing

end BytecodeAssembler
