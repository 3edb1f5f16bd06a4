/-!
# Membership in a table of ranges

The character classes of this library are data of the Unicode standard, version 14.  Each is kept as
a list of closed ranges of code point numbers, in rising order.
-/

namespace BytecodeAssembler.Text

/-- Closed ranges of code point numbers. -/
abbrev Ranges := List (Nat × Nat)

/-- Whether a number lies in one of the ranges. -/
def Ranges.holds (table : Ranges) (n : Nat) : Bool :=
  table.any fun r => r.1 ≤ n && n ≤ r.2

end BytecodeAssembler.Text
