import BytecodeAssembler.Opcode
import BytecodeAssembler.Text.Capital

/-!
# Mnemonics

The first word of a code line, in any case, is the name of an operation or a shorthand.  Shorthands
are

* `PRINTLN`, `STORE`, `RETURN` and `LOAD`, which choose their operations from the kind of their
  operand;
* the names of binary and unary operators without their family name, such as `ADD` for `BINARY_ADD`.

The names of operations also tell two things by their parts.  A name that goes on with `_CONST`,
`_GLOBAL` or `_FAST` after its first part takes its operand from a symbol table.  A name that begins
with `LOAD_`, `DUP_` or `UNPACK_` counts as a push, one that begins with `STORE_`, `POP_`, `BINARY_`,
`BUILD_` or `PRINT_ITEM_` as a pop, and all others as neither.

What each mnemonic is written as in the line table, its width, is a number of its own, and nothing
here ties it to the code that the mnemonic stands for.
-/

namespace BytecodeAssembler

/-- What the first word of a code line asks for. -/
inductive Mnemonic where
  | operation (name : String) (number : Nat)
  | println
  | store
  | ret
  | load
  | binary (number : Nat)
  | unary (number : Nat)
deriving DecidableEq

/-- Where the operand of an operation is looked up. -/
inductive OperandKind where
  | constant
  | global
  | local
  | number
deriving DecidableEq

namespace Mnemonic

/-- Binary operators that may be named without their family. -/
def binaryOperators : List (String × Nat) :=
  [("ADD", 23), ("SUBTRACT", 24), ("MULTIPLY", 20), ("DIVIDE", 21), ("POWER", 19), ("MODULO", 22),
   ("LSHIFT", 62), ("RSHIFT", 63), ("AND", 64), ("XOR", 65), ("OR", 66), ("SUBSCR", 25)]

/-- Unary operators that may be named without their family. -/
def unaryOperators : List (String × Nat) :=
  [("POSITIVE", 10), ("NEGATIVE", 11), ("NOT", 12), ("INVERT", 15)]

/-- The mnemonic with this name in capitals. -/
def ofName? (name : String) : Option Mnemonic :=
  match Opcode.number? name with
  | some number => some (.operation name number)
  | none =>
    match name with
    | "PRINTLN" => some .println
    | "STORE" => some .store
    | "RETURN" => some .ret
    | "LOAD" => some .load
    | _ =>
      match binaryOperators.lookup name with
      | some number => some (.binary number)
      | none => (unaryOperators.lookup name).map .unary

/-- The mnemonic that a word spells in any case. -/
def ofWord? (word : String) : Option Mnemonic :=
  ofName? (Text.capitals word)

/-! ## Parts of names -/

def isCapital (c : Char) : Bool :=
  'A' ≤ c && c ≤ 'Z'

def isCapitalOrDigit (c : Char) : Bool :=
  isCapital c || c.isDigit

/-- Whether a name begins with the stem and at least one character of the class after it. -/
def hasStem (stem : String) (inClass : Char → Bool) (name : String) : Bool :=
  stem.toList.isPrefixOf name.toList &&
    ((name.toList.drop stem.toList.length).head?.map inClass).getD false

/-- Whether a name begins with at least one capital or digit, and the tail right after the last of
them. -/
def hasTail (tail : String) (name : String) : Bool :=
  !(name.toList.takeWhile isCapitalOrDigit).isEmpty &&
    tail.toList.isPrefixOf (name.toList.dropWhile isCapitalOrDigit)

/-- The kind of operand that the operation with this name takes. -/
def operandKind (name : String) : OperandKind :=
  if hasTail "_CONST" name then .constant
  else if hasTail "_GLOBAL" name then .global
  else if hasTail "_FAST" name then .local
  else .number

/-- Whether a name counts as a push. -/
def isPush (name : String) : Bool :=
  ["LOAD_", "DUP_", "UNPACK_"].any fun stem => hasStem stem isCapitalOrDigit name

/-- Whether a name counts as a pop. -/
def isPop (name : String) : Bool :=
  (["STORE_", "POP_", "BINARY_", "BUILD_"].any fun stem => hasStem stem isCapitalOrDigit name) ||
    hasStem "PRINT_ITEM_" isCapital name

/-! ## Widths -/

/-- How many numbers of code a mnemonic is counted for in the line table. -/
def width (operands : List String) : Mnemonic → Nat
  | .operation _ _ => if operands.isEmpty then 1 else 3
  | .println => 2
  | .store => 3
  | .ret => 4
  | .load => 3
  | .binary _ => 1
  | .unary _ => 1

end Mnemonic

end BytecodeAssembler
