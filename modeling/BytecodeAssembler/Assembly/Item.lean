import BytecodeAssembler.Opcode

/-!
# Code items

An item is an operation with its operand, if it has one.  It is written as one number, or as three:
the operand stands in the first of two places, and the second is zero.
-/

namespace BytecodeAssembler

/-- An operation and its operand. -/
structure Item where
  opcode : Nat
  operand : Option Int
deriving DecidableEq

namespace Item

/-- The numbers that an item is written as. -/
def numbers (item : Item) : List Int :=
  match item.operand with
  | none => [(item.opcode : Int)]
  | some n => [(item.opcode : Int), n, 0]

end Item

/-- The numbers that items are written as. -/
def Item.allNumbers (items : List Item) : List Int :=
  items.flatMap Item.numbers

end BytecodeAssembler
