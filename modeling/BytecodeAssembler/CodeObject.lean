import BytecodeAssembler.Assembly.Collection
import BytecodeAssembler.Assembly.State
import BytecodeAssembler.Listing

/-!
# Code objects

A code object collects the fields, the emitted code and the name of the listing.  Its code and line
table are texts of code points, its constants and names are tuples, and the number of locals is the
number of local names.  All other fields go in as they are.
-/

namespace BytecodeAssembler

structure CodeObject where
  argumentCount : Value
  localCount : Nat
  stackSize : Value
  flags : Value
  code : Text
  constants : List Value
  globalNames : List Value
  localNames : List Value
  fileName : String
  name : Value
  firstLine : Value
  lineTable : Text
  freeNames : Value
  cellNames : Value

namespace CodeObject

/-- The code point of a number. -/
def codePoint (n : Int) : Except Fault CodePoint :=
  if n < -0x80000000 || 0x80000000 ≤ n then .error .machineRange
  else if n < 0 then .error .codePointRange
  else
    match CodePoint.ofNat? n.toNat with
    | some p => .ok p
    | none => .error .codePointRange

/-- The code point that a value numbers; truth values count as numbers. -/
def codePointOf : Value → Except Fault CodePoint
  | .int n => codePoint n
  | .bool b => codePoint (if b then 1 else 0)
  | _ => .error .notNumber

/-- The text whose code points some values number. -/
def textOf : List Value → Except Fault Text
  | [] => .ok []
  | v :: vs => do
    let p ← codePointOf v
    return p :: (← textOf vs)

/-- The code object of an assembly for the file that was assembled.  Where several fields are unfit,
the first in the order below is at fault. -/
def build (fileName : String) (a : Assembly) (order : SetOrder := .written) :
    Except Fault CodeObject := do
  let localNames ← a.fields.localNames.items order
  let code ← textOf (a.code.map .int)
  let constants ← a.fields.constants.items order
  let globalNames ← a.fields.globalNames.items order
  let lineEntries ← a.fields.lineTable.items order
  let lineTable ← textOf lineEntries
  return {
    argumentCount := a.fields.argumentCount
    localCount := localNames.length
    stackSize := a.fields.stackSize
    flags := a.fields.flags
    code := code
    constants := constants
    globalNames := globalNames
    localNames := localNames
    fileName := fileName
    name := a.fields.name
    firstLine := a.fields.firstLine
    lineTable := lineTable
    freeNames := a.fields.freeNames
    cellNames := a.fields.cellNames }

/-- The body of a compiled file, which is a tag in the place of the code object. -/
def tag (_ : Option CodeObject) : List UInt8 :=
  [0x43, 0x4f, 0x44, 0x45]

end CodeObject

end BytecodeAssembler
