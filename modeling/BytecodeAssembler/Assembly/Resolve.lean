import BytecodeAssembler.Assembly.Item
import BytecodeAssembler.Assembly.Pool
import BytecodeAssembler.Assembly.State
import BytecodeAssembler.Mnemonic
import BytecodeAssembler.Number.Numeral

/-!
# From a code line to its items

`Assembly.resolve` gives the items of a code line.  A named operand is looked up in the symbol table
of its kind.  `LOAD` and `RETURN` look their operand up among the constants, then the local names,
then (for `LOAD`) the global names; a number that is none of these becomes a new constant under its
own spelling, which is the only change that resolving makes to the state.
-/

namespace BytecodeAssembler

/-- Whether a value is a whole or floating point number; truth values count. -/
def Value.isNumber : Value → Bool
  | .bool _ | .int _ | .float _ => true
  | _ => false

/-- The value that a word denotes and whether it is a number.  A word that is no expression, or that
denotes nothing because it cannot be hashed, counts as `None`; other failures to read it stay
failures. -/
def Literal.readNumber (word : String) : Except Literal.ReadError (Value × Bool) :=
  match Literal.read word with
  | .ok v => .ok (v, v.isNumber)
  | .error .malformed | .error .indented | .error .unhashable => .ok (.none, false)
  | .error e => .error e

namespace Assembly

/-- The index of a name in a table. -/
def lookup (table : SymbolTable) (word : String) : Except Fault Nat :=
  match table.find? (Text.ofString word) with
  | some i => .ok i
  | none => .error (.undefinedSymbol (Text.ofString word))

/-- The operand of the operation with this name. -/
def operand (a : Assembly) (name word : String) : Except Fault Int :=
  match Mnemonic.operandKind name with
  | .constant => (lookup a.constantTable word).map Int.ofNat
  | .global => (lookup a.globalTable word).map Int.ofNat
  | .local => (lookup a.localTable word).map Int.ofNat
  | .number =>
    match Numeral.read word with
    | .ok n => .ok n
    | .error .malformed => .error (.badNumeral word)
    | .error .tooLong => .error .longNumeral

/-- Make a number a new constant under its own spelling, and load it. -/
def loadNumber (a : Assembly) (word : String) (otherwise : Report) :
    Except Fault (Item × Assembly) :=
  match Literal.readNumber word with
  | .error e => .error (.literal e)
  | .ok (_, false) => .error (.report otherwise)
  | .ok (v, true) =>
    match Pool.append a.fields.constants v with
    | .error f => .error f
    | .ok (pool, index) =>
      .ok (⟨Opcode.loadConst, some index⟩,
        { a with
          fields := { a.fields with constants := pool }
          constantTable := a.constantTable.insert (Text.ofString word) index })

/-- The item that `RETURN` loads its operand by. -/
def loadForReturn (a : Assembly) (word : String) : Except Fault (Item × Assembly) :=
  match a.constantTable.find? (Text.ofString word) with
  | some i => .ok (⟨Opcode.loadConst, some i⟩, a)
  | none =>
    match a.localTable.find? (Text.ofString word) with
    | some i => .ok (⟨Opcode.loadFast, some i⟩, a)
    | none => a.loadNumber word (.badReturn word)

/-- The item that `LOAD` stands for. -/
def loadForLoad (a : Assembly) (word : String) : Except Fault (Item × Assembly) :=
  match a.constantTable.find? (Text.ofString word) with
  | some i => .ok (⟨Opcode.loadConst, some i⟩, a)
  | none =>
    match a.localTable.find? (Text.ofString word) with
    | some i => .ok (⟨Opcode.loadFast, some i⟩, a)
    | none =>
      match a.globalTable.find? (Text.ofString word) with
      | some i => .ok (⟨Opcode.loadGlobal, some i⟩, a)
      | none => a.loadNumber word (.badLoad word)

/-- The first operand of a line that must have one. -/
def needOperand : List String → Except Fault String
  | word :: _ => .ok word
  | [] => .error .missingOperand

/-- The items of a mnemonic with the words after it, of which only the first counts. -/
def resolve (a : Assembly) (mnemonic : Mnemonic) (operands : List String) :
    Except Fault (List Item × Assembly) :=
  match mnemonic with
  | .operation name number =>
    match operands with
    | [] => .ok ([⟨number, none⟩], a)
    | word :: _ => do
      let n ← a.operand name word
      .ok ([⟨number, some n⟩], a)
  | .println => .ok ([⟨Opcode.printItem, none⟩, ⟨Opcode.printNewline, none⟩], a)
  | .store => do
    let word ← needOperand operands
    let i ← lookup a.localTable word
    .ok ([⟨Opcode.storeFast, some i⟩], a)
  | .ret => do
    let word ← needOperand operands
    let (item, a) ← a.loadForReturn word
    .ok ([item, ⟨Opcode.returnValue, none⟩], a)
  | .load => do
    let word ← needOperand operands
    let (item, a) ← a.loadForLoad word
    .ok ([item], a)
  | .binary number | .unary number => .ok ([⟨number, none⟩], a)

end Assembly

end BytecodeAssembler
