import BytecodeAssembler.Assembly.Fields
import BytecodeAssembler.SymbolTable

/-!
# The state of an assembly

What directives and code lines work on: the fields, the numbers emitted so far and three symbol
tables, of the constants, the global and the local names.
-/

namespace BytecodeAssembler

structure Assembly where
  fields : Fields
  code : List Int
  constantTable : SymbolTable
  globalTable : SymbolTable
  localTable : SymbolTable

/-- The state before any directive: the only constant is `None`, under its own name. -/
def Assembly.initial : Assembly where
  fields := Fields.initial
  code := []
  constantTable := SymbolTable.empty.insert (Text.ofString "None") 0
  globalTable := SymbolTable.empty
  localTable := SymbolTable.empty

end BytecodeAssembler
