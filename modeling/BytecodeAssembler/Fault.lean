import BytecodeAssembler.Literal.Display
import BytecodeAssembler.Literal.Read

/-!
# Faults

Everything that can go wrong, by its cause.  Some faults are reports: the assembler prints them and
ends.  The others end a step without a report.  `Fault.kind` sorts the causes into a few kinds,
`Fault.message?` gives the text that goes with a cause, if any, and `Fault.printed` what is printed
for it.
-/

namespace BytecodeAssembler

/-- A cause that the assembler reports before it ends. -/
inductive Report where
  /-- A directive sets a field that does not exist. -/
  | unknownField (name : String)
  /-- A code line begins with a word that is no mnemonic. -/
  | unknownInstruction (word : String)
  /-- The operand of `RETURN` is neither a symbol nor a number. -/
  | badReturn (word : String)
  /-- The operand of `LOAD` is neither a symbol nor a number. -/
  | badLoad (word : String)
  /-- The output file could not be written. -/
  | outputFailed (code : Int) (reason : String)
  /-- A message in words of its own. -/
  | other (message : String)
deriving DecidableEq

def Report.message : Report → String
  | .unknownField name => "Unexpected directive: " ++ name
  | .unknownInstruction word => "Unknown instruction: " ++ word
  | .badReturn word => "Unexpected value for RETURN macro: " ++ word
  | .badLoad word => "Unexpected value for LOAD macro: " ++ word
  | .outputFailed code reason =>
    "Unexpected IOError " ++ String.ofList (Value.intChars code) ++ ": " ++ reason
  | .other message => message

/-- A reported message as it is printed. -/
def errorText (message : String) : String :=
  "ERROR!\n\t" ++ message ++ "\n"

inductive Fault where
  | report (cause : Report)
  /-- The program was started with a wrong number of arguments. -/
  | usage
  /-- A literal has no value. -/
  | literal (error : Literal.ReadError)
  /-- An operand names a symbol that its table does not hold. -/
  | undefinedSymbol (name : Text)
  /-- A shorthand that needs an operand has none. -/
  | missingOperand
  /-- An operand is no decimal number. -/
  | badNumeral (word : String)
  /-- A number has more digits than may be read or shown. -/
  | longNumeral
  /-- The field of constants cannot be searched for a value. -/
  | unsearchable
  /-- Bytes cannot be searched for a number beyond a byte. -/
  | byteRange
  /-- The field of constants cannot take or number another constant. -/
  | poolFixed
  /-- The line table cannot grow. -/
  | lineTableFixed
  /-- A field that should be a collection is none. -/
  | notCollection
  /-- A field that should hold numbers holds something else. -/
  | notNumber
  /-- A number is no code point. -/
  | codePointRange
  /-- A number is beyond the range of machine integers. -/
  | machineRange
  /-- The time does not fit into the stamp of the output file. -/
  | stampRange
  /-- A result has the wrong number of parts to be shown. -/
  | partCount

/-- The kinds that faults are sorted into. -/
inductive FaultKind where
  | exit
  | grammar
  | indentation
  | value
  | type
  | key
  | index
  | attribute
  | overflow
  | memory
  | recursion
  | packing
deriving DecidableEq

namespace Fault

def kind : Fault → FaultKind
  | .report _ | .usage => .exit
  | .literal .malformed => .grammar
  | .literal .indented => .indentation
  | .literal .tooDeep => .memory
  | .literal .tooHigh => .recursion
  | .literal .notLiteral => .value
  | .literal .unhashable => .type
  | .literal .tooLarge => .overflow
  | .undefinedSymbol _ => .key
  | .missingOperand => .index
  | .badNumeral _ | .longNumeral | .byteRange | .codePointRange => .value
  | .poolFixed | .lineTableFixed => .attribute
  | .unsearchable | .notCollection | .notNumber | .partCount => .type
  | .machineRange => .overflow
  | .stampRange => .packing

/-- The number of characters that are shown of a word that is no number. -/
def shownNumeral : Nat :=
  200

/-- The text that goes with a fault: the exit code, the missing name in quotes, or what was wrong.
-/
def message? : Fault → Option Text
  | .report _ => some (Text.ofString "-2")
  | .usage => some (Text.ofString "-1")
  | .undefinedSymbol name => some (Text.quoted name)
  | .missingOperand => some (Text.ofString "list index out of range")
  | .badNumeral word =>
    some (Text.ofString "invalid literal for int() with base 10: " ++
      (Text.quoted (Text.ofString word)).take shownNumeral)
  | .codePointRange => some (Text.ofString "chr() arg not in range(0x110000)")
  | _ => none

/-- What is printed for a fault. -/
def printed : Fault → String
  | .report r => errorText r.message
  | .usage => "Need atleast 1 argument to run\n"
  | _ => ""

end Fault

end BytecodeAssembler
