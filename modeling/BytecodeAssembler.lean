import BytecodeAssembler.Assembly.Code
import BytecodeAssembler.Assembly.Collection
import BytecodeAssembler.Assembly.Declare
import BytecodeAssembler.Assembly.Fields
import BytecodeAssembler.Assembly.Item
import BytecodeAssembler.Assembly.Pool
import BytecodeAssembler.Assembly.Resolve
import BytecodeAssembler.Assembly.State
import BytecodeAssembler.CodeObject
import BytecodeAssembler.CommandLine
import BytecodeAssembler.Directive
import BytecodeAssembler.Fault
import BytecodeAssembler.Listing
import BytecodeAssembler.Literal.Display
import BytecodeAssembler.Literal.Expr
import BytecodeAssembler.Literal.Expr.Parser
import BytecodeAssembler.Literal.Read
import BytecodeAssembler.Literal.Template
import BytecodeAssembler.Literal.Token
import BytecodeAssembler.Literal.Token.Escape
import BytecodeAssembler.Literal.Token.Lexer
import BytecodeAssembler.Literal.Token.Number
import BytecodeAssembler.Literal.Value
import BytecodeAssembler.Main
import BytecodeAssembler.Mnemonic
import BytecodeAssembler.Number.Binary64
import BytecodeAssembler.Number.Numeral
import BytecodeAssembler.Number.Shortest
import BytecodeAssembler.Opcode
import BytecodeAssembler.OutputFile
import BytecodeAssembler.Path
import BytecodeAssembler.Proofs.Calls
import BytecodeAssembler.Proofs.DirectiveStep
import BytecodeAssembler.Proofs.LineStep
import BytecodeAssembler.Session
import BytecodeAssembler.SymbolTable
import BytecodeAssembler.Text.Blank
import BytecodeAssembler.Text.Capital
import BytecodeAssembler.Text.CharacterName
import BytecodeAssembler.Text.CharacterName.Alphabetic
import BytecodeAssembler.Text.CharacterName.Ancient
import BytecodeAssembler.Text.CharacterName.Further
import BytecodeAssembler.Text.CharacterName.Musical
import BytecodeAssembler.Text.CharacterName.Ornamental
import BytecodeAssembler.Text.CharacterName.Pictographic
import BytecodeAssembler.Text.CharacterName.Pictorial
import BytecodeAssembler.Text.CharacterName.Regional
import BytecodeAssembler.Text.CharacterName.Syllabic
import BytecodeAssembler.Text.CharacterName.Technical
import BytecodeAssembler.Text.CodePoint
import BytecodeAssembler.Text.Digit
import BytecodeAssembler.Text.Letter
import BytecodeAssembler.Text.Mark
import BytecodeAssembler.Text.Printable
import BytecodeAssembler.Text.Quoted
import BytecodeAssembler.Text.Ranges
import BytecodeAssembler.Text.WordChar
import BytecodeAssembler.Proofs.LineTable
import BytecodeAssembler.Proofs.Acceptance
import BytecodeAssembler.Proofs.Shorthands
import BytecodeAssembler.Proofs.Equality
import BytecodeAssembler.Proofs.Symbols
import BytecodeAssembler.Proofs.Operands
import BytecodeAssembler.Proofs.LineItems
import BytecodeAssembler.Proofs.Disassembly
import BytecodeAssembler.Proofs.Layout
import BytecodeAssembler.Proofs.LoadedConstants
import BytecodeAssembler.Proofs.ListedNames
import BytecodeAssembler.Proofs.QuotedNames
import BytecodeAssembler.Proofs.StackDepth
import BytecodeAssembler.Proofs.OutputImage
import BytecodeAssembler.Proofs.TargetFile
import BytecodeAssembler.Proofs.PoolContents
import BytecodeAssembler.Proofs.CodeActions
import BytecodeAssembler.Proofs.FailedRuns
import BytecodeAssembler.Proofs.Atoms
import BytecodeAssembler.Proofs.Expansions
import BytecodeAssembler.Proofs.NameLists
import BytecodeAssembler.Proofs.BadOperands
import BytecodeAssembler.Proofs.StackEstimate
import BytecodeAssembler.Proofs.DirectiveActions
import BytecodeAssembler.Proofs.Regrouping
import BytecodeAssembler.Proofs.BuiltObjects
import BytecodeAssembler.Proofs.Reassembly
import BytecodeAssembler.Proofs.DefinedFields
import BytecodeAssembler.Proofs.Redeclaration
