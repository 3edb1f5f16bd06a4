import BytecodeAssembler.Assembly.Collection
import BytecodeAssembler.Assembly.Pool
import BytecodeAssembler.Assembly.State
import BytecodeAssembler.Directive

/-!
# Carrying out directives

`Assembly.declare` carries out one directive; it either succeeds or leaves no trace.
`Assembly.declareLines` goes through the directive lines in order up to the first fault, and keeps
what was declared before it.
-/

namespace BytecodeAssembler.Assembly

/-- Set a field; the word must be one of a field before its literal is read. -/
def declareField (word value : String) (a : Assembly) : Except Fault Assembly :=
  match Field.ofWord? word with
  | none => .error (.report (.unknownField word))
  | some field =>
    match Literal.read value with
    | .ok v => .ok { a with fields := a.fields.set field v }
    | .error e => .error (.literal e)

/-- Declare a constant under a name. -/
def declareConstant (name value : String) (a : Assembly) : Except Fault Assembly :=
  match Literal.read value with
  | .error e => .error (.literal e)
  | .ok v =>
    match Pool.declare a.fields.constants v with
    | .error f => .error f
    | .ok (pool, index) =>
      .ok { a with
        fields := { a.fields with constants := pool }
        constantTable := a.constantTable.insert (Text.ofString name) index }

/-- The names that a list stands for: a single name stands for its characters. -/
def namesOf (names : String) : Except Fault (List Value) :=
  match Literal.read (Directive.namesLiteral names) with
  | .error e => .error (.literal e)
  | .ok v => v.items

/-- The table that numbers names by their places. -/
def tableOf (names : List Value) : SymbolTable :=
  SymbolTable.ofNames (names.map Value.text?)

def declareGlobals (names : String) (a : Assembly) : Except Fault Assembly :=
  match namesOf names with
  | .error f => .error f
  | .ok vs =>
    .ok { a with
      fields := { a.fields with globalNames := .tuple vs }
      globalTable := tableOf vs }

def declareLocals (names : String) (a : Assembly) : Except Fault Assembly :=
  match namesOf names with
  | .error f => .error f
  | .ok vs =>
    .ok { a with
      fields := { a.fields with localNames := .tuple vs }
      localTable := tableOf vs }

/-- Carry out one directive. -/
def declare (directive : Directive) (a : Assembly) : Except Fault Assembly :=
  match directive with
  | .field name value => a.declareField name value
  | .constant name value => a.declareConstant name value
  | .globals names => a.declareGlobals names
  | .locals names => a.declareLocals names

/-- Carry out the directive on a line, if there is one. -/
def declareLine (line : String) (a : Assembly) : Except Fault Assembly :=
  match Directive.ofLine? line with
  | some directive => a.declare directive
  | none => .ok a

/-- Carry out directive lines in order up to the first fault. -/
def declareLines : List String → Assembly → Assembly × Option Fault
  | [], a => (a, none)
  | line :: rest, a =>
    match a.declareLine line with
    | .ok a' => declareLines rest a'
    | .error f => (a, some f)

end BytecodeAssembler.Assembly
