import BytecodeAssembler.Assembly.Resolve
import BytecodeAssembler.Text.Blank

/-!
# Assembling code lines

`Assembly.assemble` goes through the code lines in order.  A line without words, or whose first word
begins with `%`, holds no instruction; such lines make the gap before the next instruction.  The
first instruction fixes the first line; before a later one the gap widens the last entry of the line
table.  An instruction then adds its numbers to the code and two entries to the line table: its width,
and one line.

The depth of the stack is counted on the way.  Its peak, which is raised where something is pushed,
becomes the stack size; where it never rises above zero the size is five.  At a fault everything stays
that was done before it.
-/

namespace BytecodeAssembler

/-- What is counted while code lines are assembled. -/
structure Progress where
  /-- Whether an instruction was met. -/
  started : Bool
  /-- Lines without an instruction since the last one. -/
  gap : Nat
  depth : Int
  peak : Int

def Progress.initial : Progress :=
  ⟨false, 0, 0, 0⟩

namespace Progress

/-- Count a push, which may raise the peak. -/
def push (p : Progress) : Progress :=
  { p with depth := p.depth + 1, peak := max p.peak (p.depth + 1) }

/-- Count a pop. -/
def pop (p : Progress) : Progress :=
  { p with depth := p.depth - 1 }

/-- Count an instruction. -/
def count (p : Progress) : Mnemonic → Progress
  | .operation name _ =>
    if Mnemonic.isPush name then p.push
    else if Mnemonic.isPop name then p.pop
    else p
  | .println => p.pop
  | .store => p.pop
  | .ret => p
  | .load => p.push
  | .binary _ => p.pop
  | .unary _ => p

end Progress

namespace Assembly

/-- The words of the instruction on a line, if it holds one. -/
def instruction? (line : String) : Option (String × List String) :=
  match Text.words line with
  | [] => none
  | word :: operands => if word.toList.head? == some '%' then none else some (word, operands)

/-- Add to the last of some numbers. -/
def widenLast (gap : Nat) : List Value → List Value
  | [] => []
  | [.int n] => [.int (n + gap)]
  | v :: vs => v :: widenLast gap vs

/-- Account for the lines before an instruction: the first instruction fixes the first line,
`before` lines being ahead of the code; a later one widens the last entry of the line table. -/
def placeInstruction (before : Nat) (a : Assembly) (p : Progress) : Assembly × Progress :=
  if p.started then
    if p.gap = 0 then (a, p)
    else
      match a.fields.lineTable with
      | .list items =>
        ({ a with fields := { a.fields with lineTable := .list (widenLast p.gap items) } },
          { p with gap := 0 })
      | _ => (a, { p with gap := 0 })
  else
    ({ a with fields := { a.fields with firstLine := .int (before + p.gap + 1) } },
      { p with started := true, gap := 0 })

/-- Add the numbers of items to the code. -/
def addCode (items : List Item) (a : Assembly) : Assembly :=
  { a with code := a.code ++ Item.allNumbers items }

/-- Add an instruction of `width` numbers to the line table, which must be a list. -/
def addLine (width : Nat) (a : Assembly) : Except Fault Assembly :=
  match a.fields.lineTable with
  | .list entries =>
    .ok { a with fields := { a.fields with lineTable := .list (entries ++ [.int width, .int 1]) } }
  | _ => .error .lineTableFixed

/-- Assemble one instruction. -/
def assembleInstruction (word : String) (operands : List String) (a : Assembly) (p : Progress) :
    Assembly × Progress × Option Fault :=
  match Mnemonic.ofWord? word with
  | none => (a, p, some (.report (.unknownInstruction word)))
  | some mnemonic =>
    match a.resolve mnemonic operands with
    | .error f => (a, p, some f)
    | .ok (items, a₁) =>
      let a₂ := a₁.addCode items
      match a₂.addLine (mnemonic.width operands) with
      | .error f => (a₂, p, some f)
      | .ok a₃ => (a₃, p.count mnemonic, none)

/-- Assemble one line. -/
def assembleLine (before : Nat) (line : String) (a : Assembly) (p : Progress) :
    Assembly × Progress × Option Fault :=
  match instruction? line with
  | none => (a, { p with gap := p.gap + 1 }, none)
  | some (word, operands) =>
    let (a₁, p₁) := a.placeInstruction before p
    a₁.assembleInstruction word operands p₁

/-- Assemble lines in order up to the first fault. -/
def assembleLines (before : Nat) : List String → Assembly → Progress →
    Assembly × Progress × Option Fault
  | [], a, p => (a, p, none)
  | line :: rest, a, p =>
    match a.assembleLine before line p with
    | (a', p', none) => assembleLines before rest a' p'
    | (a', p', some f) => (a', p', some f)

/-- The size of the stack for a peak. -/
def stackSizeFor (peak : Int) : Int :=
  if 0 < peak then peak else 5

/-- Assemble code with `before` lines ahead of it. -/
def assemble (before : Nat) (code : List String) (a : Assembly) : Assembly × Option Fault :=
  match assembleLines before code a Progress.initial with
  | (a', p, none) =>
    ({ a' with fields := { a'.fields with stackSize := .int (stackSizeFor p.peak) } }, none)
  | (a', _, some f) => (a', some f)

end Assembly

end BytecodeAssembler
