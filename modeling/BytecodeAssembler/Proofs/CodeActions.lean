import BytecodeAssembler.Proofs.Calls
import BytecodeAssembler.Proofs.PoolContents

/-!
# Code lines action by action

A line of code is carried out in actions, each of which changes the state in one place at most: the
gap goes into the line table, the pool grows, numbers go to the code, a word goes to the table of the
constants, an instruction goes to the line table, a push or a pop is counted.  Which actions these are
depends on what the tables hold when the line is come to (`Mnemonic.actions`).

`Action.perform` carries out actions one after the other and keeps, at a fault, what the actions
before it have changed.  `Assembly.assembleLine`, which resolves the operand of a line before it
changes anything for it, comes to the same (`CodeAction.matches_lines`), for three reasons:

* a pool that has grown holds what it has taken, so an index is found for it;
* once an instruction was met the line table ends in a number, so a gap can be added to it;
* where the line table is no list, and so refuses an instruction, the code has been emitted in both.
-/

namespace BytecodeAssembler

/-! ## Actions -/

/-- What can go wrong with an action: a fault of the assembler, or one of three that never arise. -/
inductive ActionFault where
  | fault (f : Fault)
  /-- A value is looked up where it is not. -/
  | absent
  /-- A name cannot be numbered, since it cannot be a key. -/
  | unhashable
  /-- A gap is to be added to a line table without a number at its end. -/
  | unwidened

/-- A change of a state that either happens or fails. -/
def Action (σ : Type) : Type :=
  σ → Except ActionFault σ

namespace Action

variable {σ : Type}

/-- Carry out actions in order up to the first that fails.  What the others before it have changed
stays. -/
def perform : List (Action σ) → σ → σ × Option ActionFault
  | [], s => (s, none)
  | action :: rest, s =>
    match action s with
    | .ok s' => perform rest s'
    | .error f => (s, some f)

/-- Carry out blocks of actions, each of which is chosen in the state that it is come to. -/
def performBlocks : List (σ → List (Action σ)) → σ → σ × Option ActionFault
  | [], s => (s, none)
  | block :: rest, s =>
    match perform (block s) s with
    | (s', none) => performBlocks rest s'
    | (s', some f) => (s', some f)

theorem perform_append (xs ys : List (Action σ)) (s : σ) :
    perform (xs ++ ys) s
      = match perform xs s with
        | (s', none) => perform ys s'
        | (s', some f) => (s', some f) := by
  induction xs generalizing s with
  | nil => rfl
  | cons action xs ih =>
    rw [List.cons_append, perform, perform]
    cases action s with
    | error f => rfl
    | ok s' => exact ih s'

theorem performBlocks_append (xs ys : List (σ → List (Action σ))) (s : σ) :
    performBlocks (xs ++ ys) s
      = match performBlocks xs s with
        | (s', none) => performBlocks ys s'
        | (s', some f) => (s', some f) := by
  induction xs generalizing s with
  | nil => rfl
  | cons block xs ih =>
    rw [List.cons_append, performBlocks, performBlocks]
    rcases perform (block s) s with ⟨s', f⟩
    cases f with
    | some f => rfl
    | none => exact ih s'

theorem performBlocks_singleton (block : σ → List (Action σ)) (s : σ) :
    performBlocks [block] s = perform (block s) s := by
  rw [performBlocks]
  rcases perform (block s) s with ⟨s', f⟩
  cases f <;> rfl

end Action

namespace Pool

/-- The index of a value that was looked up. -/
def found : Option Nat → Except ActionFault Nat
  | some i => .ok i
  | none => .error .absent

/-- The index of a number among bytes. -/
def placeOfByte (n : Int) (bytes : List UInt8) : Except ActionFault Nat :=
  match indexOfByte? n bytes with
  | .ok place => found place
  | .error f => .error (.fault f)

/-- The index of a value in the pool; a dictionary and a set have none to give. -/
def place (pool value : Value) : Except ActionFault Nat :=
  match pool with
  | .list items | .tuple items => found (Value.indexIn? value items)
  | .str text =>
    match value with
    | .str part => found (indexOfPart? part text)
    | _ => .error (.fault .unsearchable)
  | .bytes bytes =>
    match value with
    | .bytes part => found (indexOfPart? part bytes)
    | .int n => placeOfByte n bytes
    | .bool b => placeOfByte (if b then 1 else 0) bytes
    | _ => .error (.fault .unsearchable)
  | _ => .error (.fault .poolFixed)

/-- Put a value at the end of the pool, which only a list allows. -/
def grow (pool value : Value) : Except ActionFault Value :=
  match pool with
  | .list items => .ok (.list (items ++ [value]))
  | _ => .error (.fault .poolFixed)

/-- A value that went to the end of the pool has an index there, and it is the one given out for it
when that is done at once. -/
theorem grow_append (pool value : Value) :
    (∃ pool' i, append pool value = .ok (pool', i) ∧ grow pool value = .ok pool' ∧
        place pool' value = .ok i) ∨
      append pool value = .error .poolFixed ∧ grow pool value = .error (.fault .poolFixed) := by
  cases pool with
  | list items =>
    obtain ⟨i, hi⟩ := Value.exists_indexIn?_append_self value items
    exact .inl ⟨_, i, by simp [append, hi], rfl, by simp [place, hi, found]⟩
  | _ => exact .inr ⟨rfl, rfl⟩

end Pool

/-! ## The actions of a line -/

/-- The state that code lines are carried out on: what is counted goes with the assembly. -/
abbrev CodeState := Assembly × Progress

namespace CodeAction

def fail (f : Fault) : Action CodeState := fun _ =>
  .error (.fault f)

/-- Count a line without an instruction. -/
def skip : Action CodeState := fun s =>
  .ok (s.1, { s.2 with gap := s.2.gap + 1 })

def push : Action CodeState := fun s =>
  .ok (s.1, s.2.push)

def pop : Action CodeState := fun s =>
  .ok (s.1, s.2.pop)

/-- Count an operation by its name. -/
def countName (name : String) : Action CodeState :=
  if Mnemonic.isPush name then push
  else if Mnemonic.isPop name then pop
  else fun s => .ok s

/-- A line table with a gap added to its last entry. -/
def widened (gap : Nat) : Value → Except ActionFault Value
  | .list entries =>
    match entries.getLast? with
    | some (.int n) => .ok (.list (entries.dropLast ++ [.int (n + gap)]))
    | _ => .error .unwidened
  | _ => .error .unwidened

/-- Account for the lines before an instruction, `before` lines being ahead of the code. -/
def place (before : Nat) : Action CodeState := fun s =>
  if s.2.started then
    if s.2.gap = 0 then .ok s
    else
      match widened s.2.gap s.1.fields.lineTable with
      | .ok table =>
        .ok ({ s.1 with fields := { s.1.fields with lineTable := table } }, { s.2 with gap := 0 })
      | .error f => .error f
  else
    .ok ({ s.1 with fields := { s.1.fields with firstLine := .int (before + s.2.gap + 1) } },
      { s.2 with started := true, gap := 0 })

/-- Add numbers to the code, once they are found. -/
def emit (numbers : Assembly → Except ActionFault (List Int)) : Action CodeState := fun s =>
  match numbers s.1 with
  | .ok ns => .ok ({ s.1 with code := s.1.code ++ ns }, s.2)
  | .error f => .error f

/-- Add the numbers of an operation without an operand. -/
def emitPlain (number : Nat) : Action CodeState :=
  emit fun _ => .ok [(number : Int)]

/-- Add the numbers of an operation with an operand that is known. -/
def emitWith (number : Nat) (n : Int) : Action CodeState :=
  emit fun _ => .ok [(number : Int), n, 0]

/-- Put a constant at the end of the pool. -/
def growPool (v : Value) : Action CodeState := fun s =>
  match Pool.grow s.1.fields.constants v with
  | .ok pool => .ok ({ s.1 with fields := { s.1.fields with constants := pool } }, s.2)
  | .error f => .error f

/-- Load a constant by the index that it has in the pool. -/
def emitConstant (v : Value) : Action CodeState :=
  emit fun a =>
    match Pool.place a.fields.constants v with
    | .ok i => .ok [(Opcode.loadConst : Int), (i : Int), 0]
    | .error f => .error f

/-- Enter a word for a constant under the index that it has in the pool. -/
def enter (word : String) (v : Value) : Action CodeState := fun s =>
  match Pool.place s.1.fields.constants v with
  | .ok i => .ok ({ s.1 with constantTable := s.1.constantTable.insert (Text.ofString word) i }, s.2)
  | .error f => .error f

/-- Add an instruction of `width` numbers to the line table. -/
def mark (width : Nat) : Action CodeState := fun s =>
  match s.1.addLine width with
  | .ok a => .ok (a, s.2)
  | .error f => .error (.fault f)

/-- Set the stack size from the peak. -/
def setSize : Action CodeState := fun s =>
  .ok ({ s.1 with
    fields := { s.1.fields with stackSize := .int (if 0 < s.2.peak then s.2.peak else 5) } }, s.2)

/-- Load a word that is in no table. -/
def loadNumber (word : String) (otherwise : Report) : List (Action CodeState) :=
  match Literal.readNumber word with
  | .error e => [fail (.literal e)]
  | .ok (_, false) => [fail (.report otherwise)]
  | .ok (v, true) => [growPool v, emitConstant v, enter word v]

/-- Load the operand of a `RETURN`. -/
def loadForReturn (a : Assembly) (word : String) : List (Action CodeState) :=
  match a.constantTable.find? (Text.ofString word) with
  | some i => [emitWith Opcode.loadConst i]
  | none =>
    match a.localTable.find? (Text.ofString word) with
    | some i => [emitWith Opcode.loadFast i]
    | none => loadNumber word (.badReturn word)

/-- Load the operand of a `LOAD`. -/
def loadForLoad (a : Assembly) (word : String) : List (Action CodeState) :=
  match a.constantTable.find? (Text.ofString word) with
  | some i => [emitWith Opcode.loadConst i]
  | none =>
    match a.localTable.find? (Text.ofString word) with
    | some i => [emitWith Opcode.loadFast i]
    | none =>
      match a.globalTable.find? (Text.ofString word) with
      | some i => [emitWith Opcode.loadGlobal i]
      | none => loadNumber word (.badLoad word)

end CodeAction

open CodeAction

/-- **The actions of a mnemonic** with the words after it, in a state. -/
def Mnemonic.actions (a : Assembly) : Mnemonic → List String → List (Action CodeState)
  | .operation name number, [] => [countName name, emitPlain number, mark 1]
  | .operation name number, word :: _ =>
    [countName name,
      emit fun a => ((a.operand name word).mapError .fault).map fun n => [(number : Int), n, 0],
      mark 3]
  | .println, _ =>
    [emit fun _ => .ok [(Opcode.printItem : Int), (Opcode.printNewline : Int)], mark 2, pop]
  | .store, [] => [fail .missingOperand]
  | .store, word :: _ =>
    [emit fun a => ((Assembly.lookup a.localTable word).mapError .fault).map fun i =>
        [(Opcode.storeFast : Int), (i : Int), 0],
      mark 3, pop]
  | .ret, [] => [fail .missingOperand]
  | .ret, word :: _ => loadForReturn a word ++ [emitPlain Opcode.returnValue, mark 4]
  | .load, [] => [fail .missingOperand]
  | .load, word :: _ => loadForLoad a word ++ [mark 3, push]
  | .binary number, _ => [emitPlain number, mark 1, pop]
  | .unary number, _ => [emitPlain number, mark 1]

namespace CodeAction

/-- The actions of an instruction. -/
def ofInstruction (word : String) (operands : List String) (s : CodeState) :
    List (Action CodeState) :=
  match Mnemonic.ofWord? word with
  | none => [fail (.report (.unknownInstruction word))]
  | some mnemonic => mnemonic.actions s.1 operands

/-- The actions of a line.  Those of the instruction are chosen when the lines before it are
accounted for. -/
def ofLine (before : Nat) (line : String) : List (CodeState → List (Action CodeState)) :=
  match Assembly.instruction? line with
  | none => [fun _ => [skip]]
  | some (word, operands) => [fun _ => [place before], ofInstruction word operands]

/-- **The actions of code** with `before` lines ahead of it. -/
def ofCode (before : Nat) (code : List String) : List (CodeState → List (Action CodeState)) :=
  code.flatMap (ofLine before) ++ [fun _ => [setSize]]

/-! ## Single instructions -/

/-- The result of actions is that of assembling.  What was counted up to a fault is not compared,
since it is dropped there. -/
inductive Matches : CodeState × Option ActionFault → Assembly × Progress × Option Fault → Prop
  | done (a : Assembly) (p : Progress) : Matches ((a, p), none) (a, p, none)
  | stopped (a : Assembly) (p q : Progress) (f : Fault) :
    Matches ((a, q), some (.fault f)) (a, p, some f)

section Instruction

variable {a : Assembly} {p : Progress}

/-- The end of an instruction: its entries go to the line table, and then only counting is left. -/
theorem matches_mark (rest : List (Action CodeState)) {q q' : Progress}
    (hrest : ∀ b, Action.perform rest (b, q) = ((b, q'), none)) (a : Assembly) (width : Nat) :
    Matches (Action.perform (mark width :: rest) (a, q))
      (match a.addLine width with
        | .error f => (a, p, some f)
        | .ok a' => (a', q', none)) := by
  simp only [Action.perform, mark]
  cases a.addLine width with
  | error f => exact .stopped a p q f
  | ok a' =>
    show Matches (Action.perform rest (a', q)) (a', q', none)
    rw [hrest]
    exact .done a' q'

/-- What loading leaves, when it is done at once. -/
def loaded (a : Assembly) (p : Progress) : Except Fault (Item × Assembly) →
    CodeState × Option ActionFault
  | .ok (item, a') => ((a'.addCode [item], p), none)
  | .error f => ((a, p), some (.fault f))

theorem perform_emitWith (number n : Nat) :
    Action.perform [emitWith number n] (a, p) = loaded a p (.ok (⟨number, some (n : Int)⟩, a)) := rfl

/-- **A number is loaded as a whole or not at all**: where the pool has grown, nothing fails. -/
theorem perform_loadNumber (word : String) (otherwise : Report) :
    Action.perform (loadNumber word otherwise) (a, p) = loaded a p (a.loadNumber word otherwise) := by
  unfold loadNumber Assembly.loadNumber
  rcases Literal.readNumber word with e | ⟨v, numeric⟩
  · rfl
  · cases numeric with
    | false => rfl
    | true =>
      rcases Pool.grow_append a.fields.constants v with
        ⟨pool, i, happend, hgrow, hplace⟩ | ⟨happend, hgrow⟩
      · -- The pool has grown, and the two actions after that ask it for an index.
        simp only [happend, Action.perform, growPool, hgrow, emitConstant, emit, hplace, enter]
        rfl
      · simp only [happend, Action.perform, growPool, hgrow]
        rfl

theorem perform_loadForReturn (word : String) :
    Action.perform (loadForReturn a word) (a, p) = loaded a p (a.loadForReturn word) := by
  unfold loadForReturn Assembly.loadForReturn
  cases a.constantTable.find? (Text.ofString word) with
  | some i => exact perform_emitWith _ i
  | none =>
    cases a.localTable.find? (Text.ofString word) with
    | some i => exact perform_emitWith _ i
    | none => exact perform_loadNumber word _

theorem perform_loadForLoad (word : String) :
    Action.perform (loadForLoad a word) (a, p) = loaded a p (a.loadForLoad word) := by
  unfold loadForLoad Assembly.loadForLoad
  cases a.constantTable.find? (Text.ofString word) with
  | some i => exact perform_emitWith _ i
  | none =>
    cases a.localTable.find? (Text.ofString word) with
    | some i => exact perform_emitWith _ i
    | none =>
      cases a.globalTable.find? (Text.ofString word) with
      | some i => exact perform_emitWith _ i
      | none => exact perform_loadNumber word _

/-- An operation is counted first, and what is counted comes to the same. -/
theorem perform_countName (name : String) (number : Nat) (rest : List (Action CodeState)) :
    Action.perform (countName name :: rest) (a, p)
      = Action.perform rest (a, p.count (.operation name number)) := by
  cases hpush : Mnemonic.isPush name with
  | true => simp [countName, Progress.count, hpush, Action.perform, push]
  | false =>
    cases hpop : Mnemonic.isPop name <;>
      simp [countName, Progress.count, hpush, hpop, Action.perform, pop]

/-- What a mnemonic leaves, when its operand is resolved before anything else is done. -/
def assembled (a : Assembly) (p : Progress) (mnemonic : Mnemonic) (operands : List String) :
    Assembly × Progress × Option Fault :=
  match a.resolve mnemonic operands with
  | .error f => (a, p, some f)
  | .ok (items, a₁) =>
    match (a₁.addCode items).addLine (mnemonic.width operands) with
    | .error f => (a₁.addCode items, p, some f)
    | .ok a₂ => (a₂, p.count mnemonic, none)

/-- **One mnemonic, action by action.** -/
theorem matches_actions (mnemonic : Mnemonic) (operands : List String) :
    Matches (Action.perform (mnemonic.actions a operands) (a, p))
      (assembled a p mnemonic operands) := by
  cases mnemonic with
  | operation name number =>
    cases operands with
    | nil =>
      rw [Mnemonic.actions, perform_countName name number]
      exact matches_mark [] (fun b => rfl) _ _
    | cons word rest =>
      rw [Mnemonic.actions, perform_countName name number, assembled, Assembly.resolve_operation]
      simp only [Action.perform, emit]
      cases a.operand name word with
      | error f => exact .stopped _ _ _ _
      | ok n => exact matches_mark [] (fun b => rfl) _ _
  | println => exact matches_mark [pop] (fun b => rfl) _ _
  | store =>
    cases operands with
    | nil => exact .stopped _ _ _ _
    | cons word rest =>
      rw [Mnemonic.actions, assembled, Assembly.resolve_store]
      simp only [Action.perform, emit]
      cases Assembly.lookup a.localTable word with
      | error f => exact .stopped _ _ _ _
      | ok i => exact matches_mark [pop] (fun b => rfl) _ _
  | ret =>
    cases operands with
    | nil => exact .stopped _ _ _ _
    | cons word rest =>
      rw [Mnemonic.actions, Action.perform_append, perform_loadForReturn, assembled,
        Assembly.resolve_ret]
      rcases a.loadForReturn word with f | ⟨item, a'⟩
      · exact .stopped _ _ _ _
      · -- Assembled as a whole, the line emits both of its operations at once.
        have hcode : a'.addCode [item, ⟨Opcode.returnValue, none⟩]
            = (a'.addCode [item]).addCode [⟨Opcode.returnValue, none⟩] := by
          simp [Assembly.addCode, Item.allNumbers]
        simp only [Except.map, hcode]
        exact matches_mark [] (fun b => rfl) _ _
  | load =>
    cases operands with
    | nil => exact .stopped _ _ _ _
    | cons word rest =>
      rw [Mnemonic.actions, Action.perform_append, perform_loadForLoad, assembled,
        Assembly.resolve_load]
      rcases a.loadForLoad word with f | ⟨item, a'⟩
      · exact .stopped _ _ _ _
      · exact matches_mark [push] (fun b => rfl) _ _
  | binary number => exact matches_mark [pop] (fun b => rfl) _ _
  | unary number => exact matches_mark [] (fun b => rfl) _ _

end Instruction

/-! ## Lines -/

/-- Once an instruction was met, there is a number at the end of the line table. -/
def Widenable (a : Assembly) (p : Progress) : Prop :=
  p.started = true → ∃ entries n, a.fields.lineTable = .list (entries ++ [.int n])

theorem Widenable.step {before : Nat} {line : String} {a a' : Assembly} {p p' : Progress}
    (h : Widenable a p) (hs : Assembly.LineStep before line a p (a', p', none)) :
    Widenable a' p' := by
  cases hs with
  | gap => exact h
  | @emits word operands mnemonic items b entries hi hm hr hl =>
    intro _
    refine ⟨(if p.started then Assembly.widenLast p.gap entries else entries) ++
      [.int (mnemonic.width operands)], 1, ?_⟩
    rw [List.append_assoc]
    rfl

/-- The gap can be added wherever an instruction is met. -/
theorem place_eq {a : Assembly} {p : Progress} (h : Widenable a p) (before : Nat) :
    place before (a, p) = .ok (a.placeInstruction before p) := by
  unfold place Assembly.placeInstruction
  cases hp : p.started with
  | false => rfl
  | true =>
    by_cases hgap : p.gap = 0
    · simp [hgap]
    · obtain ⟨entries, n, hentries⟩ := h hp
      have hlast : Assembly.widenLast p.gap (entries ++ [.int n]) = entries ++ [.int (n + p.gap)] :=
        Assembly.widenLast_append p.gap entries (by simp)
      simp [hp, hgap, hentries, widened, hlast]

theorem matches_line {a : Assembly} {p : Progress} (h : Widenable a p) (before : Nat)
    (line : String) :
    Matches (Action.performBlocks (ofLine before line) (a, p)) (a.assembleLine before line p) := by
  unfold ofLine Assembly.assembleLine
  cases Assembly.instruction? line with
  | none => exact .done _ _
  | some w =>
    obtain ⟨word, operands⟩ := w
    dsimp only
    rw [Action.performBlocks, Action.perform, place_eq h]
    rcases a.placeInstruction before p with ⟨a₁, p₁⟩
    show Matches (Action.performBlocks [ofInstruction word operands] (a₁, p₁)) _
    rw [Action.performBlocks_singleton]
    unfold ofInstruction Assembly.assembleInstruction
    cases Mnemonic.ofWord? word with
    | none => exact .stopped _ _ _ _
    | some mnemonic => exact matches_actions mnemonic operands

/-- **Lines of code, action by action.** -/
theorem matches_lines {a : Assembly} {p : Progress} (h : Widenable a p) (before : Nat)
    (lines : List String) :
    Matches (Action.performBlocks (lines.flatMap (ofLine before)) (a, p))
      (Assembly.assembleLines before lines a p) := by
  induction lines generalizing a p with
  | nil => exact .done a p
  | cons line rest ih =>
    rw [List.flatMap_cons, Action.performBlocks_append, Assembly.assembleLines]
    have hline := matches_line h before line
    have hstep := Assembly.assembleLine_step before line a p
    generalize Action.performBlocks (ofLine before line) (a, p) = r at hline ⊢
    generalize a.assembleLine before line p = r' at hline hstep ⊢
    cases hline with
    | done a' p' => exact ih (h.step hstep)
    | stopped a' p' q f => exact .stopped a' p' q f

/-- **Code, action by action**, leaves what it leaves line by line, and ends in the same fault. -/
theorem matches_code (before : Nat) (code : List String) (a : Assembly) :
    let r := Action.performBlocks (ofCode before code) (a, Progress.initial)
    r.1.1 = (a.assemble before code).1 ∧ r.2 = (a.assemble before code).2.map .fault := by
  have hlines := @matches_lines a Progress.initial nofun before code
  unfold ofCode Assembly.assemble
  rw [Action.performBlocks_append]
  generalize Action.performBlocks (code.flatMap (ofLine before)) (a, Progress.initial) = r
    at hlines ⊢
  generalize Assembly.assembleLines before code a Progress.initial = r' at hlines ⊢
  cases hlines with
  | done b q => exact ⟨rfl, rfl⟩
  | stopped b q q' f => exact ⟨rfl, rfl⟩

end CodeAction

end BytecodeAssembler
