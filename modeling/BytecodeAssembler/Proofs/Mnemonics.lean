import BytecodeAssembler.Mnemonic
import Mathlib.Tactic.SplitIfs

/-!
# Which names are which mnemonics

A name in capitals is looked up among the operations first, then among the four shorthands with
operands of their own, then among the operators.  No name is found in two of these places, so each
kind of mnemonic has its own names and the order of the look-up does not show (`Named`).  The same
holds of operands: the parts of a name single out seven operations that take theirs from a symbol
table, and all others take a number.
-/

namespace BytecodeAssembler.Mnemonic

/-- The mnemonics by their names, in no order. -/
inductive Named (name : String) : Mnemonic → Prop
  | operation {number : Nat} (h : Opcode.number? name = some number) :
      Named name (.operation name number)
  | println (h : name = "PRINTLN") : Named name .println
  | store (h : name = "STORE") : Named name .store
  | ret (h : name = "RETURN") : Named name .ret
  | load (h : name = "LOAD") : Named name .load
  | binary {number : Nat} (h : (name, number) ∈ binaryOperators) : Named name (.binary number)
  | unary {number : Nat} (h : (name, number) ∈ unaryOperators) : Named name (.unary number)

theorem mem_of_lookup {name : String} {number : Nat} {table : List (String × Nat)}
    (h : table.lookup name = some number) : (name, number) ∈ table := by
  induction table with
  | nil => cases h
  | cons e rest ih =>
    obtain ⟨n, m⟩ := e
    rw [List.lookup_cons] at h
    cases hn : name == n with
    | true =>
      simp only [hn, Option.some.injEq] at h
      rw [beq_iff_eq.mp hn, h]
      exact List.mem_cons_self
    | false =>
      simp only [hn] at h
      exact List.mem_cons_of_mem _ (ih h)

/-- The look-up finds every operator under its own name. -/
theorem ofName?_operators :
    (∀ e ∈ binaryOperators, ofName? e.1 = some (.binary e.2)) ∧
      ∀ e ∈ unaryOperators, ofName? e.1 = some (.unary e.2) := by
  decide +kernel

/-- **The look-up of a name** finds the mnemonics by their names. -/
theorem ofName?_eq_some_iff {name : String} {mnemonic : Mnemonic} :
    ofName? name = some mnemonic ↔ Named name mnemonic := by
  constructor
  · intro h
    unfold ofName? at h
    cases hn : Opcode.number? name with
    | some number =>
      simp only [hn, Option.some.injEq] at h
      subst h
      exact .operation hn
    | none =>
      simp only [hn] at h
      split at h
      · cases h
        exact .println rfl
      · cases h
        exact .store rfl
      · cases h
        exact .ret rfl
      · cases h
        exact .load rfl
      · cases hb : binaryOperators.lookup name with
        | some number =>
          simp only [hb, Option.some.injEq] at h
          subst h
          exact .binary (mem_of_lookup hb)
        | none =>
          simp only [hb, Option.map_eq_some_iff] at h
          obtain ⟨number, hu, rfl⟩ := h
          exact .unary (mem_of_lookup hu)
  · intro h
    cases h with
    | operation h =>
      unfold ofName?
      rw [h]
    | println h => subst h; decide +kernel
    | store h => subst h; decide +kernel
    | ret h => subst h; decide +kernel
    | load h => subst h; decide +kernel
    | binary h => exact ofName?_operators.1 _ h
    | unary h => exact ofName?_operators.2 _ h

/-- A name is that of one mnemonic at most. -/
theorem Named.unique {name : String} {m m' : Mnemonic} (h : Named name m) (h' : Named name m') :
    m = m' := by
  rw [← ofName?_eq_some_iff] at h h'
  exact Option.some.inj (h.symm.trans h')

theorem ofWord?_eq_some_iff {word : String} {mnemonic : Mnemonic} :
    ofWord? word = some mnemonic ↔ Named (Text.capitals word) mnemonic :=
  ofName?_eq_some_iff

/-! ## Kinds of operands -/

/-- The operations whose operand names a global. -/
def globalOperations : List String :=
  ["LOAD_GLOBAL", "STORE_GLOBAL", "DELETE_GLOBAL"]

/-- The operations whose operand names a local. -/
def localOperations : List String :=
  ["LOAD_FAST", "STORE_FAST", "DELETE_FAST"]

/-- The kind of operand of an operation, by its whole name. -/
def kindOf (name : String) : OperandKind :=
  if name = "LOAD_CONST" then .constant
  else if name ∈ globalOperations then .global
  else if name ∈ localOperations then .local
  else .number

/-- **The parts of a name** single out seven operations: no other name goes on like theirs. -/
theorem operandKind_operations : ∀ e ∈ Opcode.table, operandKind e.1 = kindOf e.1 := by
  decide +kernel

theorem operandKind_eq_kindOf {name : String} {number : Nat}
    (h : Opcode.number? name = some number) : operandKind name = kindOf name :=
  operandKind_operations (name, number) (mem_of_lookup h)

/-- The operand of an operation is looked up where its name says. -/
theorem operandKind_cases {name : String} {number : Nat} (h : Opcode.number? name = some number) :
    (operandKind name = .constant ∧ name = "LOAD_CONST") ∨
      (operandKind name = .global ∧ name ∈ globalOperations) ∨
      (operandKind name = .local ∧ name ∈ localOperations) ∨
      (operandKind name = .number ∧ name ≠ "LOAD_CONST" ∧ name ∉ globalOperations ∧
        name ∉ localOperations) := by
  rw [operandKind_eq_kindOf h]
  unfold kindOf
  split_ifs with hconst hglobal hlocal
  · exact .inl ⟨rfl, hconst⟩
  · exact .inr (.inl ⟨rfl, hglobal⟩)
  · exact .inr (.inr (.inl ⟨rfl, hlocal⟩))
  · exact .inr (.inr (.inr ⟨rfl, hconst, hglobal, hlocal⟩))

/-- The operations whose operand names a symbol exist. -/
theorem number?_symbolOperation (name : String)
    (h : name ∈ "LOAD_CONST" :: globalOperations ++ localOperations) :
    ∃ number, Opcode.number? name = some number := by
  have hall : ∀ name ∈ "LOAD_CONST" :: globalOperations ++ localOperations,
      (Opcode.number? name).isSome = true := by decide +kernel
  exact Option.isSome_iff_exists.mp (hall name h)

theorem operandKind_loadConst : operandKind "LOAD_CONST" = .constant := by
  decide

theorem operandKind_global {name : String} (h : name ∈ globalOperations) :
    operandKind name = .global := by
  have hall : globalOperations.all fun name => operandKind name = .global := by decide
  simpa using List.all_eq_true.mp hall name h

theorem operandKind_local {name : String} (h : name ∈ localOperations) :
    operandKind name = .local := by
  have hall : localOperations.all fun name => operandKind name = .local := by decide
  simpa using List.all_eq_true.mp hall name h

end BytecodeAssembler.Mnemonic
