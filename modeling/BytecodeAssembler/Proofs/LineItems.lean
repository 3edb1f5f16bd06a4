import BytecodeAssembler.Proofs.Symbols

/-!
# What lines of code stand for

A line stands for the items that its mnemonic and the symbol tables give, which is said here apart
from the assembler (`Assembly.LineStandsFor`).  The tables that count are those once the line is
assembled, since a number that it makes a constant is among the constants only then.  Where lines
are assembled without a fault, the code grows by the numbers of what they stand for.
-/

namespace BytecodeAssembler

theorem Item.allNumbers_append (items more : List Item) :
    allNumbers (items ++ more) = allNumbers items ++ allNumbers more :=
  List.flatMap_append

namespace Assembly

/-- The item that loads an operand: a constant, or else a local, or else a global. -/
inductive Loads (tables : OperandKind → SymbolTable) (word : String) : Item → Prop
  | constant {i : Nat} (hi : (tables .constant).find? (Text.ofString word) = some i) :
      Loads tables word ⟨Opcode.loadConst, some i⟩
  | local {i : Nat} (hc : ¬ (tables .constant).Has word)
      (hi : (tables .local).find? (Text.ofString word) = some i) :
      Loads tables word ⟨Opcode.loadFast, some i⟩
  | global {i : Nat} (hc : ¬ (tables .constant).Has word) (hl : ¬ (tables .local).Has word)
      (hi : (tables .global).find? (Text.ofString word) = some i) :
      Loads tables word ⟨Opcode.loadGlobal, some i⟩

/-- **The items that a mnemonic stands for** with the words after it, by the symbol tables. -/
inductive MnemonicItems (tables : OperandKind → SymbolTable) :
    Mnemonic → List String → List Item → Prop
  | bare {name : String} {number : Nat} :
      MnemonicItems tables (.operation name number) [] [⟨number, none⟩]
  | symbol {name word : String} {number i : Nat} {rest : List String}
      (hk : Mnemonic.operandKind name ≠ .number)
      (hi : (tables (Mnemonic.operandKind name)).find? (Text.ofString word) = some i) :
      MnemonicItems tables (.operation name number) (word :: rest) [⟨number, some i⟩]
  | number {name word : String} {number : Nat} {rest : List String} {n : Int}
      (hk : Mnemonic.operandKind name = .number) (hn : Numeral.read word = .ok n) :
      MnemonicItems tables (.operation name number) (word :: rest) [⟨number, some n⟩]
  | println {operands : List String} :
      MnemonicItems tables .println operands
        [⟨Opcode.printItem, none⟩, ⟨Opcode.printNewline, none⟩]
  | store {word : String} {i : Nat} {rest : List String}
      (hi : (tables .local).find? (Text.ofString word) = some i) :
      MnemonicItems tables .store (word :: rest) [⟨Opcode.storeFast, some i⟩]
  | ret {word : String} {item : Item} {rest : List String} (hl : Loads tables word item) :
      MnemonicItems tables .ret (word :: rest) [item, ⟨Opcode.returnValue, none⟩]
  | load {word : String} {item : Item} {rest : List String} (hl : Loads tables word item) :
      MnemonicItems tables .load (word :: rest) [item]
  | binary {number : Nat} {operands : List String} :
      MnemonicItems tables (.binary number) operands [⟨number, none⟩]
  | unary {number : Nat} {operands : List String} :
      MnemonicItems tables (.unary number) operands [⟨number, none⟩]

/-- The items that a line stands for, by the symbol tables. -/
def LineStandsFor (tables : OperandKind → SymbolTable) (line : String) (items : List Item) : Prop :=
  match instruction? line with
  | none => items = []
  | some (word, operands) =>
    ∃ mnemonic, Mnemonic.Named (Text.capitals word) mnemonic ∧
      MnemonicItems tables mnemonic operands items

/-- **The items that lines stand for** when they are assembled from a state.  The symbol tables that
count for a line are those once it is assembled, since a number that it makes a constant is among
the constants only then. -/
inductive StandFor (before : Nat) : List String → Assembly → Progress → List Item → Prop
  | nil {a : Assembly} {p : Progress} : StandFor before [] a p []
  | cons {line : String} {rest : List String} {a a' : Assembly} {p p' : Progress}
      {items more : List Item} (hline : a.assembleLine before line p = (a', p', none))
      (hitems : LineStandsFor a'.table line items) (hrest : StandFor before rest a' p' more) :
      StandFor before (line :: rest) a p (items ++ more)

section Unique

variable {tables : OperandKind → SymbolTable}

theorem Loads.unique {word : String} {item item' : Item} (h : Loads tables word item)
    (h' : Loads tables word item') : item = item' := by
  cases h with
  | constant hi =>
    cases h' with
    | constant hi' => rw [Option.some.inj (hi.symm.trans hi')]
    | «local» hc => exact absurd ⟨_, hi⟩ hc
    | global hc => exact absurd ⟨_, hi⟩ hc
  | «local» hc hi =>
    cases h' with
    | constant hi' => exact absurd ⟨_, hi'⟩ hc
    | «local» hc' hi' => rw [Option.some.inj (hi.symm.trans hi')]
    | global hc' hl => exact absurd ⟨_, hi⟩ hl
  | global hc hl hi =>
    cases h' with
    | constant hi' => exact absurd ⟨_, hi'⟩ hc
    | «local» hc' hi' => exact absurd ⟨_, hi'⟩ hl
    | global hc' hl' hi' => rw [Option.some.inj (hi.symm.trans hi')]

theorem MnemonicItems.unique {mnemonic : Mnemonic} {operands : List String}
    {items items' : List Item} (h : MnemonicItems tables mnemonic operands items)
    (h' : MnemonicItems tables mnemonic operands items') : items = items' := by
  cases h with
  | bare => cases h' with | bare => rfl
  | symbol hk hi =>
    cases h' with
    | symbol hk' hi' => rw [Option.some.inj (hi.symm.trans hi')]
    | number hk' hn => exact absurd hk' hk
  | number hk hn =>
    cases h' with
    | symbol hk' hi => exact absurd hk hk'
    | number hk' hn' => rw [Except.ok.inj (hn.symm.trans hn')]
  | println => cases h' with | println => rfl
  | store hi => cases h' with | store hi' => rw [Option.some.inj (hi.symm.trans hi')]
  | ret hl => cases h' with | ret hl' => rw [hl.unique hl']
  | load hl => cases h' with | load hl' => rw [hl.unique hl']
  | binary => cases h' with | binary => rfl
  | unary => cases h' with | unary => rfl

/-- A line stands for one list of items. -/
theorem LineStandsFor.unique {line : String} {items items' : List Item}
    (h : LineStandsFor tables line items) (h' : LineStandsFor tables line items') :
    items = items' := by
  unfold LineStandsFor at h h'
  cases hi : instruction? line with
  | none =>
    rw [hi] at h h'
    exact h.trans h'.symm
  | some w =>
    rw [hi] at h h'
    obtain ⟨m, hm, hitems⟩ := h
    obtain ⟨m', hm', hitems'⟩ := h'
    obtain rfl := hm.unique hm'
    exact hitems.unique hitems'

end Unique

/-! ## Resolving gives what lines stand for -/

theorem loads_of_loadNumber {a a' : Assembly} {word : String} {otherwise : Report} {item : Item}
    (h : a.loadNumber word otherwise = .ok (item, a')) : Loads a'.table word item := by
  obtain ⟨v, pool, -, -, rfl, rfl⟩ := loadNumber_ok_iff.mp h
  apply Loads.constant
  show (a.constantTable.insert _ _).find? _ = _
  rw [SymbolTable.find?_insert, if_pos rfl]

theorem loads_of_loadForReturn {a a' : Assembly} {word : String} {item : Item}
    (h : a.loadForReturn word = .ok (item, a')) : Loads a'.table word item := by
  by_cases hc : a.constantTable.Has word
  · obtain ⟨i, hi⟩ := hc
    simp only [loadForReturn, hi, Except.ok.injEq, Prod.mk.injEq] at h
    obtain ⟨rfl, rfl⟩ := h
    exact .constant hi
  · rcases loadForReturn_ok_cases h with ⟨i, hi, -, -⟩ | ⟨i, hi, rfl, rfl⟩ | ⟨-, -, hn⟩
    · exact absurd ⟨i, hi⟩ hc
    · exact .local hc hi
    · exact loads_of_loadNumber hn

theorem loads_of_loadForLoad {a a' : Assembly} {word : String} {item : Item}
    (h : a.loadForLoad word = .ok (item, a')) : Loads a'.table word item := by
  by_cases hc : a.constantTable.Has word
  · obtain ⟨i, hi⟩ := hc
    simp only [loadForLoad, hi, Except.ok.injEq, Prod.mk.injEq] at h
    obtain ⟨rfl, rfl⟩ := h
    exact .constant hi
  · have hnone := SymbolTable.find?_eq_none_iff.mpr hc
    by_cases hl : a.localTable.Has word
    · obtain ⟨i, hi⟩ := hl
      simp only [loadForLoad, hnone, hi, Except.ok.injEq, Prod.mk.injEq] at h
      obtain ⟨rfl, rfl⟩ := h
      exact .local hc hi
    · rcases loadForLoad_ok_cases h with
        ⟨i, hi, -, -⟩ | ⟨i, hi, -, -⟩ | ⟨i, hi, rfl, rfl⟩ | ⟨-, -, -, hn⟩
      · exact absurd ⟨i, hi⟩ hc
      · exact absurd ⟨i, hi⟩ hl
      · exact .global hc hl hi
      · exact loads_of_loadNumber hn

theorem mnemonicItems_of_operand {a : Assembly} {name word : String} {number : Nat} {n : Int}
    (rest : List String) (h : a.operand name word = .ok n) :
    MnemonicItems a.table (.operation name number) (word :: rest) [⟨number, some n⟩] := by
  unfold operand at h
  cases hk : Mnemonic.operandKind name with
  | number =>
    rw [hk] at h
    cases hn : Numeral.read word with
    | ok n' =>
      simp only [hn, Except.ok.injEq] at h
      exact .number hk (h ▸ hn)
    | error e => cases e <;> simp [hn] at h
  | _ =>
    rw [hk] at h
    obtain ⟨i, hi, rfl⟩ := map_eq_ok h
    refine .symbol (by simp [hk]) ?_
    rw [hk]
    exact lookup_eq_ok_iff.mp hi

/-- **What resolving gives is what the mnemonic stands for.** -/
theorem mnemonicItems_of_resolve {a a' : Assembly} {mnemonic : Mnemonic} {operands : List String}
    {items : List Item} (h : a.resolve mnemonic operands = .ok (items, a')) :
    MnemonicItems a'.table mnemonic operands items := by
  cases mnemonic with
  | operation name number =>
    cases operands with
    | nil =>
      obtain ⟨rfl, rfl⟩ := Prod.mk.inj (Except.ok.inj h)
      exact .bare
    | cons word rest =>
      rw [resolve_operation] at h
      obtain ⟨n, hn, heq⟩ := map_eq_ok h
      obtain ⟨rfl, rfl⟩ := Prod.mk.inj heq
      exact mnemonicItems_of_operand rest hn
  | store =>
    cases operands with
    | nil => cases h
    | cons word rest =>
      rw [resolve_store] at h
      obtain ⟨i, hi, heq⟩ := map_eq_ok h
      obtain ⟨rfl, rfl⟩ := Prod.mk.inj heq
      exact .store (lookup_eq_ok_iff.mp hi)
  | ret =>
    cases operands with
    | nil => cases h
    | cons word rest =>
      rw [resolve_ret] at h
      obtain ⟨⟨item, b⟩, hr, heq⟩ := map_eq_ok h
      obtain ⟨rfl, rfl⟩ := Prod.mk.inj heq
      exact .ret (loads_of_loadForReturn hr)
  | load =>
    cases operands with
    | nil => cases h
    | cons word rest =>
      rw [resolve_load] at h
      obtain ⟨⟨item, b⟩, hr, heq⟩ := map_eq_ok h
      obtain ⟨rfl, rfl⟩ := Prod.mk.inj heq
      exact .load (loads_of_loadForLoad hr)
  | println =>
    obtain ⟨rfl, rfl⟩ := Prod.mk.inj (Except.ok.inj h)
    exact .println
  | binary number =>
    obtain ⟨rfl, rfl⟩ := Prod.mk.inj (Except.ok.inj h)
    exact .binary
  | unary number =>
    obtain ⟨rfl, rfl⟩ := Prod.mk.inj (Except.ok.inj h)
    exact .unary

/-- A line that is assembled stands for the items whose numbers it adds to the code. -/
theorem lineStandsFor_of_step {before : Nat} {line : String} {a a' : Assembly} {p p' : Progress}
    (h : LineStep before line a p (a', p', none)) :
    LineStandsFor a'.table line (a.lineItems line) := by
  cases h with
  | gap hi => simp only [LineStandsFor, lineItems, hi]
  | emits hi hm hr hl =>
    simp only [LineStandsFor, lineItems, hi, hm, hr]
    have hitems := mnemonicItems_of_resolve hr
    exact ⟨_, Mnemonic.ofWord?_eq_some_iff.mp hm, hitems⟩

/-- Lines that are assembled without a fault stand for some items. -/
theorem exists_standFor {before : Nat} {lines : List String} {a a' : Assembly} {p p' : Progress}
    (h : assembleLines before lines a p = (a', p', none)) :
    ∃ items, StandFor before lines a p items := by
  induction lines generalizing a p with
  | nil => exact ⟨[], .nil⟩
  | cons line rest ih =>
    have hline := assembleLine_step before line a p
    rcases hr : a.assembleLine before line p with ⟨b, q, f⟩
    rw [hr] at hline
    simp only [assembleLines, hr] at h
    cases f with
    | some f => simp at h
    | none =>
      obtain ⟨more, hmore⟩ := ih h
      exact ⟨_, .cons hr (lineStandsFor_of_step hline) hmore⟩

/-- **The code is what the lines stand for.** -/
theorem StandFor.code_eq {before : Nat} {lines : List String} {a : Assembly} {p : Progress}
    {items : List Item} (h : StandFor before lines a p items) :
    (assembleLines before lines a p).1.code = a.code ++ Item.allNumbers items := by
  induction h with
  | nil => simp [assembleLines, Item.allNumbers]
  | @cons line rest a a' p p' items more hline hitems hrest ih =>
    have hstep := assembleLine_step before line a p
    rw [hline] at hstep
    obtain rfl := (lineStandsFor_of_step hstep).unique hitems
    simp only [assembleLines, hline]
    rw [ih, hstep.code_eq, Item.allNumbers_append, List.append_assoc]

end Assembly

end BytecodeAssembler
