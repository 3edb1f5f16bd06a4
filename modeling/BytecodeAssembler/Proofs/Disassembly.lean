import BytecodeAssembler.Proofs.Calls
import BytecodeAssembler.Proofs.LineItems

/-!
# Reading code back

The machine that runs the code cuts it into operations by their numbers: from `Opcode.haveOperand`
on an operation takes the next two numbers as its operand, and below it takes none.
`Disassembly.decode` follows that rule.  The assembler looks at the line instead: an operation has an
operand when the line has a second word.

Code is read back as what was meant exactly where the two agree, item by item (`Item.Fits`).  One
item that does not fit is enough to spoil the whole, since it is itself read back with an operand
that it does not have, or without one that it has.  What was meant is what the lines stand for
(`Assembly.StandFor`).  Shorthands always fit, so everything comes down to the lines that name an
operation (`Assembly.operandFits`).
-/

namespace BytecodeAssembler

/-! ## Decoding -/

namespace Disassembly

/-- The operations of some code with their operands.  An operation with an operand takes three
numbers, the operand being spread over two of them, low part first. -/
def decode : List Int → Option (List (Int × Option Int))
  | [] => some []
  | number :: rest =>
    if number < Opcode.haveOperand then (decode rest).map ((number, none) :: ·)
    else
      match rest with
      | low :: high :: rest => (decode rest).map ((number, some (low + 256 * high)) :: ·)
      | _ => none

theorem decode_bare {number : Int} (h : number < Opcode.haveOperand) (rest : List Int) :
    decode (number :: rest) = (decode rest).map ((number, none) :: ·) := by
  rw [decode.eq_def]
  exact if_pos h

theorem decode_operand {number : Int} (h : ¬ number < Opcode.haveOperand) (low high : Int)
    (rest : List Int) :
    decode (number :: low :: high :: rest)
      = (decode rest).map ((number, some (low + 256 * high)) :: ·) := by
  simp [decode, h]

/-- An operation that takes an operand is not read back without one. -/
theorem decode_operand_ne {number : Int} (h : ¬ number < Opcode.haveOperand) (rest : List Int)
    (more : List (Int × Option Int)) : decode (number :: rest) ≠ some ((number, none) :: more) := by
  match rest with
  | [] => simp [decode, h]
  | [low] => simp [decode, h]
  | low :: high :: rest => simp [decode_operand h]

end Disassembly

namespace Item

/-- An item as it is read back. -/
def read (item : Item) : Int × Option Int :=
  (item.opcode, item.operand)

/-- An item has an operand just when its operation takes one. -/
def Fits (item : Item) : Prop :=
  item.operand.isSome = true ↔ Opcode.haveOperand ≤ item.opcode

theorem fits_bare {number : Nat} (h : ¬ Opcode.haveOperand ≤ number) :
    Fits ⟨number, none⟩ := by
  simp [Fits, h]

theorem fits_operand {number : Nat} (h : Opcode.haveOperand ≤ number) (n : Int) :
    Fits ⟨number, some n⟩ := by
  simp [Fits, h]

theorem allNumbers_cons (item : Item) (items : List Item) :
    allNumbers (item :: items) = item.numbers ++ allNumbers items := rfl

/-- **Items are read back as they are just when all of them fit.**  Up to the first that does not,
the numbers are cut where the items end. -/
theorem decode_allNumbers_iff (items : List Item) :
    Disassembly.decode (allNumbers items) = some (items.map read) ↔ ∀ item ∈ items, item.Fits := by
  induction items with
  | nil => simp [allNumbers, Disassembly.decode]
  | cons item items ih =>
    rw [List.forall_mem_cons, ← ih, allNumbers_cons, List.map_cons]
    obtain ⟨opcode, operand⟩ := item
    have hlt : ((opcode : Int) < Opcode.haveOperand) ↔ ¬ Opcode.haveOperand ≤ opcode := by omega
    cases operand with
    | none =>
      show Disassembly.decode ((opcode : Int) :: allNumbers items) = some ((_, none) :: _) ↔ _
      by_cases h : Opcode.haveOperand ≤ opcode
      · have hspoilt := Disassembly.decode_operand_ne (fun hn => hlt.mp hn h) (allNumbers items)
          (items.map read)
        simp [hspoilt, Fits, h]
      · rw [Disassembly.decode_bare (hlt.mpr h)]
        simp [Fits, h]
    | some n =>
      show Disassembly.decode ((opcode : Int) :: n :: 0 :: allNumbers items)
        = some ((_, some n) :: _) ↔ _
      by_cases h : Opcode.haveOperand ≤ opcode
      · rw [Disassembly.decode_operand fun hn => hlt.mp hn h]
        simp [Fits, h]
      · rw [Disassembly.decode_bare (hlt.mpr h)]
        simp [Fits, h]

end Item

/-! ## Which lines fit -/

namespace Assembly

/-- The operations that shorthands stand for: those that load and store take an operand, and the
others take none. -/
theorem shorthand_operations :
    (∀ number ∈ [Opcode.loadConst, Opcode.loadFast, Opcode.loadGlobal, Opcode.storeFast],
      Opcode.haveOperand ≤ number) ∧
    (∀ number ∈ [Opcode.printItem, Opcode.printNewline, Opcode.returnValue],
      ¬ Opcode.haveOperand ≤ number) ∧
    ∀ e ∈ Mnemonic.binaryOperators ++ Mnemonic.unaryOperators, ¬ Opcode.haveOperand ≤ e.2 := by
  decide

theorem Loads.fits {tables : OperandKind → SymbolTable} {word : String} {item : Item}
    (h : Loads tables word item) : item.Fits := by
  cases h <;> exact Item.fits_operand (shorthand_operations.1 _ (by simp)) _

/-- The items of a shorthand fit. -/
theorem MnemonicItems.fits {tables : OperandKind → SymbolTable} {name : String}
    {mnemonic : Mnemonic} {operands : List String} {items : List Item}
    (h : MnemonicItems tables mnemonic operands items) (hm : Mnemonic.Named name mnemonic)
    (hshorthand : ∀ number, mnemonic ≠ .operation name number) : ∀ item ∈ items, item.Fits := by
  obtain ⟨htake, hbare, hoperators⟩ := shorthand_operations
  cases hm with
  | operation hnumber => exact absurd rfl (hshorthand _)
  | println =>
    cases h with
    | println => simp [Item.fits_bare, hbare]
  | store =>
    cases h with
    | store hi => simp [Item.fits_operand, htake]
  | ret =>
    cases h with
    | ret hl => simp [hl.fits, Item.fits_bare, hbare]
  | load =>
    cases h with
    | load hl => simp [hl.fits]
  | binary hn =>
    cases h with
    | binary => simp [Item.fits_bare (hoperators _ (List.mem_append_left _ hn))]
  | unary hn =>
    cases h with
    | unary => simp [Item.fits_bare (hoperators _ (List.mem_append_right _ hn))]

/-- Whether a line that names an operation has a word after it just when the operation takes an
operand. -/
def operandFits (line : String) : Bool :=
  match instruction? line with
  | none => true
  | some (word, operands) =>
    match Opcode.number? (Text.capitals word) with
    | none => true
    | some number => !operands.isEmpty == decide (Opcode.haveOperand ≤ number)

/-- The items of a line fit when the line does. -/
theorem LineStandsFor.fits_iff {tables : OperandKind → SymbolTable} {line : String}
    {items : List Item} (h : LineStandsFor tables line items) :
    (∀ item ∈ items, item.Fits) ↔ operandFits line = true := by
  unfold LineStandsFor at h
  unfold operandFits
  cases hi : instruction? line with
  | none =>
    rw [hi] at h
    simp [h]
  | some w =>
    obtain ⟨word, operands⟩ := w
    rw [hi] at h
    obtain ⟨mnemonic, hm, hitems⟩ := h
    cases hnumber : Opcode.number? (Text.capitals word) with
    | none =>
      have hshorthand : ∀ number, mnemonic ≠ .operation (Text.capitals word) number := by
        rintro number rfl
        cases hm with
        | operation hsome => simp [hnumber] at hsome
      simpa [hnumber] using hitems.fits hm hshorthand
    | some number =>
      obtain rfl := hm.unique (.operation hnumber)
      cases hitems <;> simp [hnumber, Item.Fits]

theorem StandFor.fits_iff {before : Nat} {lines : List String} {a : Assembly} {p : Progress}
    {items : List Item} (h : StandFor before lines a p items) :
    (∀ item ∈ items, item.Fits) ↔ ∀ line ∈ lines, operandFits line = true := by
  induction h with
  | nil => simp
  | cons hline hitems hrest ih =>
    rw [List.forall_mem_append, List.forall_mem_cons, hitems.fits_iff, ih]

end Assembly

/-- **Reading code back.** Let the code of a listing be assembled after its directives, without a
fault.  Its lines then stand for some list of items, and the code is read back as exactly that list
just when every line that names an operation has a second word exactly if the operation takes an
operand. -/
theorem Session.decode_eq_iff_operandFits (listing : Listing)
    (hasm : (Session.start listing).declare.session.assemble.fault = none) :
    let s := (Session.start listing).declare.session
    let StandsFor := Assembly.StandFor listing.linesBeforeCode listing.code s.assembly
      Progress.initial
    (∃ items, StandsFor items) ∧
      ∀ items, StandsFor items →
        (Disassembly.decode s.assemble.session.assembly.code = some (items.map Item.read) ↔
          ∀ line ∈ listing.code, Assembly.operandFits line = true) := by
  intro s StandsFor
  obtain ⟨b, p, hrun⟩ := s.assemble_ok_iff.mp hasm
  refine ⟨Assembly.exists_standFor hrun, fun items hitems => ?_⟩
  have hstart : s.assembly.code = [] :=
    Assembly.declareLines_code listing.directives Assembly.initial
  have hrunCode : b.code = Item.allNumbers items := by
    have h := hitems.code_eq
    rw [hstart, List.nil_append] at h
    rw [← h]
    exact congrArg (fun r => r.1.code) hrun.symm
  have hcode : s.assemble.session.assembly.code = b.code := by
    show (s.assembly.assemble s.listing.linesBeforeCode s.listing.code).1.code = b.code
    rw [Assembly.assemble_of_ok hrun]
  rw [hcode, hrunCode, Item.decode_allNumbers_iff, hitems.fits_iff]

/-- Two listings of one length.  In the first every operation fits, and a number beyond a byte is
read back whole; in the second an operation lacks its operand, and takes the code after it for one.
-/
theorem Session.decode_eq_iff_operandFits_spoilt :
    let fitting : Listing :=
      { name := "fitting", lines := ["#defvar x, y", "load 7", "jump_forward 300", "return y"] }
    let spoilt : Listing :=
      { name := "spoilt", lines := ["#defvar x, y", "load 7", "jump_forward", "return y"] }
    let code (listing : Listing) :=
      (Session.start listing).declare.session.assemble.session.assembly.code
    let StandsFor (listing : Listing) := Assembly.StandFor listing.linesBeforeCode listing.code
      (Session.start listing).declare.session.assembly Progress.initial
    (∃ items, StandsFor fitting items ∧
        Disassembly.decode (code fitting) = some (items.map Item.read)) ∧
      ∃ items, StandsFor spoilt items ∧
        Disassembly.decode (code spoilt) ≠ some (items.map Item.read) := by
  intro fitting spoilt code StandsFor
  have hfitting : (Session.start fitting).declare.session.assemble.fault = none :=
    Option.isNone_iff_eq_none.mp (by decide +kernel)
  have hspoilt : (Session.start spoilt).declare.session.assemble.fault = none :=
    Option.isNone_iff_eq_none.mp (by decide +kernel)
  obtain ⟨⟨items, hitems⟩, hread⟩ := Session.decode_eq_iff_operandFits fitting hfitting
  obtain ⟨⟨items', hitems'⟩, hread'⟩ := Session.decode_eq_iff_operandFits spoilt hspoilt
  refine ⟨⟨items, hitems, (hread items hitems).mpr (by decide +kernel)⟩, items', hitems', ?_⟩
  exact fun h => absurd ((hread' items' hitems').mp h) (by decide +kernel)

end BytecodeAssembler
