import BytecodeAssembler.Proofs.Disassembly
import BytecodeAssembler.Proofs.LineTable

/-!
# When code becomes a code object

A code object holds the code and the line table as texts, one code point for each number.  So it can
be built just when every number is that of a code point, and the first number that is not decides
about the fault (`CodeObject.build_eq`).

Which numbers can be out of range is told by the listing.  Operations are numbered below 256, and
the second place of an operand is zero; so in the code it is the operands alone.  In the line table
it is the steps of lines alone: every instruction takes four numbers at most, and the step from one
instruction to the next is one more than the gap between them (`Spaced`).  Whatever the bound, the
numbers keep it just when the operands and the gaps do, which is used for all code points and for
the 256 of them that are bytes.
-/

namespace BytecodeAssembler

open Assembly

/-- The numbers of the code points of a text. -/
def Text.numbers (t : Text) : List Int :=
  t.map fun p => (p.val : Int)

theorem Text.numbers_append (t u : Text) : Text.numbers (t ++ u) = t.numbers ++ u.numbers :=
  List.map_append

theorem Text.numbers_within (t : Text) :
    (∀ n ∈ t.numbers, 0 ≤ n ∧ n ≤ 255) ↔ ∀ p ∈ t, p.val < 256 := by
  simp only [Text.numbers, List.forall_mem_map]
  constructor
  · intro h p hp
    have hle := (h p hp).2
    omega
  · intro h p hp
    have hlt := h p hp
    omega

/-! ## Texts of numbers -/

namespace CodeObject

/-- Whether a number is that of a code point. -/
def isCodePoint (n : Int) : Bool :=
  decide (0 ≤ n ∧ n ≤ 0x10FFFF)

/-- The fault of a number that is not that of a code point. -/
def rangeFault (n : Int) : Fault :=
  if -0x80000000 ≤ n ∧ n ≤ 0x7FFFFFFF then .codePointRange else .machineRange

/-- The first of some numbers that is not that of a code point. -/
def firstUnfit? (numbers : List Int) : Option Int :=
  numbers.find? fun n => !isCodePoint n

theorem firstUnfit?_eq_none_iff {numbers : List Int} :
    firstUnfit? numbers = none ↔ ∀ n ∈ numbers, 0 ≤ n ∧ n ≤ 0x10FFFF := by
  simp [firstUnfit?, isCodePoint]

theorem firstUnfit?_eq_some {numbers : List Int} {n : Int} (h : firstUnfit? numbers = some n) :
    ∃ pre post, numbers = pre ++ n :: post ∧ (∀ m ∈ pre, 0 ≤ m ∧ m ≤ 0x10FFFF) ∧
      ¬ (0 ≤ n ∧ n ≤ 0x10FFFF) := by
  obtain ⟨hn, pre, post, hsplit, hpre⟩ := List.find?_eq_some_iff_append.mp h
  refine ⟨pre, post, hsplit, fun m hm => ?_, ?_⟩
  · simpa [isCodePoint] using hpre m hm
  · have hout : n < 0 ∨ 0x10FFFF < n := by simpa [isCodePoint] using hn
    omega

theorem kind_rangeFault (n : Int) :
    (rangeFault n).kind = if -2 ^ 31 ≤ n ∧ n ≤ 2 ^ 31 - 1 then .value else .overflow := by
  unfold rangeFault
  by_cases h : -0x80000000 ≤ n ∧ n ≤ 0x7FFFFFFF
  · rw [if_pos h, if_pos (by omega)]
    rfl
  · rw [if_neg h, if_neg (by omega)]
    rfl

theorem codePoint_of_isCodePoint {n : Int} (h : isCodePoint n = true) :
    ∃ p : CodePoint, codePoint n = .ok p ∧ (p.val : Int) = n := by
  obtain ⟨hlow, hhigh⟩ := of_decide_eq_true h
  have hlt : n.toNat < 0x110000 := by omega
  refine ⟨⟨n.toNat, hlt⟩, ?_, Int.toNat_of_nonneg hlow⟩
  unfold codePoint
  rw [if_neg (by simp; omega), if_neg (by omega), CodePoint.ofNat?, dif_pos hlt]

theorem codePoint_of_not_isCodePoint {n : Int} (h : isCodePoint n = false) :
    codePoint n = .error (rangeFault n) := by
  have hout : ¬ (0 ≤ n ∧ n ≤ 0x10FFFF) := of_decide_eq_false h
  unfold codePoint rangeFault
  by_cases hmachine : -0x80000000 ≤ n ∧ n ≤ 0x7FFFFFFF
  · rw [if_neg (by simp; omega), if_pos hmachine]
    by_cases hneg : n < 0
    · rw [if_pos hneg]
    · rw [if_neg hneg, CodePoint.ofNat?, dif_neg (by omega)]
  · rw [if_pos (by simp; omega), if_neg hmachine]

/-- **The text of some numbers.**  There is one unless a number is unfit, and then the first such
number gives the fault. -/
theorem textOf_ints (numbers : List Int) :
    match firstUnfit? numbers with
    | none => ∃ t, textOf (numbers.map .int) = .ok t ∧ t.numbers = numbers
    | some n => textOf (numbers.map .int) = .error (rangeFault n) := by
  induction numbers with
  | nil => exact ⟨[], rfl, rfl⟩
  | cons n rest ih =>
    cases hn : isCodePoint n with
    | false =>
      have hfirst : firstUnfit? (n :: rest) = some n := by simp [firstUnfit?, hn]
      rw [hfirst]
      simp [textOf, codePointOf, codePoint_of_not_isCodePoint hn, bind, Except.bind]
    | true =>
      have hfirst : firstUnfit? (n :: rest) = firstUnfit? rest := by simp [firstUnfit?, hn]
      obtain ⟨p, hp, hval⟩ := codePoint_of_isCodePoint hn
      rw [hfirst]
      cases hrest : firstUnfit? rest with
      | none =>
        rw [hrest] at ih
        obtain ⟨t, ht, hnumbers⟩ := ih
        refine ⟨p :: t, ?_, ?_⟩
        · simp [textOf, codePointOf, hp, ht, bind, Except.bind, pure, Except.pure]
        · simp [Text.numbers, hval, ← hnumbers]
      | some m =>
        rw [hrest] at ih
        simp only at ih
        simp [textOf, codePointOf, hp, ih, bind, Except.bind]

end CodeObject

/-! ## Building -/

/-- The constants and the names of a state are collections. -/
structure Assembly.Collected (a : Assembly) (order : SetOrder) : Prop where
  constants : ∃ vs, a.fields.constants.items order = .ok vs
  globals : ∃ vs, a.fields.globalNames.items order = .ok vs
  locals : ∃ vs, a.fields.localNames.items order = .ok vs

namespace CodeObject

/-- **Building a code object** from collections and a line table of numbers.  It depends on the
first unfit number, those of the code going before those of the line table. -/
theorem build_eq {a : Assembly} {order : SetOrder} {table : List Int}
    (hcollected : a.Collected order) (htable : a.fields.lineTable = .list (table.map .int))
    (fileName : String) :
    match firstUnfit? (a.code ++ table) with
    | none => ∃ object, build fileName a order = .ok object ∧ object.code.numbers = a.code ∧
        object.lineTable.numbers = table
    | some n => build fileName a order = .error (rangeFault n) := by
  obtain ⟨constants, hconstants⟩ := hcollected.constants
  obtain ⟨globals, hglobals⟩ := hcollected.globals
  obtain ⟨locals, hlocals⟩ := hcollected.locals
  have hitems : a.fields.lineTable.items order = .ok (table.map .int) := by
    rw [htable]
    rfl
  have hfirst : firstUnfit? (a.code ++ table) = (firstUnfit? a.code).or (firstUnfit? table) :=
    List.find?_append
  have hcode := textOf_ints a.code
  have hlines := textOf_ints table
  rw [hfirst]
  cases hc : firstUnfit? a.code with
  | some n =>
    rw [hc] at hcode
    simp only at hcode
    simp [build, hlocals, hcode, bind, Except.bind]
  | none =>
    rw [hc] at hcode
    obtain ⟨code, hcode, hnumbers⟩ := hcode
    cases ht : firstUnfit? table with
    | some n =>
      rw [ht] at hlines
      simp only at hlines
      simp [build, hlocals, hcode, hconstants, hglobals, hitems, hlines, bind, Except.bind]
    | none =>
      rw [ht] at hlines
      obtain ⟨lines, hlines, hnumbers'⟩ := hlines
      cases hbuild : build fileName a order with
      | error f =>
        simp [build, hlocals, hcode, hconstants, hglobals, hitems, hlines, bind, Except.bind, pure,
          Except.pure] at hbuild
      | ok object =>
        simp only [build, hlocals, hcode, hconstants, hglobals, hitems, hlines, bind, Except.bind,
          pure, Except.pure, Except.ok.injEq] at hbuild
        subst hbuild
        exact ⟨_, rfl, hnumbers, hnumbers'⟩

end CodeObject

/-! ## Numbers of the code -/

namespace Item

/-- The operands of some items. -/
def operands (items : List Item) : List Int :=
  items.filterMap Item.operand

/-- The numbers of items keep a bound that leaves room for all operations just when the operands
keep it. -/
theorem allNumbers_within {items : List Item} {bound : Int} (hbound : 255 ≤ bound)
    (hops : ∀ item ∈ items, item.opcode < 256) :
    (∀ n ∈ allNumbers items, 0 ≤ n ∧ n ≤ bound) ↔ ∀ n ∈ operands items, 0 ≤ n ∧ n ≤ bound := by
  induction items with
  | nil => simp [allNumbers, operands]
  | cons item rest ih =>
    have hop : (0 : Int) ≤ item.opcode ∧ (item.opcode : Int) ≤ bound := by
      have h := hops item List.mem_cons_self
      omega
    have hrest := ih fun i hi => hops i (List.mem_cons_of_mem _ hi)
    rw [allNumbers_cons, List.forall_mem_append, hrest]
    obtain ⟨opcode, operand⟩ := item
    cases operand with
    | none => simpa [numbers, operands] using fun _ => hop
    | some n =>
      have hzero : (0 : Int) ≤ bound := by omega
      simp only [numbers, operands, List.filterMap_cons, List.forall_mem_cons, List.not_mem_nil]
      simp [hop, hzero]

end Item

namespace Assembly

/-- All operations are numbered below 256. -/
theorem operations_lt :
    (∀ e ∈ Opcode.table, e.2 < 256) ∧
    (∀ number ∈ [Opcode.loadConst, Opcode.loadFast, Opcode.loadGlobal, Opcode.storeFast,
      Opcode.printItem, Opcode.printNewline, Opcode.returnValue], number < 256) ∧
    ∀ e ∈ Mnemonic.binaryOperators ++ Mnemonic.unaryOperators, e.2 < 256 := by
  decide +kernel

theorem Loads.opcode_lt {tables : OperandKind → SymbolTable} {word : String} {item : Item}
    (h : Loads tables word item) : item.opcode < 256 := by
  cases h <;> exact operations_lt.2.1 _ (by simp)

theorem MnemonicItems.opcode_lt {tables : OperandKind → SymbolTable} {name : String}
    {mnemonic : Mnemonic} {operands : List String} {items : List Item}
    (h : MnemonicItems tables mnemonic operands items) (hm : Mnemonic.Named name mnemonic) :
    ∀ item ∈ items, item.opcode < 256 := by
  obtain ⟨htable, hshorthand, hoperators⟩ := operations_lt
  cases hm with
  | operation hnumber =>
    have hlt := htable _ (Mnemonic.mem_of_lookup hnumber)
    cases h <;> simpa using hlt
  | println =>
    cases h with
    | println => simp [hshorthand]
  | store =>
    cases h with
    | store hi => simp [hshorthand]
  | ret =>
    cases h with
    | ret hl => simp [hl.opcode_lt, hshorthand]
  | load =>
    cases h with
    | load hl => simpa using hl.opcode_lt
  | binary hmem =>
    cases h with
    | binary => simpa using hoperators _ (List.mem_append_left _ hmem)
  | unary hmem =>
    cases h with
    | unary => simpa using hoperators _ (List.mem_append_right _ hmem)

theorem StandFor.opcode_lt {before : Nat} {lines : List String} {a : Assembly} {p : Progress}
    {items : List Item} (h : StandFor before lines a p items) :
    ∀ item ∈ items, item.opcode < 256 := by
  induction h with
  | nil => simp
  | @cons line rest a a' p p' items more hline hitems hrest ih =>
    rw [List.forall_mem_append]
    refine ⟨?_, ih⟩
    unfold LineStandsFor at hitems
    cases hi : instruction? line with
    | none =>
      rw [hi] at hitems
      simp [hitems]
    | some w =>
      rw [hi] at hitems
      obtain ⟨mnemonic, hm, hitems⟩ := hitems
      exact hitems.opcode_lt hm

end Assembly

/-! ## Numbers of the line table -/

theorem Mnemonic.width_le (mnemonic : Mnemonic) (operands : List String) :
    mnemonic.width operands ≤ 4 := by
  cases mnemonic with
  | operation name number => cases operands <;> simp [width]
  | _ => simp [width]

/-- **The gaps in some lines of code**: how many lines stand between an instruction and the next. -/
def gaps (lines : List String) : List Nat :=
  (lines.splitOnP holdsInstruction).tail.dropLast.map List.length

theorem gaps_of_none {lines : List String} (h : ∀ line ∈ lines, holdsInstruction line = false) :
    gaps lines = [] := by
  rw [gaps, List.splitOnP_eq_singleton h]
  rfl

/-- The lines after the last instruction make no gap. -/
theorem gaps_of_last {line : String} {tail : List String} (hline : holdsInstruction line = true)
    (htail : ∀ l ∈ tail, holdsInstruction l = false) (lines : List String) :
    gaps (lines ++ line :: tail) = (lines.splitOnP holdsInstruction).tail.map List.length := by
  have hne := List.splitOnP_ne_nil holdsInstruction lines
  rw [gaps, List.splitOnP_append_cons lines tail hline, List.splitOnP_eq_singleton htail,
    List.tail_append_of_ne_nil hne, List.dropLast_concat]

/-- The steps of lines in some pairs, once the lines `seen` were assembled: one more than the gap
for each instruction that another follows, and one for the last. -/
inductive Spaced : List String → Progress → List (Int × Int) → Prop
  | unstarted {seen : List String} {p : Progress}
      (hnone : ∀ line ∈ seen, holdsInstruction line = false) : Spaced seen p []
  | started {lines tail : List String} {line : String} {p : Progress} {rest : List (Int × Int)}
      {width : Int} (hline : holdsInstruction line = true)
      (htail : ∀ l ∈ tail, holdsInstruction l = false) (hgap : p.gap = tail.length)
      (hsteps : rest.map Prod.snd
        = (lines.splitOnP holdsInstruction).tail.map fun between => (between.length : Int) + 1) :
      Spaced (lines ++ line :: tail) p (rest ++ [(width, 1)])

theorem Spaced.gap {seen : List String} {p : Progress} {pairs : List (Int × Int)}
    (h : Spaced seen p pairs) {line : String} (hi : instruction? line = none) :
    Spaced (seen ++ [line]) { p with gap := p.gap + 1 } pairs := by
  have hline : holdsInstruction line = false := by simp [holdsInstruction, hi]
  cases h with
  | unstarted hnone =>
    apply Spaced.unstarted
    simpa [or_imp, forall_and, hline] using hnone
  | @started lines tail last _ rest width hlast htail hgap hsteps =>
    rw [List.append_assoc, List.cons_append]
    refine Spaced.started hlast ?_ (by simp [hgap]) hsteps
    simpa [or_imp, forall_and, hline] using htail

/-- An instruction puts the gap before it into the step of the last one. -/
theorem Spaced.emit {seen : List String} {p p' : Progress} {pairs : List (Int × Int)}
    (h : Spaced seen p pairs) {line : String} (hline : holdsInstruction line = true)
    (hp : p'.gap = 0) (width : Int) :
    Spaced (seen ++ [line]) p' (LineTable.widen p.gap pairs ++ [(width, 1)]) := by
  refine Spaced.started hline (by simp) hp ?_
  cases h with
  | unstarted hnone => simp [LineTable.widen, List.splitOnP_eq_singleton hnone]
  | @started lines tail last _ rest width' hlast htail hgap hsteps =>
    have hne := List.splitOnP_ne_nil holdsInstruction lines
    rw [LineTable.widen_concat, List.splitOnP_append_cons lines tail hlast,
      List.splitOnP_eq_singleton htail, List.tail_append_of_ne_nil hne, List.map_append, hsteps,
      hgap, List.map_append]
    simp [Int.add_comm]

/-- Steps of lines keep a bound just when the gaps keep one less. -/
theorem Spaced.steps_within {seen : List String} {p : Progress} {pairs : List (Int × Int)}
    (h : Spaced seen p pairs) {bound : Int} {widest : Nat} (hbound : bound = widest + 1) :
    (∀ n ∈ pairs.map Prod.snd, 0 ≤ n ∧ n ≤ bound) ↔ ∀ g ∈ gaps seen, g ≤ widest := by
  cases h with
  | unstarted hnone => simp [gaps_of_none hnone]
  | started hline htail hgap hsteps =>
    rw [gaps_of_last hline htail, List.map_append, hsteps, List.forall_mem_append]
    simp only [List.forall_mem_map, List.map_cons, List.map_nil, List.forall_mem_singleton]
    constructor
    · rintro ⟨hall, -⟩ between hmem
      have hle := (hall between hmem).2
      omega
    · intro hall
      refine ⟨fun between hmem => ?_, by omega, by omega⟩
      have hle := hall between hmem
      omega

namespace LineTable

theorem map_fst_widen (gap : Nat) (pairs : List (Int × Int)) :
    (widen gap pairs).map Prod.fst = pairs.map Prod.fst := by
  rcases List.eq_nil_or_concat pairs with rfl | ⟨rest, q, rfl⟩
  · rfl
  · rw [List.concat_eq_append, widen_concat]
    simp

/-- Where the widths keep a bound, the table keeps it if the steps do. -/
theorem flat_within {pairs : List (Int × Int)} {bound : Int}
    (hwidths : ∀ n ∈ pairs.map Prod.fst, 0 ≤ n ∧ n ≤ bound) :
    (∀ n ∈ flat pairs, 0 ≤ n ∧ n ≤ bound) ↔ ∀ n ∈ pairs.map Prod.snd, 0 ≤ n ∧ n ≤ bound := by
  simp only [List.forall_mem_map] at hwidths
  simp only [flat, List.forall_mem_flatMap, List.forall_mem_cons, List.forall_mem_map]
  constructor
  · intro h q hq
    exact (h q hq).2.1
  · intro h q hq
    exact ⟨hwidths q hq, h q hq, by simp⟩

end LineTable

/-! ## Runs -/

namespace Assembly

/-- What every line keeps up with the lines so far, a run without a fault keeps up with all of its
lines. -/
theorem assembleLines_seen {P : List String → Assembly → Progress → Prop} {before : Nat}
    {seen lines : List String} {a a' : Assembly} {p p' : Progress}
    (hstep : ∀ line seen a p a' p', P seen a p → LineStep before line a p (a', p', none) →
      P (seen ++ [line]) a' p')
    (h : assembleLines before lines a p = (a', p', none)) (hstart : P seen a p) :
    P (seen ++ lines) a' p' := by
  induction lines generalizing seen a p with
  | nil =>
    obtain ⟨rfl, hp⟩ := Prod.mk.inj h
    obtain ⟨rfl, -⟩ := Prod.mk.inj hp
    simpa using hstart
  | cons line rest ih =>
    have hline := assembleLine_step before line a p
    rcases hr : a.assembleLine before line p with ⟨b, q, g⟩
    rw [hr] at hline
    simp only [assembleLines, hr] at h
    cases g with
    | some g => simp at h
    | none => simpa using ih h (hstep line seen a p b q hstart hline)

/-- **The line table of a run**: its steps are those of the gaps, and its widths are small. -/
theorem exists_spaced {before : Nat} {lines : List String} {a b : Assembly} {q : Progress}
    (hledger : Ledger before [] a Progress.initial [])
    (h : assembleLines before lines a Progress.initial = (b, q, none)) :
    ∃ pairs, b.fields.lineTable = .list ((LineTable.flat pairs).map .int) ∧ Spaced lines q pairs ∧
      ∀ n ∈ pairs.map Prod.fst, 0 ≤ n ∧ n ≤ 4 := by
  have hstep : ∀ line seen c p c' p',
      (∃ pairs, Ledger before seen c p pairs ∧ Spaced seen p pairs ∧
        ∀ n ∈ pairs.map Prod.fst, 0 ≤ n ∧ n ≤ 4) →
      LineStep before line c p (c', p', none) →
      ∃ pairs, Ledger before (seen ++ [line]) c' p' pairs ∧ Spaced (seen ++ [line]) p' pairs ∧
        ∀ n ∈ pairs.map Prod.fst, 0 ≤ n ∧ n ≤ 4 := by
    rintro line seen c p c' p' ⟨pairs, hpairs, hspaced, hwidths⟩ hs
    cases hs with
    | gap hi => exact ⟨pairs, hpairs.gap hi, hspaced.gap hi, hwidths⟩
    | @emits word operands mnemonic items a' entries hi hm hr hl =>
      have hline : holdsInstruction line = true := by simp [holdsInstruction, hi]
      refine ⟨_, hpairs.emit hi hr hl, hspaced.emit hline (by simp [Progress.placed]) _, ?_⟩
      have hwidth := mnemonic.width_le operands
      rw [List.map_append, LineTable.map_fst_widen, List.forall_mem_append]
      refine ⟨hwidths, ?_⟩
      simp only [List.map_cons, List.map_nil, List.forall_mem_singleton]
      omega
  obtain ⟨pairs, hpairs, hspaced, hwidths⟩ :=
    assembleLines_seen hstep h ⟨[], hledger, .unstarted (by simp), by simp⟩
  exact ⟨pairs, hpairs.table, hspaced, hwidths⟩

/-- **The numbers of a run keep a bound**, which leaves room for all operations, just when the
operands keep it and the gaps keep one less. -/
theorem StandFor.numbers_within {before : Nat} {lines : List String} {a : Assembly}
    {p q : Progress} {items : List Item} {pairs : List (Int × Int)}
    (hitems : StandFor before lines a p items) (hspaced : Spaced lines q pairs)
    (hwidths : ∀ n ∈ pairs.map Prod.fst, 0 ≤ n ∧ n ≤ 4) {bound : Int} {widest : Nat}
    (hwidest : bound = widest + 1) (hbound : 255 ≤ bound) :
    (∀ n ∈ Item.allNumbers items ++ LineTable.flat pairs, 0 ≤ n ∧ n ≤ bound) ↔
      (∀ n ∈ Item.operands items, 0 ≤ n ∧ n ≤ bound) ∧ ∀ g ∈ gaps lines, g ≤ widest := by
  have hnarrow : ∀ n ∈ pairs.map Prod.fst, 0 ≤ n ∧ n ≤ bound := by
    intro n hn
    have hwidth := hwidths n hn
    omega
  rw [List.forall_mem_append, Item.allNumbers_within hbound hitems.opcode_lt,
    LineTable.flat_within hnarrow, hspaced.steps_within hwidest]

/-- The names that directives leave are a collection, where they are not set as a field. -/
theorem items_of_declareLines {lines : List String} {kind : OperandKind}
    (hlines : ∀ line ∈ lines, Directive.KeepsPools line) (hkind : kind = .global ∨ kind = .local) :
    ∃ vs, ∀ order, ((declareLines lines Assembly.initial).1.pool kind).items order = .ok vs := by
  have hk : kind ≠ .constant := by rintro rfl; simp at hkind
  obtain ⟨names?, hnames⟩ := declareLines_names hk hlines
  have hleaves := hnames Assembly.initial [.none] rfl
  cases names? with
  | some vs => exact ⟨vs, fun order => by rw [hleaves.1]; rfl⟩
  | none =>
    refine ⟨[], fun order => ?_⟩
    rw [hleaves.1]
    rcases hkind with rfl | rfl <;> rfl

end Assembly

namespace Session

/-- The constants and names that assembling leaves are collections, where they are not set as
fields. -/
theorem collected_assemble {listing : Listing} (hconsts : listing.defines "consts" = false)
    (hnames : listing.defines "names" = false) (hvarnames : listing.defines "varnames" = false)
    (hasm : (start listing).declare.session.assemble.fault = none) (order : SetOrder) :
    (start listing).declare.session.assemble.session.assembly.Collected order := by
  have hlines : ∀ line ∈ listing.directives, Directive.KeepsPools line := fun line hline =>
    ⟨Listing.definesOn_of_defines hconsts hline, Listing.definesOn_of_defines hnames hline,
      Listing.definesOn_of_defines hvarnames hline⟩
  obtain ⟨b, q, hrun⟩ := (start listing).declare.session.assemble_ok_iff.mp hasm
  have hdeclared : ∃ more, (start listing).declare.session.assembly.pool .constant
      = .list ([.none] ++ more) :=
    declareLines_constants (fun line hline => (hlines line hline).constants) rfl
  obtain ⟨more, hlist⟩ := hdeclared
  obtain ⟨⟨first, added, -, hitems⟩, hkept⟩ := grows_assembleLines hlist hrun
  obtain ⟨globals, hglobals⟩ := items_of_declareLines hlines (.inl rfl)
  obtain ⟨locals, hlocals⟩ := items_of_declareLines hlines (.inr rfl)
  have hdone : (start listing).declare.session.assemble.session.assembly
      = { b with fields := { b.fields with stackSize := _ } } := assemble_of_ok hrun
  rw [hdone]
  refine ⟨⟨first ++ added, ?_⟩, ⟨globals, ?_⟩, ⟨locals, ?_⟩⟩
  · show (b.pool .constant).items order = _
    rw [hitems]
    rfl
  · show (b.pool .global).items order = _
    rw [(hkept .global (by simp)).1]
    exact hglobals order
  · show (b.pool .local).items order = _
    rw [(hkept .local (by simp)).1]
    exact hlocals order

/-- **The numbers that assembling leaves**, where the line table is left to it: those of the items
that the lines stand for, and pairs of a width and a step. -/
theorem assemble_numbers (listing : Listing) (hlnotab : listing.defines "lnotab" = false)
    (hasm : (start listing).declare.session.assemble.fault = none) :
    let done := (start listing).declare.session.assemble.session.assembly
    ∃ items pairs q,
      StandFor listing.linesBeforeCode listing.code (start listing).declare.session.assembly
        Progress.initial items ∧
      done.code = Item.allNumbers items ∧
      done.fields.lineTable = .list ((LineTable.flat pairs).map .int) ∧
      Spaced listing.code q pairs ∧ ∀ n ∈ pairs.map Prod.fst, 0 ≤ n ∧ n ≤ 4 := by
  intro done
  obtain ⟨b, q, hrun⟩ := (start listing).declare.session.assemble_ok_iff.mp hasm
  have hdone : done = { b with fields := { b.fields with stackSize := _ } } := assemble_of_ok hrun
  have htable : (start listing).declare.session.assembly.fields.lineTable = .list [] :=
    declareLines_field .lineTable Assembly.initial (by simp)
      fun line hline => Listing.definesOn_of_defines hlnotab hline
  have hempty : (start listing).declare.session.assembly.code = [] :=
    declareLines_code listing.directives Assembly.initial
  obtain ⟨items, hitems⟩ := exists_standFor hrun
  obtain ⟨pairs, hpairs, hspaced, hwidths⟩ := exists_spaced (ledger_start htable hempty) hrun
  refine ⟨items, pairs, q, hitems, ?_, ?_, hspaced, hwidths⟩
  · have hall := hitems.code_eq
    rw [hempty, List.nil_append] at hall
    rw [hdone, ← hall]
    exact congrArg (fun r => r.1.code) hrun.symm
  · rw [hdone]
    exact hpairs

/-- What building makes of a session. -/
theorem build_eq_of_collected {s : Session} {order : SetOrder} {table : List Int}
    (hcollected : s.assembly.Collected order)
    (htable : s.assembly.fields.lineTable = .list (table.map .int)) :
    match CodeObject.firstUnfit? (s.assembly.code ++ table) with
    | none => (s.build order).fault = none ∧
        ∃ object, (s.build order).session = { s with object := some object } ∧
          object.code.numbers = s.assembly.code ∧ object.lineTable.numbers = table
    | some n => (s.build order).fault = some (CodeObject.rangeFault n) ∧
        (s.build order).session = s := by
  have hbuild := CodeObject.build_eq hcollected htable s.listing.name
  unfold build
  cases hfirst : CodeObject.firstUnfit? (s.assembly.code ++ table) with
  | none =>
    rw [hfirst] at hbuild
    obtain ⟨object, hobject, hnumbers⟩ := hbuild
    rw [hobject]
    exact ⟨rfl, object, rfl, hnumbers⟩
  | some n =>
    rw [hfirst] at hbuild
    simp only at hbuild
    rw [hbuild]
    exact ⟨rfl, rfl⟩

/-- **When a code object can be built.**  Let a listing leave the constants, the names and the line
table to the assembler, and let its code be assembled without a fault.  The lines stand for some
items, whose numbers are the code, and the line table is a list of numbers.  In which order sets come
has no part in what follows.

* The code object is built just when all operands and all gaps give code points.
* Its code and its line table then are the numbers as they stand, and all of them are bytes just
  when all operands and gaps give bytes: an operand is never spread over its two places.
* Otherwise the session stays as it is, and the kind of the fault is told by the first number, of
  the code and then of the line table, that is not that of a code point. -/
theorem build_of_operands (listing : Listing) (hconsts : listing.defines "consts" = false)
    (hnames : listing.defines "names" = false) (hvarnames : listing.defines "varnames" = false)
    (hlnotab : listing.defines "lnotab" = false)
    (hasm : (start listing).declare.session.assemble.fault = none) (order : SetOrder) :
    let s := (start listing).declare.session.assemble.session
    ∃ (items : List Item) (table : List Int),
      StandFor listing.linesBeforeCode listing.code (start listing).declare.session.assembly
        Progress.initial items ∧
      s.assembly.code = Item.allNumbers items ∧
      s.assembly.fields.lineTable = .list (table.map .int) ∧
      ((s.build order).fault = none ↔
        (∀ n ∈ Item.operands items, 0 ≤ n ∧ n ≤ 0x10FFFF) ∧
          ∀ g ∈ gaps listing.code, g ≤ 0x10FFFE) ∧
      ((s.build order).fault = none → ∃ object,
        (s.build order).session = { s with object := some object } ∧
        object.code.numbers = s.assembly.code ∧ object.lineTable.numbers = table ∧
        ((∀ p ∈ object.code ++ object.lineTable, p.val < 256) ↔
          (∀ n ∈ Item.operands items, 0 ≤ n ∧ n ≤ 255) ∧ ∀ g ∈ gaps listing.code, g ≤ 254)) ∧
      ∀ f, (s.build order).fault = some f → (s.build order).session = s ∧
        ∃ pre n post, s.assembly.code ++ table = pre ++ n :: post ∧
          (∀ m ∈ pre, 0 ≤ m ∧ m ≤ 0x10FFFF) ∧ ¬ (0 ≤ n ∧ n ≤ 0x10FFFF) ∧
          f.kind = if -2 ^ 31 ≤ n ∧ n ≤ 2 ^ 31 - 1 then .value else .overflow := by
  intro s
  obtain ⟨items, pairs, q, hitems, hcode, hlines, hspaced, hwidths⟩ :=
    assemble_numbers listing hlnotab hasm
  have hcollected : s.assembly.Collected order :=
    collected_assemble hconsts hnames hvarnames hasm order
  change s.assembly.code = _ at hcode
  have hfit : CodeObject.firstUnfit? (s.assembly.code ++ LineTable.flat pairs) = none ↔
      (∀ n ∈ Item.operands items, 0 ≤ n ∧ n ≤ 0x10FFFF) ∧
        ∀ g ∈ gaps listing.code, g ≤ 0x10FFFE := by
    rw [CodeObject.firstUnfit?_eq_none_iff, hcode]
    exact hitems.numbers_within hspaced hwidths (by norm_num) (by norm_num)
  have hbuild := build_eq_of_collected hcollected hlines
  refine ⟨items, LineTable.flat pairs, hitems, hcode, hlines, ?_⟩
  cases hfirst : CodeObject.firstUnfit? (s.assembly.code ++ LineTable.flat pairs) with
  | none =>
    rw [hfirst] at hbuild
    obtain ⟨hok, object, hsession, hnumbers, hnumbers'⟩ := hbuild
    refine ⟨iff_of_true hok (hfit.mp hfirst),
      fun _ => ⟨object, hsession, hnumbers, hnumbers', ?_⟩, ?_⟩
    · rw [← Text.numbers_within, Text.numbers_append, hnumbers, hnumbers', hcode]
      exact hitems.numbers_within hspaced hwidths (by norm_num) (by norm_num)
    · intro f hf
      rw [hok] at hf
      cases hf
  | some n =>
    rw [hfirst] at hbuild
    obtain ⟨hfault, hsession⟩ := hbuild
    have hunfit := hfit.not.mp (by simp [hfirst])
    refine ⟨iff_of_false (by simp [hfault]) hunfit, fun hok => by simp [hfault] at hok, ?_⟩
    intro f hf
    obtain rfl : CodeObject.rangeFault n = f := Option.some.inj (hfault.symm.trans hf)
    obtain ⟨pre, post, hsplit, hpre, hn⟩ := CodeObject.firstUnfit?_eq_some hfirst
    exact ⟨hsession, pre, n, post, hsplit, hpre, hn, CodeObject.kind_rangeFault n⟩

/-- Two listings.  In the first an operand is beyond a byte, and stands in the built code as it is;
in the second two operands are no code points, and the first of them, beyond machine integers, gives
the kind of the fault. -/
theorem build_of_operands_unfit :
    let wide : Listing :=
      ⟨"wide", ["#defvar x", "load 1", "", "% skip", "jump_forward 300", "return x"]⟩
    let unfit : Listing :=
      ⟨"unfit", ["load 1", "jump_forward 4294967296", "jump_forward -1", "return 1"]⟩
    let assembled (listing : Listing) := (start listing).declare.session.assemble.session
    (∃ object, (assembled wide).build.session = { assembled wide with object := some object } ∧
        object.code.numbers = [100, 1, 0, 110, 300, 0, 124, 0, 0, 83]) ∧
      (assembled unfit).build.session = assembled unfit ∧
      ∃ f table pre n post, (assembled unfit).build.fault = some f ∧ f.kind = .overflow ∧
        (assembled unfit).assembly.code ++ table = pre ++ n :: post ∧
        (∀ m ∈ pre, 0 ≤ m ∧ m ≤ 0x10FFFF) ∧ ¬ (-2 ^ 31 ≤ n ∧ n ≤ 2 ^ 31 - 1) := by
  intro wide unfit assembled
  have hwide : (start wide).declare.session.assemble.fault = none :=
    Option.isNone_iff_eq_none.mp (by decide +kernel)
  have hunfit : (start unfit).declare.session.assemble.fault = none :=
    Option.isNone_iff_eq_none.mp (by decide +kernel)
  obtain ⟨items, lines, -, -, -, -, hbuilt, -⟩ := build_of_operands wide (by decide +kernel)
    (by decide +kernel) (by decide +kernel) (by decide +kernel) hwide .written
  obtain ⟨-, table, -, -, -, -, -, hfailed⟩ := build_of_operands unfit (by decide +kernel)
    (by decide +kernel) (by decide +kernel) (by decide +kernel) hunfit .written
  constructor
  · obtain ⟨object, hsession, hnumbers, -⟩ :=
      hbuilt (Option.isNone_iff_eq_none.mp (by decide +kernel))
    have hcode : (assembled wide).assembly.code = [100, 1, 0, 110, 300, 0, 124, 0, 0, 83] := by
      decide +kernel
    exact ⟨object, hsession, hnumbers.trans hcode⟩
  · have hkind : (assembled unfit).build.fault.map Fault.kind = some .overflow := by decide +kernel
    obtain ⟨f, hf, hoverflow⟩ := Option.map_eq_some_iff.mp hkind
    obtain ⟨hsession, pre, n, post, hsplit, hpre, -, hn⟩ := hfailed f hf
    refine ⟨hsession, f, table, pre, n, post, hf, hoverflow, hsplit, hpre, fun hmachine => ?_⟩
    rw [if_pos hmachine, hoverflow] at hn
    cases hn

end Session

end BytecodeAssembler
