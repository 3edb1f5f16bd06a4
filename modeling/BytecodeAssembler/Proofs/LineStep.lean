import BytecodeAssembler.Assembly.Code

/-!
# What one line of code does

A line of code is assembled in three moves: the lines before it are accounted for, its operand is
resolved, and its numbers are added.  The first move touches only the line table and the first line,
the second only the constants and their table, so the two commute (`resolve_withLines`).  The effect
of a whole line is then one of the five in `LineStep`, and everything that is proved about runs
starts from there.

What resolving can do to the state is said once as well, in `resolve_ok_cases`: nothing, or one
number goes to the end of the pool under its own spelling.

Two things are kept apart from the items that a line stands for, and are right all the same: its width
in the line table is the number of numbers that it emits (`resolve_width`), and the peak of the stack,
though it is only raised by a push, is never below the depth (`Progress.count_peak`).
-/

namespace BytecodeAssembler

/-- A table gives an index to a word. -/
def SymbolTable.Has (table : SymbolTable) (word : String) : Prop :=
  ∃ i, table.find? (Text.ofString word) = some i

theorem SymbolTable.find?_eq_none_iff {table : SymbolTable} {word : String} :
    table.find? (Text.ofString word) = none ↔ ¬ table.Has word := by
  simp [SymbolTable.Has, Option.eq_none_iff_forall_ne_some]

theorem SymbolTable.has_insert_iff {table : SymbolTable} {word t : String} {i : Nat} :
    (table.insert (Text.ofString word) i).Has t ↔ word = t ∨ table.Has t := by
  unfold SymbolTable.Has
  rw [SymbolTable.find?_insert]
  by_cases h : word = t
  · simp [h]
  · have hne : Text.ofString word ≠ Text.ofString t := fun heq => h (Text.ofString_injective heq)
    simp [h, hne]

/-! ## Counting the depth -/

/-- By how much a mnemonic changes the depth of the stack. -/
def Mnemonic.depthChange : Mnemonic → Int
  | .operation name _ => if isPush name then 1 else if isPop name then -1 else 0
  | .println | .store | .binary _ => -1
  | .load => 1
  | .ret | .unary _ => 0

namespace Progress

/-- Progress once the lines before an instruction are accounted for. -/
def placed (p : Progress) : Progress :=
  { p with started := true, gap := 0 }

/-- What is counted for a mnemonic, by the change of the depth. -/
theorem count_cases (p : Progress) (m : Mnemonic) :
    m.depthChange = 1 ∧ p.count m = p.push ∨ m.depthChange = -1 ∧ p.count m = p.pop ∨
      m.depthChange = 0 ∧ p.count m = p := by
  cases m with
  | operation name number =>
    cases hpush : Mnemonic.isPush name with
    | true => simp [count, Mnemonic.depthChange, hpush]
    | false => cases hpop : Mnemonic.isPop name <;> simp [count, Mnemonic.depthChange, hpush, hpop]
  | _ => simp [count, Mnemonic.depthChange]

theorem count_congr {m m' : Mnemonic} (h : m'.depthChange = m.depthChange) (p : Progress) :
    p.count m' = p.count m := by
  have hm' := count_cases p m'
  rw [h] at hm'
  rcases count_cases p m with ⟨hm, hc⟩ | ⟨hm, hc⟩ | ⟨hm, hc⟩ <;> simpa [hm, hc] using hm'

theorem count_depth (p : Progress) (m : Mnemonic) :
    (p.count m).depth = p.depth + m.depthChange := by
  rcases count_cases p m with ⟨hm, hc⟩ | ⟨hm, hc⟩ | ⟨hm, hc⟩
  · rw [hm, hc, push]
  · rw [hm, hc, pop, Int.sub_eq_add_neg]
  · rw [hm, hc, Int.add_zero]

/-- The peak is the highest depth so far after every instruction, though only a push looks at it. -/
theorem count_peak {p : Progress} (hp : p.depth ≤ p.peak) (m : Mnemonic) :
    (p.count m).peak = max p.peak (p.count m).depth := by
  rcases count_cases p m with ⟨-, hc⟩ | ⟨-, hc⟩ | ⟨-, hc⟩
  · rw [hc, push]
  · have hless : p.depth - 1 ≤ p.peak := by omega
    rw [hc, pop]
    exact (Int.max_eq_left hless).symm
  · rw [hc]
    exact (Int.max_eq_left hp).symm

/-- The depth stays below the peak. -/
theorem count_depth_le_peak {p : Progress} (hp : p.depth ≤ p.peak) (m : Mnemonic) :
    (p.count m).depth ≤ (p.count m).peak := by
  rw [count_peak hp m]
  exact Int.le_max_right _ _

@[simp] theorem count_started (p : Progress) (m : Mnemonic) :
    (p.count m).started = p.started := by
  rcases count_cases p m with ⟨-, hc⟩ | ⟨-, hc⟩ | ⟨-, hc⟩ <;> rw [hc] <;> rfl

@[simp] theorem count_gap (p : Progress) (m : Mnemonic) : (p.count m).gap = p.gap := by
  rcases count_cases p m with ⟨-, hc⟩ | ⟨-, hc⟩ | ⟨-, hc⟩ <;> rw [hc] <;> rfl

end Progress

namespace Assembly

/-- The same state with another line table and another first line. -/
def withLines (a : Assembly) (table first : Value) : Assembly :=
  { a with fields := { a.fields with lineTable := table, firstLine := first } }

/-- The line table once the gap before an instruction went into its last entry. -/
def placedTable (p : Progress) : Value → Value
  | .list entries => .list (if p.started then widenLast p.gap entries else entries)
  | table => table

/-- The first line once an instruction was met. -/
def placedFirst (before : Nat) (p : Progress) (first : Value) : Value :=
  if p.started then first else .int (before + p.gap + 1)

/-! ## Placing an instruction -/

theorem widenLast_zero (entries : List Value) : widenLast 0 entries = entries := by
  induction entries with
  | nil => rfl
  | cons v rest ih =>
    cases v <;> cases rest <;> simp_all [widenLast]

/-- Widening only reaches the entries that were added last. -/
theorem widenLast_append (gap : Nat) (entries : List Value) {added : List Value}
    (hne : added ≠ []) : widenLast gap (entries ++ added) = entries ++ widenLast gap added := by
  induction entries with
  | nil => rfl
  | cons v rest ih =>
    obtain ⟨w, ws, hw⟩ : ∃ w ws, rest ++ added = w :: ws :=
      List.exists_cons_of_ne_nil (by simp [hne])
    rw [List.cons_append, hw]
    rw [hw] at ih
    cases v <;> simp [widenLast, ih]

theorem placeInstruction_eq (before : Nat) (a : Assembly) (p : Progress) :
    a.placeInstruction before p
      = (a.withLines (placedTable p a.fields.lineTable) (placedFirst before p a.fields.firstLine),
          p.placed) := by
  obtain ⟨started, gap, depth, peak⟩ := p
  cases started with
  | false =>
    simp only [placeInstruction, placedFirst, Progress.placed, withLines]
    cases h : a.fields.lineTable <;> simp [placedTable, ← h]
  | true =>
    by_cases hgap : gap = 0
    · subst hgap
      cases h : a.fields.lineTable <;>
        simp [placeInstruction, placedFirst, placedTable, Progress.placed, withLines,
          widenLast_zero, ← h]
    · cases h : a.fields.lineTable <;>
        simp [placeInstruction, placedFirst, placedTable, Progress.placed, withLines, hgap, h]
      all_goals rw [← h]

/-! ## Resolving an operand -/

/-- A mapped result that succeeded comes from one that did. -/
theorem map_eq_ok {ε α β : Type} {f : α → β} {x : Except ε α} {b : β} (h : x.map f = .ok b) :
    ∃ r, x = .ok r ∧ f r = b := by
  cases x with
  | error e => simp [Except.map] at h
  | ok r => exact ⟨r, rfl, by simpa [Except.map] using h⟩

theorem lookup_eq_ok_iff {table : SymbolTable} {word : String} {i : Nat} :
    lookup table word = .ok i ↔ table.find? (Text.ofString word) = some i := by
  unfold lookup
  cases table.find? (Text.ofString word) <;> simp

/-- The same state with a number at the end of the pool, under a word as its spelling. -/
def pooled (a : Assembly) (word : String) (v : Value) (pool : List Value) : Assembly :=
  { a with
    fields := { a.fields with constants := .list (pool ++ [v]) }
    constantTable := a.constantTable.insert (Text.ofString word)
      ((Value.indexIn? v (pool ++ [v])).getD pool.length) }

/-- A word that denotes a whole or floating point number. -/
def DenotesNumber (word : String) (v : Value) : Prop :=
  Literal.read word = .ok v ∧ v.isNumber = true

theorem readNumber_eq_true_iff (word : String) (v : Value) :
    Literal.readNumber word = .ok (v, true) ↔ DenotesNumber word v := by
  unfold Literal.readNumber DenotesNumber
  cases h : Literal.read word with
  | ok w =>
    simp only [Except.ok.injEq, Prod.mk.injEq]
    constructor
    · rintro ⟨rfl, hw⟩
      exact ⟨rfl, hw⟩
    · rintro ⟨rfl, hw⟩
      exact ⟨rfl, hw⟩
  | error e => cases e <;> simp

/-- A change of the fields that has nothing to do with the pool. -/
structure LeavesPool (change : Fields → Fields) : Prop where
  constants : ∀ fields, (change fields).constants = fields.constants
  commutes : ∀ fields pool,
    change { fields with constants := pool } = { change fields with constants := pool }

/-- The same state with its fields changed. -/
def mapFields (a : Assembly) (change : Fields → Fields) : Assembly :=
  { a with fields := change a.fields }

section MapFields

variable {change : Fields → Fields} (hchange : LeavesPool change) (a : Assembly)

include hchange

theorem loadNumber_mapFields (word : String) (otherwise : Report) :
    (a.mapFields change).loadNumber word otherwise
      = (a.loadNumber word otherwise).map fun r => (r.1, r.2.mapFields change) := by
  have hpool : (a.mapFields change).fields.constants = a.fields.constants :=
    hchange.constants a.fields
  unfold loadNumber
  rw [hpool]
  rcases Literal.readNumber word with e | ⟨v, numeric⟩
  · rfl
  · cases numeric with
    | false => rfl
    | true =>
      dsimp only
      cases Pool.append a.fields.constants v with
      | error f => rfl
      | ok r =>
        simp only [mapFields, Except.map]
        rw [hchange.commutes a.fields r.1]

theorem loadForReturn_mapFields (word : String) :
    (a.mapFields change).loadForReturn word
      = (a.loadForReturn word).map fun r => (r.1, r.2.mapFields change) := by
  have hc : (a.mapFields change).constantTable = a.constantTable := rfl
  have hl : (a.mapFields change).localTable = a.localTable := rfl
  unfold loadForReturn
  rw [loadNumber_mapFields hchange, hc, hl]
  cases a.constantTable.find? (Text.ofString word) with
  | some i => rfl
  | none => cases a.localTable.find? (Text.ofString word) <;> rfl

theorem loadForLoad_mapFields (word : String) :
    (a.mapFields change).loadForLoad word
      = (a.loadForLoad word).map fun r => (r.1, r.2.mapFields change) := by
  have hc : (a.mapFields change).constantTable = a.constantTable := rfl
  have hl : (a.mapFields change).localTable = a.localTable := rfl
  have hg : (a.mapFields change).globalTable = a.globalTable := rfl
  unfold loadForLoad
  rw [loadNumber_mapFields hchange, hc, hl, hg]
  cases a.constantTable.find? (Text.ofString word) with
  | some i => rfl
  | none =>
    cases a.localTable.find? (Text.ofString word) with
    | some i => rfl
    | none => cases a.globalTable.find? (Text.ofString word) <;> rfl

end MapFields

theorem resolve_operation (a : Assembly) (name : String) (number : Nat) (word : String)
    (rest : List String) :
    a.resolve (.operation name number) (word :: rest)
      = (a.operand name word).map fun n => ([⟨number, some n⟩], a) := by
  simp only [resolve]
  cases a.operand name word <;> rfl

theorem resolve_store (a : Assembly) (word : String) (rest : List String) :
    a.resolve .store (word :: rest)
      = (lookup a.localTable word).map fun i => ([⟨Opcode.storeFast, some (i : Int)⟩], a) := by
  show (do let i ← lookup a.localTable word; _) = _
  cases lookup a.localTable word <;> rfl

theorem resolve_ret (a : Assembly) (word : String) (rest : List String) :
    a.resolve .ret (word :: rest)
      = (a.loadForReturn word).map fun r => ([r.1, ⟨Opcode.returnValue, none⟩], r.2) := by
  show (do let r ← a.loadForReturn word; _) = _
  cases a.loadForReturn word <;> rfl

theorem resolve_load (a : Assembly) (word : String) (rest : List String) :
    a.resolve .load (word :: rest) = (a.loadForLoad word).map fun r => ([r.1], r.2) := by
  show (do let r ← a.loadForLoad word; _) = _
  cases a.loadForLoad word <;> rfl

/-- Of the fields, resolving reads and changes the pool only. -/
theorem resolve_mapFields (change : Fields → Fields) (hchange : LeavesPool change) (a : Assembly)
    (mnemonic : Mnemonic) (operands : List String) :
    (a.mapFields change).resolve mnemonic operands
      = (a.resolve mnemonic operands).map fun r => (r.1, r.2.mapFields change) := by
  cases operands with
  | nil => cases mnemonic <;> rfl
  | cons word rest =>
    cases mnemonic with
    | operation name number =>
      have ho : (a.mapFields change).operand name word = a.operand name word := rfl
      rw [resolve_operation, resolve_operation, ho]
      cases a.operand name word <;> rfl
    | store =>
      have hl : (a.mapFields change).localTable = a.localTable := rfl
      rw [resolve_store, resolve_store, hl]
      cases lookup a.localTable word <;> rfl
    | ret =>
      rw [resolve_ret, resolve_ret, loadForReturn_mapFields hchange]
      cases a.loadForReturn word <;> rfl
    | load =>
      rw [resolve_load, resolve_load, loadForLoad_mapFields hchange]
      cases a.loadForLoad word <;> rfl
    | println => rfl
    | binary number => rfl
    | unary number => rfl

/-- Resolving neither reads nor changes the line table and the first line. -/
theorem resolve_withLines (a : Assembly) (table first : Value) (mnemonic : Mnemonic)
    (operands : List String) :
    (a.withLines table first).resolve mnemonic operands
      = (a.resolve mnemonic operands).map fun r => (r.1, r.2.withLines table first) :=
  resolve_mapFields (fun fields => { fields with lineTable := table, firstLine := first })
    ⟨fun _ => rfl, fun _ _ => rfl⟩ a mnemonic operands

/-- The only effect of loading a number: it goes to the end of the pool, under its spelling. -/
theorem loadNumber_ok_iff {a a' : Assembly} {word : String} {otherwise : Report} {item : Item} :
    a.loadNumber word otherwise = .ok (item, a') ↔
      ∃ v pool, DenotesNumber word v ∧ a.fields.constants = .list pool ∧ a' = a.pooled word v pool ∧
        item =
          ⟨Opcode.loadConst, some ((Value.indexIn? v (pool ++ [v])).getD pool.length : Nat)⟩ := by
  simp only [← readNumber_eq_true_iff]
  unfold loadNumber
  rcases Literal.readNumber word with e | ⟨v, numeric⟩
  · simp
  · cases numeric with
    | false => simp
    | true =>
      cases hpool : a.fields.constants <;> simp [Pool.append, pooled, eq_comm, and_comm]

/-- The ways in which `RETURN` finds its operand. -/
theorem loadForReturn_ok_cases {a a' : Assembly} {word : String} {item : Item}
    (h : a.loadForReturn word = .ok (item, a')) :
    (∃ i : Nat, a.constantTable.find? (Text.ofString word) = some i ∧
      item = ⟨Opcode.loadConst, some i⟩ ∧ a' = a) ∨
    (∃ i : Nat, a.localTable.find? (Text.ofString word) = some i ∧
      item = ⟨Opcode.loadFast, some i⟩ ∧ a' = a) ∨
    (a.constantTable.find? (Text.ofString word) = none ∧
      a.localTable.find? (Text.ofString word) = none ∧
      a.loadNumber word (.badReturn word) = .ok (item, a')) := by
  unfold loadForReturn at h
  cases hc : a.constantTable.find? (Text.ofString word) with
  | some i =>
    simp only [hc, Except.ok.injEq, Prod.mk.injEq] at h
    exact .inl ⟨i, rfl, h.1.symm, h.2.symm⟩
  | none =>
    cases hl : a.localTable.find? (Text.ofString word) with
    | some i =>
      simp only [hc, hl, Except.ok.injEq, Prod.mk.injEq] at h
      exact .inr (.inl ⟨i, rfl, h.1.symm, h.2.symm⟩)
    | none =>
      simp only [hc, hl] at h
      exact .inr (.inr ⟨rfl, rfl, h⟩)

/-- The ways in which `LOAD` finds its operand: as `RETURN` does, with the global names between the
local ones and the numbers. -/
theorem loadForLoad_ok_cases {a a' : Assembly} {word : String} {item : Item}
    (h : a.loadForLoad word = .ok (item, a')) :
    (∃ i : Nat, a.constantTable.find? (Text.ofString word) = some i ∧
      item = ⟨Opcode.loadConst, some i⟩ ∧ a' = a) ∨
    (∃ i : Nat, a.localTable.find? (Text.ofString word) = some i ∧
      item = ⟨Opcode.loadFast, some i⟩ ∧ a' = a) ∨
    (∃ i : Nat, a.globalTable.find? (Text.ofString word) = some i ∧
      item = ⟨Opcode.loadGlobal, some i⟩ ∧ a' = a) ∨
    (a.constantTable.find? (Text.ofString word) = none ∧
      a.localTable.find? (Text.ofString word) = none ∧
      a.globalTable.find? (Text.ofString word) = none ∧
      a.loadNumber word (.badLoad word) = .ok (item, a')) := by
  unfold loadForLoad at h
  cases hc : a.constantTable.find? (Text.ofString word) with
  | some i =>
    simp only [hc, Except.ok.injEq, Prod.mk.injEq] at h
    exact .inl ⟨i, rfl, h.1.symm, h.2.symm⟩
  | none =>
    cases hl : a.localTable.find? (Text.ofString word) with
    | some i =>
      simp only [hc, hl, Except.ok.injEq, Prod.mk.injEq] at h
      exact .inr (.inl ⟨i, rfl, h.1.symm, h.2.symm⟩)
    | none =>
      cases hg : a.globalTable.find? (Text.ofString word) with
      | some i =>
        simp only [hc, hl, hg, Except.ok.injEq, Prod.mk.injEq] at h
        exact .inr (.inr (.inl ⟨i, rfl, h.1.symm, h.2.symm⟩))
      | none =>
        simp only [hc, hl, hg] at h
        exact .inr (.inr (.inr ⟨rfl, rfl, rfl, h⟩))

/-- **What resolving can do.**  Either the state stays as it is, or the line is a `LOAD` or a
`RETURN` whose operand is in none of the tables that it is looked up in and denotes a number, and
that number goes to the end of the pool. -/
theorem resolve_ok_cases {a a' : Assembly} {mnemonic : Mnemonic} {operands : List String}
    {items : List Item} (h : a.resolve mnemonic operands = .ok (items, a')) :
    a' = a ∨ ∃ word rest v pool, operands = word :: rest ∧ DenotesNumber word v ∧
      a.constantTable.find? (Text.ofString word) = none ∧
      a.localTable.find? (Text.ofString word) = none ∧
      (mnemonic = .ret ∨ mnemonic = .load ∧ a.globalTable.find? (Text.ofString word) = none) ∧
      a.fields.constants = .list pool ∧ a' = a.pooled word v pool := by
  cases operands with
  | nil => cases mnemonic <;> simp_all [resolve, needOperand, bind, Except.bind]
  | cons word rest =>
    cases mnemonic with
    | operation name number =>
      rw [resolve_operation] at h
      cases ho : a.operand name word <;> simp_all [Except.map]
    | store =>
      rw [resolve_store] at h
      cases hl : lookup a.localTable word <;> simp_all [Except.map]
    | ret =>
      rw [resolve_ret] at h
      obtain ⟨⟨item, b⟩, hr, hb⟩ := map_eq_ok h
      simp only [Prod.mk.injEq] at hb
      obtain ⟨-, rfl⟩ := hb
      rcases loadForReturn_ok_cases hr with ⟨i, -, -, rfl⟩ | ⟨i, -, -, rfl⟩ | ⟨hc, hl, hn⟩
      · exact .inl rfl
      · exact .inl rfl
      · obtain ⟨v, pool, hv, hp, hb, -⟩ := loadNumber_ok_iff.mp hn
        exact .inr ⟨word, rest, v, pool, rfl, hv, hc, hl, .inl rfl, hp, hb⟩
    | load =>
      rw [resolve_load] at h
      obtain ⟨⟨item, b⟩, hr, hb⟩ := map_eq_ok h
      simp only [Prod.mk.injEq] at hb
      obtain ⟨-, rfl⟩ := hb
      rcases loadForLoad_ok_cases hr with
        ⟨i, -, -, rfl⟩ | ⟨i, -, -, rfl⟩ | ⟨i, -, -, rfl⟩ | ⟨hc, hl, hg, hn⟩
      · exact .inl rfl
      · exact .inl rfl
      · exact .inl rfl
      · obtain ⟨v, pool, hv, hp, hb, -⟩ := loadNumber_ok_iff.mp hn
        exact .inr ⟨word, rest, v, pool, rfl, hv, hc, hl, .inr ⟨rfl, hg⟩, hp, hb⟩
    | println => exact .inl (by simp_all [resolve])
    | binary number => exact .inl (by simp_all [resolve])
    | unary number => exact .inl (by simp_all [resolve])

/-- The items that `RETURN` and `LOAD` load their operand by have one. -/
theorem loaded_operand {a a' : Assembly} {word : String} {item : Item}
    (h : a.loadForReturn word = .ok (item, a') ∨ a.loadForLoad word = .ok (item, a')) :
    ∃ n, item.operand = some n := by
  have hnumber : ∀ {otherwise : Report}, a.loadNumber word otherwise = .ok (item, a') →
      ∃ n, item.operand = some n := by
    intro otherwise hn
    obtain ⟨v, pool, -, -, -, rfl⟩ := loadNumber_ok_iff.mp hn
    exact ⟨_, rfl⟩
  rcases h with h | h
  · rcases loadForReturn_ok_cases h with ⟨i, -, rfl, -⟩ | ⟨i, -, rfl, -⟩ | ⟨-, -, hn⟩
    · exact ⟨i, rfl⟩
    · exact ⟨i, rfl⟩
    · exact hnumber hn
  · rcases loadForLoad_ok_cases h with
      ⟨i, -, rfl, -⟩ | ⟨i, -, rfl, -⟩ | ⟨i, -, rfl, -⟩ | ⟨-, -, -, hn⟩
    · exact ⟨i, rfl⟩
    · exact ⟨i, rfl⟩
    · exact ⟨i, rfl⟩
    · exact hnumber hn

/-- **The width of an instruction** is how many numbers it emits. -/
theorem resolve_width {a a' : Assembly} {mnemonic : Mnemonic} {operands : List String}
    {items : List Item} (h : a.resolve mnemonic operands = .ok (items, a')) :
    (Item.allNumbers items).length = mnemonic.width operands := by
  cases operands with
  | nil =>
    cases mnemonic with
    | store => cases h
    | ret => cases h
    | load => cases h
    | _ => cases h; rfl
  | cons word rest =>
    cases mnemonic with
    | operation name number =>
      rw [resolve_operation] at h
      obtain ⟨n, -, hn⟩ := map_eq_ok h
      cases hn
      rfl
    | store =>
      rw [resolve_store] at h
      obtain ⟨i, -, hi⟩ := map_eq_ok h
      cases hi
      rfl
    | ret =>
      rw [resolve_ret] at h
      obtain ⟨⟨item, b⟩, hr, hb⟩ := map_eq_ok h
      cases hb
      obtain ⟨n, hn⟩ := loaded_operand (.inl hr)
      simp [Item.allNumbers, Item.numbers, hn, Mnemonic.width]
    | load =>
      rw [resolve_load] at h
      obtain ⟨⟨item, b⟩, hr, hb⟩ := map_eq_ok h
      cases hb
      obtain ⟨n, hn⟩ := loaded_operand (.inr hr)
      simp [Item.allNumbers, Item.numbers, hn, Mnemonic.width]
    | println => cases h; rfl
    | binary number => cases h; rfl
    | unary number => cases h; rfl

/-! ## The step of a line -/

/-- The state at an instruction once the lines before it are accounted for. -/
def placed (before : Nat) (a : Assembly) (p : Progress) : Assembly :=
  a.withLines (placedTable p a.fields.lineTable) (placedFirst before p a.fields.firstLine)

/-- The state after an instruction with the given items and width, resolved to the state `a'`, when
the line table held `entries`. -/
def emitted (a' : Assembly) (items : List Item) (width : Nat) (entries : List Value)
    (first : Value) : Assembly :=
  (a'.withLines (.list (entries ++ [.int width, .int 1])) first).addCode items

/-- **What a line can do**: count as a gap, fail before it emits anything, fail at a line table that
is no list, or emit its items. -/
inductive LineStep (before : Nat) (line : String) (a : Assembly) (p : Progress) :
    Assembly × Progress × Option Fault → Prop
  | gap (hi : instruction? line = none) :
      LineStep before line a p (a, { p with gap := p.gap + 1 }, none)
  | unknown {word : String} {operands : List String}
      (hi : instruction? line = some (word, operands)) (hm : Mnemonic.ofWord? word = none) :
      LineStep before line a p
        (a.placed before p, p.placed, some (.report (.unknownInstruction word)))
  | unresolved {word : String} {operands : List String} {mnemonic : Mnemonic} {f : Fault}
      (hi : instruction? line = some (word, operands)) (hm : Mnemonic.ofWord? word = some mnemonic)
      (hr : a.resolve mnemonic operands = .error f) :
      LineStep before line a p (a.placed before p, p.placed, some f)
  | unlisted {word : String} {operands : List String} {mnemonic : Mnemonic} {items : List Item}
      {a' : Assembly} (hi : instruction? line = some (word, operands))
      (hm : Mnemonic.ofWord? word = some mnemonic)
      (hr : a.resolve mnemonic operands = .ok (items, a'))
      (hl : ∀ entries, a.fields.lineTable ≠ .list entries) :
      LineStep before line a p
        ((a'.withLines a.fields.lineTable (placedFirst before p a.fields.firstLine)).addCode items,
          p.placed, some .lineTableFixed)
  | emits {word : String} {operands : List String} {mnemonic : Mnemonic} {items : List Item}
      {a' : Assembly} {entries : List Value} (hi : instruction? line = some (word, operands))
      (hm : Mnemonic.ofWord? word = some mnemonic)
      (hr : a.resolve mnemonic operands = .ok (items, a'))
      (hl : a.fields.lineTable = .list entries) :
      LineStep before line a p
        (a'.emitted items (mnemonic.width operands)
          (if p.started then widenLast p.gap entries else entries)
          (placedFirst before p a.fields.firstLine), p.placed.count mnemonic, none)

theorem assembleLine_step (before : Nat) (line : String) (a : Assembly) (p : Progress) :
    LineStep before line a p (a.assembleLine before line p) := by
  unfold assembleLine
  cases hi : instruction? line with
  | none => exact .gap hi
  | some w =>
    obtain ⟨word, operands⟩ := w
    simp only [placeInstruction_eq]
    unfold assembleInstruction
    cases hm : Mnemonic.ofWord? word with
    | none => exact .unknown hi hm
    | some mnemonic =>
      dsimp only
      rw [resolve_withLines]
      cases hr : a.resolve mnemonic operands with
      | error f => exact .unresolved hi hm hr
      | ok r =>
        obtain ⟨items, a'⟩ := r
        cases hl : a.fields.lineTable with
        | list entries => exact .emits hi hm hr hl
        | _ =>
          have hne : ∀ entries, a.fields.lineTable ≠ .list entries := by simp [hl]
          have hstep : LineStep before line a p _ := .unlisted hi hm hr hne
          rw [hl] at hstep
          exact hstep

/-- An instruction whose operand does not resolve ends the run with the fault of its operand. -/
theorem assembleLine_of_error {line word : String} {operands : List String} {mnemonic : Mnemonic}
    {a : Assembly} {f : Fault} (hi : instruction? line = some (word, operands))
    (hm : Mnemonic.ofWord? word = some mnemonic) (hr : a.resolve mnemonic operands = .error f)
    (before : Nat) (p : Progress) : (a.assembleLine before line p).2.2 = some f := by
  simp only [assembleLine, hi, placeInstruction_eq, assembleInstruction, hm, resolve_withLines, hr,
    Except.map]

/-- An instruction whose operand resolves emits its items, where the line table is a list. -/
theorem assembleLine_of_ok {line word : String} {operands : List String} {mnemonic : Mnemonic}
    {a a' : Assembly} {items : List Item} {entries : List Value}
    (hi : instruction? line = some (word, operands)) (hm : Mnemonic.ofWord? word = some mnemonic)
    (hr : a.resolve mnemonic operands = .ok (items, a')) (hl : a.fields.lineTable = .list entries)
    (before : Nat) (p : Progress) :
    a.assembleLine before line p
      = (a'.emitted items (mnemonic.width operands)
          (if p.started then widenLast p.gap entries else entries)
          (placedFirst before p a.fields.firstLine), p.placed.count mnemonic, none) := by
  simp only [assembleLine, hi, placeInstruction_eq, assembleInstruction, hm, resolve_withLines, hr,
    Except.map, hl, placedTable]
  rfl

/-- The items that a line stands for in a state; none, where it holds no instruction or fails. -/
def lineItems (a : Assembly) (line : String) : List Item :=
  match instruction? line with
  | none => []
  | some (word, operands) =>
    match Mnemonic.ofWord? word with
    | none => []
    | some mnemonic =>
      match a.resolve mnemonic operands with
      | .error _ => []
      | .ok (items, _) => items

theorem resolve_code {a a' : Assembly} {mnemonic : Mnemonic} {operands : List String}
    {items : List Item} (h : a.resolve mnemonic operands = .ok (items, a')) : a'.code = a.code := by
  rcases resolve_ok_cases h with rfl | ⟨word, rest, v, pool, -, -, -, -, -, -, rfl⟩
  · rfl
  · rfl

/-- Whatever comes of a line, the code grows by the numbers of its items. -/
theorem LineStep.code_eq {before : Nat} {line : String} {a a' : Assembly} {p p' : Progress}
    {f : Option Fault} (h : LineStep before line a p (a', p', f)) :
    a'.code = a.code ++ Item.allNumbers (a.lineItems line) := by
  cases h with
  | gap hi => simp [lineItems, hi, Item.allNumbers]
  | unknown hi hm => simp [lineItems, hi, hm, Item.allNumbers, placed, withLines]
  | unresolved hi hm hr => simp [lineItems, hi, hm, hr, Item.allNumbers, placed, withLines]
  | unlisted hi hm hr hl => simp [lineItems, hi, hm, hr, addCode, withLines, resolve_code hr]
  | emits hi hm hr hl => simp [lineItems, hi, hm, hr, emitted, addCode, withLines, resolve_code hr]

/-- Whatever comes of a line, only the pool, the line table and the first line change of the fields. -/
theorem LineStep.field_eq {before : Nat} {line : String} {a a' : Assembly} {p p' : Progress}
    {f : Option Fault} (h : LineStep before line a p (a', p', f)) {field : Field}
    (hfield : field ≠ .constants ∧ field ≠ .lineTable ∧ field ≠ .firstLine) :
    a'.fields.get field = a.fields.get field := by
  obtain ⟨hconstants, htable, hfirst⟩ := hfield
  have hlines : ∀ (b : Assembly) table first,
      (b.withLines table first).fields.get field = b.fields.get field := by
    intro b table first
    cases field with
    | lineTable => exact absurd rfl htable
    | firstLine => exact absurd rfl hfirst
    | _ => rfl
  have hresolved : ∀ {mnemonic operands items b}, a.resolve mnemonic operands = .ok (items, b) →
      b.fields.get field = a.fields.get field := by
    intro mnemonic operands items b hr
    rcases resolve_ok_cases hr with rfl | ⟨word, rest, v, pool, -, -, -, -, -, -, rfl⟩
    · rfl
    · show (a.fields.set .constants (.list (pool ++ [v]))).get field = _
      rw [Fields.get_set, if_neg hconstants]
  cases h with
  | gap hi => rfl
  | unknown hi hm => exact hlines a _ _
  | unresolved hi hm hr => exact hlines a _ _
  | unlisted hi hm hr hl => exact (hlines _ _ _).trans (hresolved hr)
  | emits hi hm hr hl => exact (hlines _ _ _).trans (hresolved hr)

/-! ## Runs of lines -/

/-- What holds before a run, and is kept by every line that is reached, holds after it. -/
theorem assembleLines_invariant {P : Assembly → Progress → Prop} {before : Nat}
    {lines : List String} {a a' : Assembly} {p p' : Progress} {f : Option Fault}
    (hstep : ∀ line ∈ lines, ∀ a p a' p' f, P a p → LineStep before line a p (a', p', f) → P a' p')
    (h : assembleLines before lines a p = (a', p', f)) (hinv : P a p) : P a' p' := by
  induction lines generalizing a p with
  | nil =>
    simp only [assembleLines, Prod.mk.injEq] at h
    obtain ⟨rfl, rfl, -⟩ := h
    exact hinv
  | cons line rest ih =>
    have hline := assembleLine_step before line a p
    rcases hr : a.assembleLine before line p with ⟨b, q, g⟩
    rw [hr] at hline
    have hnext := hstep line List.mem_cons_self a p b q g hinv hline
    simp only [assembleLines, hr] at h
    cases g with
    | none => exact ih (fun l hl => hstep l (List.mem_cons_of_mem _ hl)) h hnext
    | some g =>
      simp only [Prod.mk.injEq] at h
      obtain ⟨rfl, rfl, -⟩ := h
      exact hnext

/-- What every line keeps up with the things found on the lines so far, a run without a fault keeps up
with the things found on all of its lines. -/
theorem assembleLines_collect {α : Type} {f : String → Option α} {P : List α → Assembly → Prop}
    {before : Nat} {lines : List String} {found : List α} {a a' : Assembly} {p p' : Progress}
    (hstep : ∀ line found a p a' p', P found a → LineStep before line a p (a', p', none) →
      P (found ++ (f line).toList) a')
    (h : assembleLines before lines a p = (a', p', none)) (hstart : P found a) :
    P (found ++ lines.filterMap f) a' := by
  induction lines generalizing a p found with
  | nil =>
    obtain ⟨rfl, -⟩ := Prod.mk.inj h
    simpa using hstart
  | cons line rest ih =>
    have hline := assembleLine_step before line a p
    rcases hr : a.assembleLine before line p with ⟨b, q, g⟩
    rw [hr] at hline
    simp only [assembleLines, hr] at h
    cases g with
    | some g => simp at h
    | none =>
      have hrest := ih h (hstep line found a p b q hstart hline)
      cases hf : f line with
      | none => simpa [hf, List.filterMap_cons] using hrest
      | some x => simpa [hf, List.filterMap_cons] using hrest

/-- A run over joined lines is a run over the first and then, unless that failed, over the second.
-/
theorem assembleLines_append (before : Nat) (xs ys : List String) (a : Assembly) (p : Progress) :
    assembleLines before (xs ++ ys) a p
      = match assembleLines before xs a p with
        | (a', p', none) => assembleLines before ys a' p'
        | (a', p', some f) => (a', p', some f) := by
  induction xs generalizing a p with
  | nil => rfl
  | cons x xs ih =>
    simp only [List.cons_append, assembleLines]
    obtain ⟨b, q, g⟩ := a.assembleLine before x p
    cases g with
    | none => exact ih b q
    | some g => rfl

/-- A run that succeeds does so on every first part of its lines. -/
theorem assembleLines_prefix {before : Nat} {xs ys : List String} {a a' : Assembly}
    {p p' : Progress} (h : assembleLines before (xs ++ ys) a p = (a', p', none)) :
    ∃ b q, assembleLines before xs a p = (b, q, none) ∧
      assembleLines before ys b q = (a', p', none) := by
  rw [assembleLines_append] at h
  rcases hr : assembleLines before xs a p with ⟨b, q, g⟩
  rw [hr] at h
  cases g with
  | none => exact ⟨b, q, rfl, h⟩
  | some g => simp at h

/-- Code that was emitted stays. -/
theorem assembleLines_code {before : Nat} {lines : List String} {a a' : Assembly} {p p' : Progress}
    {f : Option Fault} (h : assembleLines before lines a p = (a', p', f)) : a.code <+: a'.code := by
  apply assembleLines_invariant (P := fun b _ => a.code <+: b.code) _ h List.prefix_rfl
  intro line _ b q b' q' g hb hs
  rw [hs.code_eq]
  exact hb.trans (List.prefix_append _ _)

/-- Of the fields, code changes only the pool, the line table and the first line. -/
theorem assembleLines_field (field : Field) {before : Nat} {lines : List String} {a a' : Assembly}
    {p p' : Progress} {f : Option Fault} (h : assembleLines before lines a p = (a', p', f))
    (hfield : field ≠ .constants ∧ field ≠ .lineTable ∧ field ≠ .firstLine) :
    a'.fields.get field = a.fields.get field :=
  assembleLines_invariant (P := fun b _ => b.fields.get field = a.fields.get field)
    (fun _ _ _ _ _ _ _ hb hs => (hs.field_eq hfield).trans hb) h rfl

end Assembly

end BytecodeAssembler
