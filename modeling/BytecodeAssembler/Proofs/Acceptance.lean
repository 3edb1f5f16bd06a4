import BytecodeAssembler.Proofs.Calls
import BytecodeAssembler.Proofs.DirectiveStep
import BytecodeAssembler.Proofs.LineStep
import BytecodeAssembler.Proofs.Mnemonics

/-!
# Which code is accepted

Whether assembling succeeds can be read off the lines and the symbol tables that the directives
left, without running anything: every instruction has to be of one of the forms of `Accepted`.  The
one form that looks beyond its own line is `LOAD_CONST`, whose operand may also be a number that an
earlier `LOAD` or `RETURN` made a constant (`MakesConstant`).

While the lines are assembled only the table of constants changes.  `Known` says what it holds after
some lines: the constants of the start, and the numbers that those lines made constants.
-/

namespace BytecodeAssembler

namespace Assembly

/-- A word denotes some number. -/
def IsNumber (word : String) : Prop :=
  ∃ v, DenotesNumber word v

/-- An instruction makes a word a constant under its own spelling, unless it is one already. -/
inductive MakesConstant (a : Assembly) (t word : String) : List String → Prop
  | load {rest : List String} (hm : Text.capitals word = "LOAD") (hn : IsNumber t)
      (hl : ¬ a.localTable.Has t) (hg : ¬ a.globalTable.Has t) : MakesConstant a t word (t :: rest)
  | ret {rest : List String} (hm : Text.capitals word = "RETURN") (hn : IsNumber t)
      (hl : ¬ a.localTable.Has t) : MakesConstant a t word (t :: rest)

/-- Some of the given lines makes a word a constant. -/
def MadeConstant (a : Assembly) (earlier : List String) (t : String) : Prop :=
  ∃ line ∈ earlier, ∃ word operands, instruction? line = some (word, operands) ∧
    MakesConstant a t word operands

/-- **The accepted forms** of an instruction after some lines, by the symbol tables of the start. -/
inductive Accepted (a : Assembly) (earlier : List String) (word : String) : List String → Prop
  | bare {number : Nat} (hm : Opcode.number? (Text.capitals word) = some number) :
      Accepted a earlier word []
  | constant {t : String} {rest : List String} (hm : Text.capitals word = "LOAD_CONST")
      (ht : a.constantTable.Has t ∨ MadeConstant a earlier t) : Accepted a earlier word (t :: rest)
  | global {t : String} {rest : List String} (hm : Text.capitals word ∈ Mnemonic.globalOperations)
      (ht : a.globalTable.Has t) : Accepted a earlier word (t :: rest)
  | local {t : String} {rest : List String} (hm : Text.capitals word ∈ Mnemonic.localOperations)
      (ht : a.localTable.Has t) : Accepted a earlier word (t :: rest)
  | number {t : String} {rest : List String} {number : Nat} {n : Int}
      (hm : Opcode.number? (Text.capitals word) = some number)
      (hc : Text.capitals word ≠ "LOAD_CONST")
      (hg : Text.capitals word ∉ Mnemonic.globalOperations)
      (hl : Text.capitals word ∉ Mnemonic.localOperations) (ht : Numeral.read t = .ok n) :
      Accepted a earlier word (t :: rest)
  | store {t : String} {rest : List String} (hm : Text.capitals word = "STORE")
      (ht : a.localTable.Has t) : Accepted a earlier word (t :: rest)
  | load {t : String} {rest : List String} (hm : Text.capitals word = "LOAD")
      (ht : a.constantTable.Has t ∨ a.localTable.Has t ∨ a.globalTable.Has t ∨ IsNumber t) :
      Accepted a earlier word (t :: rest)
  | ret {t : String} {rest : List String} (hm : Text.capitals word = "RETURN")
      (ht : a.constantTable.Has t ∨ a.localTable.Has t ∨ IsNumber t) :
      Accepted a earlier word (t :: rest)
  | println {operands : List String} (hm : Text.capitals word = "PRINTLN") :
      Accepted a earlier word operands
  | operator {operands : List String}
      (hm : Text.capitals word ∈ Mnemonic.binaryOperators.map Prod.fst ∨
        Text.capitals word ∈ Mnemonic.unaryOperators.map Prod.fst) :
      Accepted a earlier word operands

/-! ## When an operand resolves -/

/-- Resolving succeeds. -/
def Resolves (a : Assembly) (mnemonic : Mnemonic) (operands : List String) : Prop :=
  ∃ r, a.resolve mnemonic operands = .ok r

theorem map_ok_iff {ε α β : Type} {f : α → β} {x : Except ε α} :
    (∃ r, x.map f = .ok r) ↔ ∃ r, x = .ok r := by
  cases x <;> simp [Except.map]

theorem lookup_ok_iff {table : SymbolTable} {word : String} :
    (∃ i, lookup table word = .ok i) ↔ table.Has word := by
  simp only [lookup_eq_ok_iff, SymbolTable.Has]

theorem loadNumber_ok_iff_isNumber {a : Assembly} {word : String} {otherwise : Report}
    {pool : List Value} (hp : a.fields.constants = .list pool) :
    (∃ r, a.loadNumber word otherwise = .ok r) ↔ IsNumber word := by
  constructor
  · rintro ⟨⟨item, a'⟩, h⟩
    obtain ⟨v, -, hv, -⟩ := loadNumber_ok_iff.mp h
    exact ⟨v, hv⟩
  · rintro ⟨v, hv⟩
    exact ⟨_, loadNumber_ok_iff.mpr ⟨v, pool, hv, hp, rfl, rfl⟩⟩

theorem not_resolves_nil {a : Assembly} {mnemonic : Mnemonic}
    (hm : mnemonic = .store ∨ mnemonic = .ret ∨ mnemonic = .load) : ¬ a.Resolves mnemonic [] := by
  rcases hm with rfl | rfl | rfl <;>
    simp [Resolves, resolve, needOperand, bind, Except.bind]

theorem resolves_operation_iff {a : Assembly} {name t : String} {number : Nat}
    {rest : List String} :
    a.Resolves (.operation name number) (t :: rest) ↔ ∃ n, a.operand name t = .ok n := by
  unfold Resolves
  rw [resolve_operation]
  exact map_ok_iff

theorem resolves_store_iff {a : Assembly} {t : String} {rest : List String} :
    a.Resolves .store (t :: rest) ↔ a.localTable.Has t := by
  unfold Resolves
  rw [resolve_store, map_ok_iff, lookup_ok_iff]

theorem resolves_ret_iff {a : Assembly} {t : String} {rest : List String} {pool : List Value}
    (hp : a.fields.constants = .list pool) :
    a.Resolves .ret (t :: rest) ↔ a.constantTable.Has t ∨ a.localTable.Has t ∨ IsNumber t := by
  unfold Resolves
  rw [resolve_ret, map_ok_iff]
  unfold loadForReturn SymbolTable.Has
  cases a.constantTable.find? (Text.ofString t) with
  | some i => simp
  | none =>
    cases a.localTable.find? (Text.ofString t) with
    | some i => simp
    | none => simpa using loadNumber_ok_iff_isNumber hp

theorem resolves_load_iff {a : Assembly} {t : String} {rest : List String} {pool : List Value}
    (hp : a.fields.constants = .list pool) :
    a.Resolves .load (t :: rest) ↔
      a.constantTable.Has t ∨ a.localTable.Has t ∨ a.globalTable.Has t ∨ IsNumber t := by
  unfold Resolves
  rw [resolve_load, map_ok_iff]
  unfold loadForLoad SymbolTable.Has
  cases a.constantTable.find? (Text.ofString t) with
  | some i => simp
  | none =>
    cases a.localTable.find? (Text.ofString t) with
    | some i => simp
    | none =>
      cases a.globalTable.find? (Text.ofString t) with
      | some i => simp
      | none => simpa using loadNumber_ok_iff_isNumber hp

/-- The operand of an operation, by its kind. -/
theorem operand_ok_iff {a : Assembly} {name t : String} :
    (∃ n, a.operand name t = .ok n) ↔
      match Mnemonic.operandKind name with
      | .constant => a.constantTable.Has t
      | .global => a.globalTable.Has t
      | .local => a.localTable.Has t
      | .number => ∃ n, Numeral.read t = .ok n := by
  unfold operand
  cases Mnemonic.operandKind name with
  | constant => exact map_ok_iff.trans lookup_ok_iff
  | global => exact map_ok_iff.trans lookup_ok_iff
  | «local» => exact map_ok_iff.trans lookup_ok_iff
  | number =>
    rcases Numeral.read t with e | n
    · cases e <;> simp
    · simp

/-! ## What is known after some lines -/

/-- The state `b` follows from `a` by assembling the lines `seen`, as far as symbols go: only the
table of constants has changed, and it holds what those lines made constants in addition. -/
structure Known (a : Assembly) (seen : List String) (b : Assembly) : Prop where
  pool : ∃ items, b.fields.constants = .list items
  table : ∃ entries, b.fields.lineTable = .list entries
  globals : b.globalTable = a.globalTable
  locals : b.localTable = a.localTable
  constants : ∀ t, b.constantTable.Has t ↔ a.constantTable.Has t ∨ MadeConstant a seen t

theorem MadeConstant.isNumber {a : Assembly} {earlier : List String} {t : String}
    (h : MadeConstant a earlier t) : IsNumber t := by
  obtain ⟨line, -, word, operands, -, hmakes⟩ := h
  cases hmakes with
  | load _ hn => exact hn
  | ret _ hn => exact hn

/-- An instruction that resolves in such a state is of an accepted form. -/
theorem Known.accepted_of_resolves {a b : Assembly} {seen : List String} (h : Known a seen b)
    {word : String} {operands : List String} {mnemonic : Mnemonic}
    (hm : Mnemonic.Named (Text.capitals word) mnemonic) (hr : b.Resolves mnemonic operands) :
    Accepted a seen word operands := by
  obtain ⟨pool, hpool⟩ := h.pool
  cases hm with
  | println hname => exact .println hname
  | binary hname => exact .operator (.inl (List.mem_map_of_mem hname))
  | unary hname => exact .operator (.inr (List.mem_map_of_mem hname))
  | @operation number hnum =>
    cases operands with
    | nil => exact .bare hnum
    | cons t rest =>
      rw [resolves_operation_iff, operand_ok_iff] at hr
      rcases Mnemonic.operandKind_cases hnum with
        ⟨hk, hname⟩ | ⟨hk, hname⟩ | ⟨hk, hname⟩ | ⟨hk, hc, hg, hl⟩
      · rw [hk] at hr
        exact .constant hname ((h.constants t).mp hr)
      · rw [hk] at hr
        exact .global hname (h.globals ▸ hr)
      · rw [hk] at hr
        exact .local hname (h.locals ▸ hr)
      · rw [hk] at hr
        obtain ⟨n, hn⟩ := hr
        exact .number hnum hc hg hl hn
  | store hname =>
    cases operands with
    | nil => exact absurd hr (not_resolves_nil (.inl rfl))
    | cons t rest =>
      rw [resolves_store_iff, h.locals] at hr
      exact .store hname hr
  | ret hname =>
    cases operands with
    | nil => exact absurd hr (not_resolves_nil (.inr (.inl rfl)))
    | cons t rest =>
      rw [resolves_ret_iff hpool, h.locals, h.constants] at hr
      refine .ret hname ?_
      rcases hr with (hc | hc) | hl | hn
      · exact .inl hc
      · exact .inr (.inr hc.isNumber)
      · exact .inr (.inl hl)
      · exact .inr (.inr hn)
  | load hname =>
    cases operands with
    | nil => exact absurd hr (not_resolves_nil (.inr (.inr rfl)))
    | cons t rest =>
      rw [resolves_load_iff hpool, h.locals, h.globals, h.constants] at hr
      refine .load hname ?_
      rcases hr with (hc | hc) | hl | hg | hn
      · exact .inl hc
      · exact .inr (.inr (.inr hc.isNumber))
      · exact .inr (.inl hl)
      · exact .inr (.inr (.inl hg))
      · exact .inr (.inr (.inr hn))

/-- An instruction of an accepted form resolves in such a state. -/
theorem Known.resolves_of_accepted {a b : Assembly} {seen : List String} (h : Known a seen b)
    {word : String} {operands : List String} (hacc : Accepted a seen word operands) :
    ∃ mnemonic, Mnemonic.Named (Text.capitals word) mnemonic ∧ b.Resolves mnemonic operands := by
  obtain ⟨pool, hpool⟩ := h.pool
  cases hacc with
  | bare hnum => exact ⟨_, .operation hnum, _, rfl⟩
  | println hname => exact ⟨_, .println hname, _, rfl⟩
  | operator hname =>
    rcases hname with hname | hname
    · obtain ⟨e, he, hword⟩ := List.mem_map.mp hname
      exact ⟨.binary e.2, .binary (hword ▸ he), _, rfl⟩
    · obtain ⟨e, he, hword⟩ := List.mem_map.mp hname
      exact ⟨.unary e.2, .unary (hword ▸ he), _, rfl⟩
  | @constant t rest hname ht =>
    obtain ⟨number, hnum⟩ := Mnemonic.number?_symbolOperation (Text.capitals word) (by simp [hname])
    refine ⟨_, .operation hnum, ?_⟩
    rw [resolves_operation_iff, operand_ok_iff, hname, Mnemonic.operandKind_loadConst]
    exact (h.constants t).mpr ht
  | @global t rest hname ht =>
    obtain ⟨number, hnum⟩ := Mnemonic.number?_symbolOperation (Text.capitals word) (by simp [hname])
    refine ⟨_, .operation hnum, ?_⟩
    rw [resolves_operation_iff, operand_ok_iff, Mnemonic.operandKind_global hname]
    exact h.globals ▸ ht
  | @«local» t rest hname ht =>
    obtain ⟨number, hnum⟩ := Mnemonic.number?_symbolOperation (Text.capitals word) (by simp [hname])
    refine ⟨_, .operation hnum, ?_⟩
    rw [resolves_operation_iff, operand_ok_iff, Mnemonic.operandKind_local hname]
    exact h.locals ▸ ht
  | number hnum hc hg hl ht =>
    refine ⟨_, .operation hnum, ?_⟩
    rw [resolves_operation_iff, operand_ok_iff]
    rcases Mnemonic.operandKind_cases hnum with
      ⟨-, hname⟩ | ⟨-, hname⟩ | ⟨-, hname⟩ | ⟨hk, -⟩
    · exact absurd hname hc
    · exact absurd hname hg
    · exact absurd hname hl
    · rw [hk]
      exact ⟨_, ht⟩
  | store hname ht => exact ⟨_, .store hname, resolves_store_iff.mpr (h.locals ▸ ht)⟩
  | @load t rest hname ht =>
    refine ⟨_, .load hname, ?_⟩
    rw [resolves_load_iff hpool, h.locals, h.globals, h.constants]
    rcases ht with hc | hrest
    · exact .inl (.inl hc)
    · exact .inr hrest
  | @ret t rest hname ht =>
    refine ⟨_, .ret hname, ?_⟩
    rw [resolves_ret_iff hpool, h.locals, h.constants]
    rcases ht with hc | hrest
    · exact .inl (.inl hc)
    · exact .inr hrest

/-- An instruction that resolved makes its operand a constant when it is of the form to do so. -/
theorem has_of_makesConstant {a b b' : Assembly} {t word : String} {operands : List String}
    {mnemonic : Mnemonic} {items : List Item} (hg : b.globalTable = a.globalTable)
    (hl : b.localTable = a.localTable) (hm : Mnemonic.Named (Text.capitals word) mnemonic)
    (hr : b.resolve mnemonic operands = .ok (items, b')) (h : MakesConstant a t word operands) :
    b'.constantTable.Has t := by
  cases h with
  | load hname hn hnl hng =>
    obtain rfl := hm.unique (.load hname)
    rw [resolve_load] at hr
    obtain ⟨⟨item, b₁⟩, hload, hb⟩ := map_eq_ok hr
    obtain ⟨-, rfl⟩ := Prod.mk.inj hb
    rcases loadForLoad_ok_cases hload with
      ⟨i, hc, -, rfl⟩ | ⟨i, hc, -, -⟩ | ⟨i, hc, -, -⟩ | ⟨-, -, -, hnew⟩
    · exact ⟨i, hc⟩
    · exact absurd ⟨i, hl ▸ hc⟩ hnl
    · exact absurd ⟨i, hg ▸ hc⟩ hng
    · obtain ⟨v, pool, -, -, rfl, -⟩ := loadNumber_ok_iff.mp hnew
      exact SymbolTable.has_insert_iff.mpr (.inl rfl)
  | ret hname hn hnl =>
    obtain rfl := hm.unique (.ret hname)
    rw [resolve_ret] at hr
    obtain ⟨⟨item, b₁⟩, hload, hb⟩ := map_eq_ok hr
    obtain ⟨-, rfl⟩ := Prod.mk.inj hb
    rcases loadForReturn_ok_cases hload with ⟨i, hc, -, rfl⟩ | ⟨i, hc, -, -⟩ | ⟨-, -, hnew⟩
    · exact ⟨i, hc⟩
    · exact absurd ⟨i, hl ▸ hc⟩ hnl
    · obtain ⟨v, pool, -, -, rfl, -⟩ := loadNumber_ok_iff.mp hnew
      exact SymbolTable.has_insert_iff.mpr (.inl rfl)

/-- What an instruction leaves in the table of constants was there, or it made it a constant. -/
theorem has_after_resolve_iff {a b b' : Assembly} {t word : String} {operands : List String}
    {mnemonic : Mnemonic} {items : List Item} (hg : b.globalTable = a.globalTable)
    (hl : b.localTable = a.localTable) (hm : Mnemonic.Named (Text.capitals word) mnemonic)
    (hr : b.resolve mnemonic operands = .ok (items, b')) :
    b'.constantTable.Has t ↔ b.constantTable.Has t ∨ MakesConstant a t word operands := by
  constructor
  · intro ht
    rcases resolve_ok_cases hr with rfl | ⟨w, rest, v, pool, rfl, hv, -, hwl, hkind, -, rfl⟩
    · exact .inl ht
    · rcases SymbolTable.has_insert_iff.mp ht with rfl | hold
      · have hnl : ¬ a.localTable.Has w := hl ▸ SymbolTable.find?_eq_none_iff.mp hwl
        rcases hkind with rfl | ⟨rfl, hwg⟩
        · cases hm with | ret hname => exact .inr (.ret hname ⟨v, hv⟩ hnl)
        · have hng : ¬ a.globalTable.Has w := hg ▸ SymbolTable.find?_eq_none_iff.mp hwg
          cases hm with | load hname => exact .inr (.load hname ⟨v, hv⟩ hnl hng)
      · exact .inl hold
  · rintro (ht | hmakes)
    · rcases resolve_ok_cases hr with rfl | ⟨w, rest, v, pool, -, -, -, -, -, -, rfl⟩
      · exact ht
      · exact SymbolTable.has_insert_iff.mpr (.inr ht)
    · exact has_of_makesConstant hg hl hm hr hmakes

theorem madeConstant_concat_iff {a : Assembly} {seen : List String} {line t : String} :
    MadeConstant a (seen ++ [line]) t ↔ MadeConstant a seen t ∨
      ∃ word operands, instruction? line = some (word, operands) ∧
        MakesConstant a t word operands := by
  simp only [MadeConstant, List.mem_append, List.mem_singleton, or_and_right, exists_or,
    exists_eq_left]

/-- **One line** keeps what is known. -/
theorem Known.step {a b b' : Assembly} {seen : List String} (h : Known a seen b) {before : Nat}
    {line : String} {p p' : Progress} (hs : LineStep before line b p (b', p', none)) :
    Known a (seen ++ [line]) b' := by
  cases hs with
  | gap hi =>
    refine ⟨h.pool, h.table, h.globals, h.locals, ?_⟩
    intro t
    rw [h.constants, madeConstant_concat_iff]
    simp [hi]
  | @emits word operands mnemonic items b₁ entries hi hm hr hl =>
    rw [Mnemonic.ofWord?_eq_some_iff] at hm
    have hframe : (∃ items, b₁.fields.constants = .list items) ∧ b₁.globalTable = a.globalTable ∧
        b₁.localTable = a.localTable := by
      rcases resolve_ok_cases hr with rfl | ⟨w, rest, v, pool, -, -, -, -, -, -, rfl⟩
      · exact ⟨h.pool, h.globals, h.locals⟩
      · exact ⟨⟨_, rfl⟩, h.globals, h.locals⟩
    refine ⟨hframe.1, ⟨_, rfl⟩, hframe.2.1, hframe.2.2, ?_⟩
    intro t
    have hline : (∃ w ops, instruction? line = some (w, ops) ∧ MakesConstant a t w ops) ↔
        MakesConstant a t word operands := by
      constructor
      · rintro ⟨w, ops, hw, hmakes⟩
        obtain ⟨rfl, rfl⟩ := Prod.mk.inj (Option.some.inj (hi.symm.trans hw))
        exact hmakes
      · exact fun hmakes => ⟨word, operands, hi, hmakes⟩
    show b₁.constantTable.Has t ↔ _
    rw [has_after_resolve_iff h.globals h.locals hm hr, h.constants, madeConstant_concat_iff, hline,
      or_assoc]

/-- In a state in which this much is known, a line is assembled when it holds no instruction or one
of an accepted form. -/
theorem Known.assembleLine_ok_iff {a b : Assembly} {seen : List String} (h : Known a seen b)
    (before : Nat) (line : String) (p : Progress) :
    (b.assembleLine before line p).2.2 = none ↔
      ∀ word operands, instruction? line = some (word, operands) →
        Accepted a seen word operands := by
  have hstep := assembleLine_step before line b p
  rcases hr : b.assembleLine before line p with ⟨b', p', f⟩
  rw [hr] at hstep
  constructor
  · rintro hf word operands hw
    obtain rfl : f = none := hf
    cases hstep with
    | gap hi =>
      rw [hi] at hw
      cases hw
    | emits hi hm hres hl =>
      obtain ⟨rfl, rfl⟩ := Prod.mk.inj (Option.some.inj (hi.symm.trans hw))
      exact h.accepted_of_resolves (Mnemonic.ofWord?_eq_some_iff.mp hm) ⟨_, hres⟩
  · intro hall
    -- Each way to fail contradicts what an accepted form promises.
    have hresolves : ∀ {word operands}, instruction? line = some (word, operands) →
        ∃ mnemonic, Mnemonic.ofWord? word = some mnemonic ∧ b.Resolves mnemonic operands := by
      intro word operands hi
      obtain ⟨mnemonic, hm, hres⟩ := h.resolves_of_accepted (hall word operands hi)
      exact ⟨mnemonic, Mnemonic.ofWord?_eq_some_iff.mpr hm, hres⟩
    cases hstep with
    | gap hi => rfl
    | unknown hi hm =>
      obtain ⟨mnemonic, hm', -⟩ := hresolves hi
      rw [hm] at hm'
      cases hm'
    | unresolved hi hm hbad =>
      obtain ⟨mnemonic, hm', r, hres⟩ := hresolves hi
      obtain rfl := Option.some.inj (hm.symm.trans hm')
      rw [hbad] at hres
      cases hres
    | unlisted hi hm hres hl =>
      obtain ⟨entries, he⟩ := h.table
      exact absurd he (hl entries)
    | emits hi hm hres hl => rfl

/-- **Runs that succeed.**  From a state in which this much is known, the lines are assembled to the
end when each instruction is of an accepted form after the lines before it. -/
theorem Known.assembleLines_ok_iff {a b : Assembly} {seen : List String} (h : Known a seen b)
    (before : Nat) (lines : List String) (p : Progress) :
    (assembleLines before lines b p).2.2 = none ↔
      ∀ pre line post, lines = pre ++ line :: post → ∀ word operands,
        instruction? line = some (word, operands) → Accepted a (seen ++ pre) word operands := by
  induction lines generalizing seen b p with
  | nil =>
    simp only [assembleLines, true_iff]
    intro pre line post hsplit
    simp at hsplit
  | cons first rest ih =>
    have hstep := assembleLine_step before first b p
    have hfirst := h.assembleLine_ok_iff before first p
    rcases hr : b.assembleLine before first p with ⟨b', p', f⟩
    rw [hr] at hstep hfirst
    simp only [assembleLines, hr]
    -- The first line is checked against `seen`, the others against `seen` and the first line.
    have hsplit : (∀ pre line post, first :: rest = pre ++ line :: post → ∀ word operands,
        instruction? line = some (word, operands) → Accepted a (seen ++ pre) word operands) ↔
        (∀ word operands, instruction? first = some (word, operands) →
          Accepted a seen word operands) ∧
        ∀ pre line post, rest = pre ++ line :: post → ∀ word operands,
          instruction? line = some (word, operands) →
            Accepted a (seen ++ [first] ++ pre) word operands := by
      constructor
      · intro hall
        refine ⟨fun word operands hi => ?_, fun pre line post heq word operands hi => ?_⟩
        · simpa using hall [] first rest rfl word operands hi
        · simpa using hall (first :: pre) line post (by rw [heq]; rfl) word operands hi
      · rintro ⟨hhead, htail⟩ pre line post heq word operands hi
        cases pre with
        | nil =>
          obtain ⟨rfl, rfl⟩ := List.cons.inj heq
          simpa using hhead word operands hi
        | cons x xs =>
          obtain ⟨rfl, hrest⟩ := List.cons.inj heq
          simpa using htail xs line post hrest word operands hi
    rw [hsplit]
    cases f with
    | none =>
      rw [ih (h.step hstep) p']
      exact ⟨fun hrest => ⟨hfirst.mp rfl, hrest⟩, And.right⟩
    | some f =>
      have hbad : ¬ (some f = none) := by simp
      exact ⟨fun hfault => absurd hfault hbad, fun hboth => absurd (hfirst.mpr hboth.1) hbad⟩

/-- What directives leave is known before any line, where they set neither the constants nor the
line table as fields. -/
theorem known_start {lines : List String}
    (hc : ∀ line ∈ lines, Directive.definesOn "consts" line = false)
    (hl : ∀ line ∈ lines, Directive.definesOn "lnotab" line = false) :
    Known (declareLines lines initial).1 [] (declareLines lines initial).1 where
  pool := by
    obtain ⟨more, hmore⟩ := declareLines_constants hc (a := initial) rfl
    exact ⟨_, hmore⟩
  table := ⟨[], declareLines_field .lineTable initial (by simp) hl⟩
  globals := rfl
  locals := rfl
  constants := by simp [MadeConstant]

end Assembly

/-- **The accepted language.**  Where no directive sets the constants or the line table as fields,
assembling after declaring returns without a fault just when every instruction of the code is of an
accepted form, given the symbol tables that the directives left and the lines before it.  Declaring
need not have succeeded: the tables it left are the ones that count. -/
theorem Session.assemble_ok_iff_accepted (listing : Listing)
    (hconsts : listing.defines "consts" = false) (hlnotab : listing.defines "lnotab" = false) :
    (Session.start listing).declare.session.assemble.fault = none ↔
      ∀ pre line post, listing.code = pre ++ line :: post → ∀ word operands,
        Assembly.instruction? line = some (word, operands) →
          Assembly.Accepted (Session.start listing).declare.session.assembly pre word operands := by
  have hknown := @Assembly.known_start listing.directives
    (fun _ => Listing.definesOn_of_defines hconsts) (fun _ => Listing.definesOn_of_defines hlnotab)
  have hruns := hknown.assembleLines_ok_iff listing.linesBeforeCode listing.code Progress.initial
  rw [Session.assemble_fault, Assembly.assemble_snd]
  exact hruns

/-- The second line loads a constant that only the first line made one. -/
theorem Session.assemble_ok_iff_accepted_literal :
    let listing : Listing := { name := "literal", lines := ["load 7", "LOAD_CONST 7 again"] }
    (Session.start listing).declare.session.assemble.fault = none ∧
      Assembly.Accepted (Session.start listing).declare.session.assembly ["load 7"] "LOAD_CONST"
        ["7", "again"] := by
  intro listing
  have hok : (Session.start listing).declare.session.assemble.fault = none :=
    Option.isNone_iff_eq_none.mp (by decide +kernel)
  refine ⟨hok, ?_⟩
  exact (Session.assemble_ok_iff_accepted _ (by decide +kernel) (by decide +kernel)).mp hok
    ["load 7"] "LOAD_CONST 7 again" [] (by decide +kernel) "LOAD_CONST" ["7", "again"]
    (by decide +kernel)

end BytecodeAssembler
