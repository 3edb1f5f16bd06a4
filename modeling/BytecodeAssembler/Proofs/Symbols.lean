import BytecodeAssembler.Proofs.DirectiveStep
import BytecodeAssembler.Proofs.LineStep
import BytecodeAssembler.Proofs.Mnemonics

/-!
# Collections and tables that operands refer to

An operand of a constant, a global or a local is an index of a collection, given out by the symbol
table of its kind.  `Assembly.pool` and `Assembly.table` are the two by kind, and this module says
how they change:

* the pool of constants grows at its end and nowhere else (`Grows`), under directives as under code;
* the names of a kind are replaced as a whole by a directive that lists them.  Which list a run of
  directives leaves does not depend on the state it starts from (`declareLines_names`), so carrying
  the directives out again leaves the same one.
-/

namespace BytecodeAssembler

/-- The kind of operand that the operation with this number takes. -/
def Opcode.operandKind (number : Nat) : OperandKind :=
  match Opcode.table.find? fun e => e.2 == number with
  | some e => Mnemonic.operandKind e.1
  | none => .number

/-- The name and the number of an operation agree on its operand: no two operations share a number.
-/
theorem Opcode.operandKind_eq {name : String} {number : Nat}
    (h : Opcode.number? name = some number) :
    Opcode.operandKind number = Mnemonic.operandKind name := by
  have hall : ∀ e ∈ Opcode.table, Opcode.operandKind e.2 = Mnemonic.operandKind e.1 := by
    decide +kernel
  exact hall _ (Mnemonic.mem_of_lookup h)

theorem Opcode.operandKind_loadConst : Opcode.operandKind Opcode.loadConst = .constant :=
  rfl

theorem Opcode.operandKind_loadGlobal : Opcode.operandKind Opcode.loadGlobal = .global :=
  rfl

theorem Opcode.operandKind_loadFast : Opcode.operandKind Opcode.loadFast = .local :=
  rfl

theorem Opcode.operandKind_storeFast : Opcode.operandKind Opcode.storeFast = .local :=
  rfl

/-- A name has the number of a place that holds it, unless it was numbered before. -/
theorem SymbolTable.find?_addNames {names : List (Option Text)} {table : SymbolTable}
    {start i : Nat} {name : Text} (h : (table.addNames start names).find? name = some i) :
    table.find? name = some i ∨ ∃ k, i = start + k ∧ names[k]? = some (some name) := by
  induction names generalizing table start with
  | nil => exact .inl h
  | cons place names ih =>
    cases place with
    | none =>
      rcases ih h with hfound | ⟨k, hk, hname⟩
      · exact .inl hfound
      · exact .inr ⟨k + 1, by omega, hname⟩
    | some other =>
      rcases ih h with hfound | ⟨k, hk, hname⟩
      · rw [SymbolTable.find?_insert] at hfound
        by_cases hsame : other = name
        · rw [if_pos hsame, Option.some.injEq] at hfound
          exact .inr ⟨0, by omega, by simp [hsame]⟩
        · rw [if_neg hsame] at hfound
          exact .inl hfound
      · exact .inr ⟨k + 1, by omega, hname⟩

/-- A directive line that sets none of the three collections as a field. -/
structure Directive.KeepsPools (line : String) : Prop where
  constants : Directive.definesOn "consts" line = false
  globals : Directive.definesOn "names" line = false
  locals : Directive.definesOn "varnames" line = false

namespace Assembly

/-- The collection that operands of a kind are indices of. -/
def pool (a : Assembly) : OperandKind → Value
  | .constant => a.fields.constants
  | .global => a.fields.globalNames
  | .local => a.fields.localNames
  | .number => .none

/-- The table that gives out operands of a kind. -/
def table (a : Assembly) : OperandKind → SymbolTable
  | .constant => a.constantTable
  | .global => a.globalTable
  | .local => a.localTable
  | .number => .empty

/-- The entry that an index stands for as an operand of a kind. -/
def entryAt? (a : Assembly) (kind : OperandKind) (i : Nat) : Option Value :=
  (a.pool kind).items?.bind fun items => items[i]?

theorem entryAt?_congr {a b : Assembly} {kind : OperandKind} (h : b.pool kind = a.pool kind) :
    b.entryAt? kind = a.entryAt? kind := by
  funext i
  rw [entryAt?, h, entryAt?]

/-! ## Names and their places -/

/-- A table of names gives a name a place where it stands. -/
theorem getElem?_of_tableOf {vs : List Value} {name : Text} {i : Nat}
    (h : (tableOf vs).find? name = some i) : vs[i]? = some (.str name) := by
  rcases SymbolTable.find?_addNames h with hempty | ⟨k, hk, hname⟩
  · cases hempty
  · obtain rfl : i = k := by omega
    rw [List.getElem?_map, Option.map_eq_some_iff] at hname
    obtain ⟨v, hv, htext⟩ := hname
    cases v with
    | str t =>
      rw [Value.text?, Option.some.injEq] at htext
      rw [hv, htext]
    | _ => cases htext

/-! ## Growth of the pool -/

/-- Constants stay where they are when the pool grows at its end. -/
theorem entryAt?_of_append {a b : Assembly} {items more : List Value} {i : Nat} {e : Value}
    (ha : a.pool .constant = .list items) (hb : b.pool .constant = .list (items ++ more))
    (he : a.entryAt? .constant i = some e) : b.entryAt? .constant i = some e := by
  simp only [entryAt?, ha, Value.items?, Option.bind_some] at he
  obtain ⟨hi, -⟩ := List.getElem?_eq_some_iff.mp he
  simp only [entryAt?, hb, Value.items?, Option.bind_some]
  rw [List.getElem?_append_left hi, he]

/-- The pool of constants was a list and has grown at its end, and other kinds are as they were. -/
structure Grows (a b : Assembly) : Prop where
  constants : ∃ items more, a.pool .constant = .list items ∧
    b.pool .constant = .list (items ++ more)
  names : ∀ kind, kind ≠ .constant → b.pool kind = a.pool kind ∧ b.table kind = a.table kind

theorem Grows.refl {a : Assembly} {items : List Value} (h : a.pool .constant = .list items) :
    Grows a a :=
  ⟨⟨items, [], h, by rw [h, List.append_nil]⟩, fun _ _ => ⟨rfl, rfl⟩⟩

theorem Grows.trans {a b c : Assembly} (hab : Grows a b) (hbc : Grows b c) : Grows a c where
  constants := by
    obtain ⟨items, more, ha, hb⟩ := hab.constants
    obtain ⟨items', more', hb', hc⟩ := hbc.constants
    obtain rfl : items ++ more = items' := Value.list.inj (hb.symm.trans hb')
    exact ⟨items, more ++ more', ha, by rw [hc, List.append_assoc]⟩
  names := fun kind hk => ⟨(hbc.names kind hk).1.trans (hab.names kind hk).1,
    (hbc.names kind hk).2.trans (hab.names kind hk).2⟩

/-- Entries stay where they are. -/
theorem Grows.entryAt? {a b : Assembly} (h : Grows a b) {kind : OperandKind} {i : Nat} {e : Value}
    (he : a.entryAt? kind i = some e) : b.entryAt? kind i = some e := by
  by_cases hk : kind = .constant
  · subst hk
    obtain ⟨items, more, ha, hb⟩ := h.constants
    exact entryAt?_of_append ha hb he
  · rw [entryAt?_congr (h.names kind hk).1, he]

/-- Resolving an operand lets the pool grow by one number at most. -/
theorem grows_of_resolve {a a' : Assembly} {mnemonic : Mnemonic} {operands : List String}
    {items : List Item} {entries : List Value} (hlist : a.pool .constant = .list entries)
    (h : a.resolve mnemonic operands = .ok (items, a')) : Grows a a' := by
  rcases resolve_ok_cases h with rfl | ⟨word, rest, v, pool, -, -, -, -, -, hpool, rfl⟩
  · exact Grows.refl hlist
  · refine ⟨⟨pool, [v], hpool, rfl⟩, fun kind hk => ?_⟩
    cases kind with
    | constant => exact absurd rfl hk
    | _ => exact ⟨rfl, rfl⟩

theorem grows_of_step {before : Nat} {line : String} {a a' : Assembly} {p p' : Progress}
    {f : Option Fault} {entries : List Value} (hlist : a.pool .constant = .list entries)
    (hs : LineStep before line a p (a', p', f)) : Grows a a' := by
  have hsame : Grows a a := Grows.refl hlist
  have hplaced : Grows a (a.placed before p) :=
    ⟨hsame.constants, fun kind _ => by cases kind <;> exact ⟨rfl, rfl⟩⟩
  -- Neither the line table nor the code is among the collections.
  have hlines : ∀ {b : Assembly} {table first : Value} {items : List Item}, Grows a b →
      Grows a ((b.withLines table first).addCode items) := by
    rintro b table first items ⟨hconstants, hnames⟩
    refine ⟨hconstants, fun kind hk => ?_⟩
    have hkind := hnames kind hk
    cases kind <;> exact hkind
  cases hs with
  | gap hi => exact hsame
  | unknown hi hm => exact hplaced
  | unresolved hi hm hr => exact hplaced
  | unlisted hi hm hr hl => exact hlines (grows_of_resolve hlist hr)
  | emits hi hm hr hl => exact hlines (grows_of_resolve hlist hr)

/-- Code lets the pool grow, and leaves the names. -/
theorem grows_assembleLines {before : Nat} {lines : List String} {a b : Assembly} {p q : Progress}
    {f : Option Fault} {entries : List Value} (hlist : a.pool .constant = .list entries)
    (h : assembleLines before lines a p = (b, q, f)) : Grows a b := by
  apply assembleLines_invariant (P := fun c _ => Grows a c) _ h (Grows.refl hlist)
  intro line _ c p c' p' g hc hs
  obtain ⟨items, more, -, hlist'⟩ := hc.constants
  exact hc.trans (grows_of_step hlist' hs)

/-! ## Directives -/

/-- Setting another field leaves the collections. -/
theorem pool_set {line value : String} {field : Field} {v : Value} (a : Assembly)
    (hline : Directive.KeepsPools line)
    (hd : Directive.ofLine? line = some (.field field.word value)) :
    ({ a with fields := a.fields.set field v } : Assembly).pool = a.pool := by
  have hne : ∀ word, Directive.definesOn word line = false → field.word ≠ word := by
    rintro word hword rfl
    simp [Directive.definesOn, hd] at hword
  have hc := hne _ hline.constants
  have hg := hne _ hline.globals
  have hl := hne _ hline.locals
  funext kind
  cases field <;> simp_all [Field.word] <;> cases kind <;> rfl

/-- What a run of directives leaves as the names of a kind: those it found, or a list of its own. -/
def LeavesNames (names? : Option (List Value)) (kind : OperandKind) (a b : Assembly) : Prop :=
  match names? with
  | none => b.pool kind = a.pool kind ∧ b.table kind = a.table kind
  | some vs => b.pool kind = .tuple vs ∧ b.table kind = tableOf vs

/-- Whether a directive succeeds, and what it does to the names of a kind, depends on its line only,
as long as the pool of constants is a list. -/
theorem declareLine_names {kind : OperandKind} (hk : kind ≠ .constant) {line : String}
    (hline : Directive.KeepsPools line) :
    (∀ (a : Assembly) items, a.pool .constant = .list items → ∃ f, a.declareLine line = .error f) ∨
      ∃ names?, ∀ (a : Assembly) items, a.pool .constant = .list items → ∃ b items',
        a.declareLine line = .ok b ∧ b.pool .constant = .list items' ∧
          LeavesNames names? kind a b := by
  cases hd : Directive.ofLine? line with
  | none =>
    refine .inr ⟨none, fun a items ha => ⟨a, items, ?_, ha, rfl, rfl⟩⟩
    rw [declareLine, hd]
  | some directive =>
    simp only [declareLine, hd, declare]
    cases directive with
    | field word value =>
      cases hf : Field.ofWord? word with
      | none =>
        exact .inl fun a _ _ => ⟨.report (.unknownField word), by simp only [declareField, hf]⟩
      | some field =>
        cases hv : Literal.read value with
        | error e => exact .inl fun a _ _ => ⟨.literal e, by simp only [declareField, hf, hv]⟩
        | ok v =>
          rw [(Field.ofWord?_eq_some_iff word field).mp hf] at hd
          refine .inr ⟨none, fun a items ha => ⟨{ a with fields := a.fields.set field v }, items,
            by simp only [declareField, hf, hv], ?_⟩⟩
          rw [LeavesNames, pool_set a hline hd]
          refine ⟨ha, rfl, ?_⟩
          cases kind <;> rfl
    | constant name value =>
      cases hv : Literal.read value with
      | error e => exact .inl fun a _ _ => ⟨.literal e, by simp only [declareConstant, hv]⟩
      | ok v =>
        refine .inr ⟨none, fun a items ha => ?_⟩
        obtain ⟨more, i, -, hp, -⟩ := Pool.declare_list items v
        have hp' : Pool.declare a.fields.constants v = .ok (.list (items ++ more), i) := by
          rw [← hp, ← ha]
          rfl
        refine ⟨{ a with
            fields := { a.fields with constants := .list (items ++ more) }
            constantTable := a.constantTable.insert (Text.ofString name) i },
          items ++ more, by simp only [declareConstant, hv, hp'], rfl, ?_⟩
        cases kind with
        | constant => exact absurd rfl hk
        | _ => exact ⟨rfl, rfl⟩
    | globals names =>
      cases hn : namesOf names with
      | error f => exact .inl fun a _ _ => ⟨f, by simp only [declareGlobals, hn]⟩
      | ok vs =>
        refine .inr ⟨if kind = .global then some vs else none, fun a items ha =>
          ⟨{ a with
              fields := { a.fields with globalNames := .tuple vs }
              globalTable := tableOf vs },
            items, by simp only [declareGlobals, hn], ha, ?_⟩⟩
        cases kind with
        | constant => exact absurd rfl hk
        | _ => exact ⟨rfl, rfl⟩
    | locals names =>
      cases hn : namesOf names with
      | error f => exact .inl fun a _ _ => ⟨f, by simp only [declareLocals, hn]⟩
      | ok vs =>
        refine .inr ⟨if kind = .local then some vs else none, fun a items ha =>
          ⟨{ a with
              fields := { a.fields with localNames := .tuple vs }
              localTable := tableOf vs },
            items, by simp only [declareLocals, hn], ha, ?_⟩⟩
        cases kind with
        | constant => exact absurd rfl hk
        | _ => exact ⟨rfl, rfl⟩

/-- **The names that a run of directives leaves** do not depend on the state it starts from, unless
it leaves those that it found. -/
theorem declareLines_names {kind : OperandKind} (hk : kind ≠ .constant) {lines : List String}
    (hlines : ∀ line ∈ lines, Directive.KeepsPools line) :
    ∃ names?, ∀ (a : Assembly) items, a.pool .constant = .list items →
      LeavesNames names? kind a (declareLines lines a).1 := by
  induction lines with
  | nil => exact ⟨none, fun _ _ _ => ⟨rfl, rfl⟩⟩
  | cons line rest ih =>
    obtain ⟨later?, hlater⟩ := ih fun l hl => hlines l (List.mem_cons_of_mem _ hl)
    rcases declareLine_names hk (hlines line List.mem_cons_self) with hfail | ⟨names?, hok⟩
    · refine ⟨none, fun a items ha => ?_⟩
      obtain ⟨f, hf⟩ := hfail a items ha
      rw [declareLines, hf]
      exact ⟨rfl, rfl⟩
    · refine ⟨later? <|> names?, fun a items ha => ?_⟩
      obtain ⟨b, items', hb, hlist, hnames⟩ := hok a items ha
      have hrest := hlater b items' hlist
      rw [declareLines, hb]
      cases later? with
      | some vs => exact hrest
      | none =>
        cases names? with
        | some vs => exact ⟨hrest.1.trans hnames.1, hrest.2.trans hnames.2⟩
        | none => exact ⟨hrest.1.trans hnames.1, hrest.2.trans hnames.2⟩

end Assembly

end BytecodeAssembler
