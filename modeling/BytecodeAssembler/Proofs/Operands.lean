import BytecodeAssembler.Proofs.Calls
import BytecodeAssembler.Proofs.Symbols

/-!
# What emitted operands refer to

An operand that is an index was right when it was emitted, and it stays right: whatever calls
follow, in any order and whether they fail or not, the same entry stands at that index (`Sound`).

The states alone do not tell what was meant, so a log goes along with the calls.  It keeps the
constants that directives declared, the latest first, and the items that were emitted, each with the
entry that its operand referred to at that time.  `Sound` compares a state with the log that led to
it; it holds of a fresh session, every call keeps it, and so it holds in every state that calls
reach.
-/

namespace BytecodeAssembler

/-- Whether the operand of an item is an index. -/
def Item.isIndexed (item : Item) : Bool :=
  item.operand.isSome && Opcode.operandKind item.opcode != .number

/-- An item that was emitted, with the entry that its operand referred to at that time. -/
structure Emission where
  item : Item
  referent : Option Value

/-- What is remembered along a list of calls. -/
structure Log where
  /-- The constants that directives declared, the latest first. -/
  declared : List (String × Value)
  /-- What was emitted, in order. -/
  emitted : List Emission

/-- The log of a fresh session. -/
def Log.empty : Log :=
  ⟨[], []⟩

namespace Assembly

/-! ## The log -/

/-- The entry that the operand of an item refers to. -/
def referent? (a : Assembly) (item : Item) : Option Value :=
  match item.operand with
  | some (.ofNat i) => a.entryAt? (Opcode.operandKind item.opcode) i
  | _ => none

/-- What a line emits; the entries are those of the state once its operand is resolved. -/
def emissions (a : Assembly) (line : String) : List Emission :=
  match instruction? line with
  | none => []
  | some (word, operands) =>
    match Mnemonic.ofWord? word with
    | none => []
    | some mnemonic =>
      match a.resolve mnemonic operands with
      | .error _ => []
      | .ok (items, a') => items.map fun item => ⟨item, a'.referent? item⟩

/-- The log after a directive line that succeeded. -/
def logDirective (line : String) (log : Log) : Log :=
  match Directive.ofLine? line with
  | some (.constant name value) =>
    match Literal.read value with
    | .ok v => { log with declared := (name, v) :: log.declared }
    | .error _ => log
  | _ => log

/-- The log after directive lines, up to the first fault. -/
def logDirectives : List String → Assembly → Log → Log
  | [], _, log => log
  | line :: rest, a, log =>
    match a.declareLine line with
    | .ok a' => logDirectives rest a' (logDirective line log)
    | .error _ => log

/-- The log after code lines, up to the first fault; what the line of the fault emitted counts. -/
def logLines (before : Nat) : List String → Assembly → Progress → Log → Log
  | [], _, _, log => log
  | line :: rest, a, p, log =>
    let log := { log with emitted := log.emitted ++ a.emissions line }
    match a.assembleLine before line p with
    | (a', p', none) => logLines before rest a' p' log
    | (_, _, some _) => log

end Assembly

namespace Session

/-- The log after a call. -/
def logCall (s : Session) (log : Log) : Call → Log
  | .declare => Assembly.logDirectives s.listing.directives s.assembly log
  | .assemble =>
    Assembly.logLines s.listing.linesBeforeCode s.listing.code s.assembly Progress.initial log

/-- The log after some calls. -/
def logCalls (s : Session) (log : Log) : List Call → Log
  | [] => log
  | c :: cs => (s.call c).logCalls (s.logCall log c) cs

end Session

/-! ## Soundness -/

namespace Assembly

/-- What a constant under a name has to equal: what a directive declared it last, or else `None`
under that name, or else the number that the name denotes. -/
def Means (declared : List (String × Value)) (word : String) (e : Value) : Prop :=
  match declared.lookup word with
  | some v => e.same v = true
  | none => if word = "None" then e = .none else ∃ v, DenotesNumber word v ∧ e.same v = true

/-- Every name of a constant has the index of a constant that equals what it means. -/
def ConstantsMean (declared : List (String × Value)) (a : Assembly) : Prop :=
  ∀ t i, (a.table .constant).find? t = some i →
    ∃ word e, t = Text.ofString word ∧ a.entryAt? .constant i = some e ∧ Means declared word e

/-- **Soundness of operands** in a state, by the log that led to it. -/
structure Sound (log : Log) (a : Assembly) : Prop where
  /-- The first constant is `None`. -/
  first : a.entryAt? .constant 0 = some .none
  constants : ConstantsMean log.declared a
  /-- The name of a global stands at its index. -/
  globals : ∀ t i, a.globalTable.find? t = some i → a.entryAt? .global i = some (.str t)
  /-- The name of a local stands at its index. -/
  locals : ∀ t i, a.localTable.find? t = some i → a.entryAt? .local i = some (.str t)
  /-- An operand that is an index refers to an entry, and to the one it was emitted for. -/
  emitted : ∀ m ∈ log.emitted, m.item.isIndexed = true →
    ∃ e, m.referent = some e ∧ a.referent? m.item = some e
  /-- The code is what was emitted. -/
  code : a.code = Item.allNumbers (log.emitted.map Emission.item)

/-! ## Items are given out by the tables -/

/-- The operand of an item is the index that the table of its kind gives to some name. -/
def Tabled (a : Assembly) (item : Item) : Prop :=
  ∃ t, ∃ i : Nat, item.operand = some (i : Int) ∧
    (a.table (Opcode.operandKind item.opcode)).find? t = some i

theorem tabled_of_loadNumber {a a' : Assembly} {word : String} {otherwise : Report} {item : Item}
    (h : a.loadNumber word otherwise = .ok (item, a')) : Tabled a' item := by
  obtain ⟨v, pool, -, -, rfl, rfl⟩ := loadNumber_ok_iff.mp h
  refine ⟨Text.ofString word, _, rfl, ?_⟩
  rw [Opcode.operandKind_loadConst]
  show (a.constantTable.insert _ _).find? _ = _
  rw [SymbolTable.find?_insert, if_pos rfl]

theorem tabled_of_loadForReturn {a a' : Assembly} {word : String} {item : Item}
    (h : a.loadForReturn word = .ok (item, a')) : Tabled a' item := by
  rcases loadForReturn_ok_cases h with ⟨i, hi, rfl, rfl⟩ | ⟨i, hi, rfl, rfl⟩ | ⟨-, -, hn⟩
  · exact ⟨_, i, rfl, by rw [Opcode.operandKind_loadConst]; exact hi⟩
  · exact ⟨_, i, rfl, by rw [Opcode.operandKind_loadFast]; exact hi⟩
  · exact tabled_of_loadNumber hn

theorem tabled_of_loadForLoad {a a' : Assembly} {word : String} {item : Item}
    (h : a.loadForLoad word = .ok (item, a')) : Tabled a' item := by
  rcases loadForLoad_ok_cases h with
    ⟨i, hi, rfl, rfl⟩ | ⟨i, hi, rfl, rfl⟩ | ⟨i, hi, rfl, rfl⟩ | ⟨-, -, -, hn⟩
  · exact ⟨_, i, rfl, by rw [Opcode.operandKind_loadConst]; exact hi⟩
  · exact ⟨_, i, rfl, by rw [Opcode.operandKind_loadFast]; exact hi⟩
  · exact ⟨_, i, rfl, by rw [Opcode.operandKind_loadGlobal]; exact hi⟩
  · exact tabled_of_loadNumber hn

/-- The operand of an operation is a number, or comes from the table of its kind. -/
theorem operand_ok_cases {a : Assembly} {name word : String} {n : Int}
    (h : a.operand name word = .ok n) :
    Mnemonic.operandKind name = .number ∨
      ∃ i : Nat, n = i ∧
        (a.table (Mnemonic.operandKind name)).find? (Text.ofString word) = some i := by
  -- The three tables are looked up in the same way.
  have hlookup : ∀ table : SymbolTable, (lookup table word).map Int.ofNat = .ok n →
      ∃ i : Nat, n = i ∧ table.find? (Text.ofString word) = some i := by
    intro table hl
    obtain ⟨i, hi, rfl⟩ := map_eq_ok hl
    exact ⟨i, rfl, lookup_eq_ok_iff.mp hi⟩
  unfold operand at h
  cases hk : Mnemonic.operandKind name with
  | constant =>
    rw [hk] at h
    exact .inr (hlookup _ h)
  | global =>
    rw [hk] at h
    exact .inr (hlookup _ h)
  | «local» =>
    rw [hk] at h
    exact .inr (hlookup _ h)
  | number => exact .inl rfl

/-- **Items whose operand is an index** have it from the table of their kind. -/
theorem tabled_of_resolve {a a' : Assembly} {word : String} {mnemonic : Mnemonic}
    {operands : List String} {items : List Item} (hm : Mnemonic.ofWord? word = some mnemonic)
    (h : a.resolve mnemonic operands = .ok (items, a')) {item : Item} (hmem : item ∈ items)
    (hindexed : item.isIndexed = true) : Tabled a' item := by
  -- An item without an operand has no index.
  have hbare : ∀ number, item ≠ ⟨number, none⟩ := by
    rintro number rfl
    cases hindexed
  cases mnemonic with
  | operation name number =>
    cases operands with
    | nil =>
      obtain ⟨rfl, rfl⟩ := Prod.mk.inj (Except.ok.inj h)
      exact absurd (List.mem_singleton.mp hmem) (hbare number)
    | cons t rest =>
      rw [resolve_operation] at h
      obtain ⟨n, hn, heq⟩ := map_eq_ok h
      obtain ⟨rfl, rfl⟩ := Prod.mk.inj heq
      obtain rfl := List.mem_singleton.mp hmem
      cases Mnemonic.ofWord?_eq_some_iff.mp hm with
      | operation hnumber =>
        have hkind := Opcode.operandKind_eq hnumber
        rcases operand_ok_cases hn with hplain | ⟨i, rfl, hi⟩
        · simp [Item.isIndexed, hkind, hplain] at hindexed
        · exact ⟨_, i, rfl, by rw [hkind]; exact hi⟩
  | store =>
    cases operands with
    | nil => cases h
    | cons t rest =>
      rw [resolve_store] at h
      obtain ⟨i, hi, heq⟩ := map_eq_ok h
      obtain ⟨rfl, rfl⟩ := Prod.mk.inj heq
      obtain rfl := List.mem_singleton.mp hmem
      exact ⟨_, i, rfl, by rw [Opcode.operandKind_storeFast]; exact lookup_eq_ok_iff.mp hi⟩
  | ret =>
    cases operands with
    | nil => cases h
    | cons t rest =>
      rw [resolve_ret] at h
      obtain ⟨⟨first, b⟩, hr, heq⟩ := map_eq_ok h
      obtain ⟨rfl, rfl⟩ := Prod.mk.inj heq
      rcases List.mem_cons.mp hmem with rfl | hmem
      · exact tabled_of_loadForReturn hr
      · exact absurd (List.mem_singleton.mp hmem) (hbare _)
  | load =>
    cases operands with
    | nil => cases h
    | cons t rest =>
      rw [resolve_load] at h
      obtain ⟨⟨first, b⟩, hr, heq⟩ := map_eq_ok h
      obtain ⟨rfl, rfl⟩ := Prod.mk.inj heq
      obtain rfl := List.mem_singleton.mp hmem
      exact tabled_of_loadForLoad hr
  | println =>
    obtain ⟨rfl, rfl⟩ := Prod.mk.inj (Except.ok.inj h)
    rcases List.mem_cons.mp hmem with heq | hmem
    · exact absurd heq (hbare _)
    · exact absurd (List.mem_singleton.mp hmem) (hbare _)
  | binary number =>
    obtain ⟨rfl, rfl⟩ := Prod.mk.inj (Except.ok.inj h)
    exact absurd (List.mem_singleton.mp hmem) (hbare number)
  | unary number =>
    obtain ⟨rfl, rfl⟩ := Prod.mk.inj (Except.ok.inj h)
    exact absurd (List.mem_singleton.mp hmem) (hbare number)

/-! ## Constants -/

/-- What directives and code lines keep of the constants. -/
structure KeptConstants (declared : List (String × Value)) (a : Assembly) : Prop where
  pool : ∃ items, a.pool .constant = .list (.none :: items)
  mean : ConstantsMean declared a
  /-- What was declared is in the table, and so is `None`. -/
  listed : ∀ word, (declared.lookup word).isSome = true ∨ word = "None" →
    (a.table .constant).Has word

theorem Means.congr {declared declared' : List (String × Value)} {word : String} {e : Value}
    (hlookup : declared'.lookup word = declared.lookup word) (h : Means declared word e) :
    Means declared' word e := by
  unfold Means at h ⊢
  rw [hlookup]
  exact h

theorem KeptConstants.congr {declared : List (String × Value)} {a b : Assembly}
    (h : KeptConstants declared a) (hp : b.pool .constant = a.pool .constant)
    (ht : b.table .constant = a.table .constant) : KeptConstants declared b where
  pool := hp ▸ h.pool
  mean := by
    intro t i hi
    rw [ht] at hi
    obtain ⟨word, e, hword, he, hmeans⟩ := h.mean t i hi
    exact ⟨word, e, hword, by rw [entryAt?_congr hp, he], hmeans⟩
  listed := ht ▸ h.listed

/-- A word becomes the name of a constant, at an index where the constant means it. -/
theorem KeptConstants.insert {declared declared' : List (String × Value)} {a b : Assembly}
    {word : String} {i : Nat} {e : Value} {items more : List Value} (h : KeptConstants declared a)
    (ha : a.pool .constant = .list items) (hb : b.pool .constant = .list (items ++ more))
    (ht : b.table .constant = (a.table .constant).insert (Text.ofString word) i)
    (he : (items ++ more)[i]? = some e) (hword : Means declared' word e)
    (hother : ∀ w, w ≠ word → declared'.lookup w = declared.lookup w) :
    KeptConstants declared' b where
  pool := by
    obtain ⟨rest, hrest⟩ := h.pool
    obtain rfl := Value.list.inj (ha.symm.trans hrest)
    exact ⟨rest ++ more, hb⟩
  mean := by
    intro t j hj
    rw [ht, SymbolTable.find?_insert] at hj
    by_cases hsame : Text.ofString word = t
    · rw [if_pos hsame, Option.some.injEq] at hj
      refine ⟨word, e, hsame.symm, ?_, hword⟩
      rw [entryAt?, hb, ← hj]
      exact he
    · rw [if_neg hsame] at hj
      obtain ⟨w, e', rfl, he', hmeans⟩ := h.mean t j hj
      have hne : w ≠ word := fun heq => hsame (congrArg Text.ofString heq.symm)
      exact ⟨w, e', rfl, entryAt?_of_append ha hb he', hmeans.congr (hother w hne)⟩
  listed := by
    intro w hw
    rw [ht, SymbolTable.has_insert_iff]
    by_cases heq : word = w
    · exact .inl heq
    · rw [hother w fun h => heq h.symm] at hw
      exact .inr (h.listed w hw)

/-- The constants of a fresh session. -/
theorem keptConstants_initial : KeptConstants [] initial where
  pool := ⟨[], rfl⟩
  mean := by
    intro t i hi
    change (SymbolTable.empty.insert (Text.ofString "None") 0).find? t = some i at hi
    rw [SymbolTable.find?_insert] at hi
    by_cases hsame : Text.ofString "None" = t
    · rw [if_pos hsame, Option.some.injEq] at hi
      subst hi
      exact ⟨"None", .none, hsame.symm, rfl, rfl⟩
    · rw [if_neg hsame] at hi
      cases hi
  listed := by
    rintro word (hw | rfl)
    · cases hw
    · exact ⟨0, by decide +kernel⟩

/-- A directive keeps the constants, with what it declared in the log. -/
theorem KeptConstants.directive {log : Log} {a a' : Assembly} {line : String}
    (h : KeptConstants log.declared a) (hline : Directive.KeepsPools line)
    (hs : DirectiveStep line a a') : KeptConstants (logDirective line log).declared a' := by
  cases hs with
  | skip hd =>
    have hlog : logDirective line log = log := by simp only [logDirective, hd]
    rw [hlog]
    exact h
  | field hd hv =>
    have hlog : logDirective line log = log := by simp only [logDirective, hd]
    rw [hlog]
    exact h.congr (congrFun (pool_set a hline hd) .constant) rfl
  | @constant name value v pool index hd hv hp =>
    have hlog : (logDirective line log).declared = (name, v) :: log.declared := by
      simp only [logDirective, hd, hv]
    obtain ⟨items, hitems⟩ := h.pool
    obtain ⟨more, i, e, hgrown, he, hsame⟩ := Pool.declare_list (.none :: items) v
    rw [show a.fields.constants = _ from hitems, hgrown] at hp
    obtain ⟨rfl, rfl⟩ := Prod.mk.inj (Except.ok.inj hp)
    rw [hlog]
    have hmeans : Means ((name, v) :: log.declared) name e := by
      simpa [Means, List.lookup_cons] using hsame
    apply h.insert hitems rfl rfl he hmeans
    intro w hw
    rw [List.lookup_cons, beq_false_of_ne hw]
  | globals hd hn =>
    have hlog : logDirective line log = log := by simp only [logDirective, hd]
    rw [hlog]
    exact h.congr rfl rfl
  | locals hd hn =>
    have hlog : logDirective line log = log := by simp only [logDirective, hd]
    rw [hlog]
    exact h.congr rfl rfl

theorem logDirectives_emitted (lines : List String) (a : Assembly) (log : Log) :
    (logDirectives lines a log).emitted = log.emitted := by
  induction lines generalizing a log with
  | nil => rfl
  | cons line rest ih =>
    rw [logDirectives]
    cases a.declareLine line with
    | error f => rfl
    | ok b =>
      rw [ih]
      unfold logDirective
      split
      · split <;> rfl
      · rfl

/-- A run of directives keeps the constants. -/
theorem KeptConstants.directives {lines : List String} {log : Log} {a : Assembly}
    (h : KeptConstants log.declared a) (hlines : ∀ line ∈ lines, Directive.KeepsPools line) :
    KeptConstants (logDirectives lines a log).declared (declareLines lines a).1 := by
  induction lines generalizing a log with
  | nil => exact h
  | cons line rest ih =>
    rw [logDirectives, declareLines]
    cases hl : a.declareLine line with
    | error f => exact h
    | ok b =>
      apply ih (h.directive (hlines line List.mem_cons_self) (declareLine_step hl))
      exact fun l hmem => hlines l (List.mem_cons_of_mem _ hmem)

/-- Resolving an operand keeps the constants. -/
theorem KeptConstants.resolve {declared : List (String × Value)} {a a' : Assembly}
    {mnemonic : Mnemonic} {operands : List String} {items : List Item}
    (h : KeptConstants declared a) (hr : a.resolve mnemonic operands = .ok (items, a')) :
    KeptConstants declared a' := by
  rcases resolve_ok_cases hr with rfl | ⟨word, rest, v, pool, -, hv, hnone, -, -, hpool, rfl⟩
  · exact h
  · obtain ⟨e, he, hsame⟩ := Pool.append_index pool v
    have hnew : ¬ (a.table .constant).Has word := SymbolTable.find?_eq_none_iff.mp hnone
    have hlookup : declared.lookup word = none := by
      rw [← Option.not_isSome_iff_eq_none]
      exact fun hsome => hnew (h.listed word (.inl hsome))
    have hne : word ≠ "None" := fun heq => hnew (h.listed word (.inr heq))
    have hmeans : Means declared word e := by
      simp only [Means, hlookup, if_neg hne]
      exact ⟨v, hv, hsame⟩
    exact h.insert hpool rfl rfl he hmeans fun _ _ => rfl

/-! ## The whole state -/

/-- The names of a kind: none were listed yet, or they are those that the directives leave. -/
def NamesAt (names? : Option (List Value)) (kind : OperandKind) (a : Assembly) : Prop :=
  ((∀ i, a.entryAt? kind i = none) ∧ a.table kind = .empty) ∨
    ∃ vs, names? = some vs ∧ a.pool kind = .tuple vs ∧ a.table kind = tableOf vs

theorem NamesAt.congr {names? : Option (List Value)} {kind : OperandKind} {a b : Assembly}
    (h : NamesAt names? kind a) (hp : b.pool kind = a.pool kind)
    (ht : b.table kind = a.table kind) : NamesAt names? kind b := by
  have he : b.entryAt? kind = a.entryAt? kind := entryAt?_congr hp
  rw [NamesAt, he, hp, ht]
  exact h

/-- **What every call keeps**, where the directives leave the names `names?`. -/
structure Kept (names? : OperandKind → Option (List Value)) (log : Log) (a : Assembly) : Prop where
  constants : KeptConstants log.declared a
  names : ∀ kind, kind ≠ .constant → NamesAt (names? kind) kind a
  emitted : ∀ m ∈ log.emitted, m.item.isIndexed = true →
    ∃ e, m.referent = some e ∧ a.referent? m.item = some e
  code : a.code = Item.allNumbers (log.emitted.map Emission.item)

/-- A name stands where the table of its kind says. -/
theorem NamesAt.entryAt? {names? : Option (List Value)} {kind : OperandKind} {a : Assembly}
    (h : NamesAt names? kind a) {t : Text} {i : Nat} (hi : (a.table kind).find? t = some i) :
    a.entryAt? kind i = some (.str t) := by
  rcases h with ⟨-, hempty⟩ | ⟨vs, -, hpool, htable⟩
  · rw [hempty] at hi
    cases hi
  · rw [htable] at hi
    rw [Assembly.entryAt?, hpool]
    exact getElem?_of_tableOf hi

section Kept

variable {names? : OperandKind → Option (List Value)} {log : Log}

theorem Kept.sound {a : Assembly} (h : Kept names? log a) : Sound log a where
  first := by
    obtain ⟨items, hitems⟩ := h.constants.pool
    rw [entryAt?, hitems]
    rfl
  constants := h.constants.mean
  globals := fun _ _ hi => (h.names .global (by decide)).entryAt? hi
  locals := fun _ _ hi => (h.names .local (by decide)).entryAt? hi
  emitted := h.emitted
  code := h.code

/-- An operand that a table gives out refers to an entry. -/
theorem Kept.referent {a : Assembly} (h : Kept names? log a) {item : Item} (hitem : Tabled a item) :
    ∃ e, a.referent? item = some e := by
  obtain ⟨t, i, hoperand, hi⟩ := hitem
  have hreferent : a.referent? item = a.entryAt? (Opcode.operandKind item.opcode) i := by
    simp only [referent?, hoperand]
  rw [hreferent]
  by_cases hk : Opcode.operandKind item.opcode = .constant
  · rw [hk] at hi ⊢
    obtain ⟨word, e, -, he, -⟩ := h.constants.mean t i hi
    exact ⟨e, he⟩
  · exact ⟨_, (h.names _ hk).entryAt? hi⟩

/-- Another state with the same collections, tables and code. -/
theorem Kept.congr {a b : Assembly} (h : Kept names? log a) (hp : b.pool = a.pool)
    (ht : b.table = a.table) (hc : b.code = a.code) : Kept names? log b := by
  have hr : b.referent? = a.referent? := by
    funext item
    unfold referent?
    split
    · rw [entryAt?_congr (congrFun hp _)]
    · rfl
  refine ⟨h.constants.congr (congrFun hp _) (congrFun ht _), ?_, ?_, hc.trans h.code⟩
  · exact fun kind hk => (h.names kind hk).congr (congrFun hp kind) (congrFun ht kind)
  · rw [hr]
    exact h.emitted

/-! ## Code lines -/

/-- Where entries stay, what operands refer to stays. -/
theorem referent?_of_entries {a b : Assembly}
    (h : ∀ kind i e, a.entryAt? kind i = some e → b.entryAt? kind i = some e) {item : Item}
    {e : Value} (he : a.referent? item = some e) : b.referent? item = some e := by
  unfold referent? at he ⊢
  split at he
  · exact h _ _ _ he
  · cases he

/-- Resolving an operand emits nothing yet. -/
theorem Kept.resolve {a a' : Assembly} {mnemonic : Mnemonic} {operands : List String}
    {items : List Item} (h : Kept names? log a)
    (hr : a.resolve mnemonic operands = .ok (items, a')) : Kept names? log a' := by
  obtain ⟨entries, hlist⟩ := h.constants.pool
  have hgrows := grows_of_resolve hlist hr
  refine ⟨h.constants.resolve hr, ?_, ?_, (resolve_code hr).trans h.code⟩
  · intro kind hk
    obtain ⟨hpool, htable⟩ := hgrows.names kind hk
    exact (h.names kind hk).congr hpool htable
  · intro m hm hindexed
    obtain ⟨e, hthen, hnow⟩ := h.emitted m hm hindexed
    exact ⟨e, hthen, referent?_of_entries (fun _ _ _ => hgrows.entryAt?) hnow⟩

/-- Items whose operands come from the tables are added to the code and to the log. -/
theorem Kept.emit {a : Assembly} {items : List Item} (h : Kept names? log a)
    (hitems : ∀ item ∈ items, item.isIndexed = true → Tabled a item) :
    Kept names?
      { log with
        emitted := log.emitted ++ items.map fun item => ⟨item, a.referent? item⟩ }
      (a.addCode items) where
  constants := h.constants.congr rfl rfl
  names := h.names
  emitted := by
    intro m hm hindexed
    show ∃ e, m.referent = some e ∧ a.referent? m.item = some e
    rcases List.mem_append.mp hm with hold | hnew
    · exact h.emitted m hold hindexed
    · obtain ⟨item, hitem, rfl⟩ := List.mem_map.mp hnew
      obtain ⟨e, he⟩ := h.referent (hitems item hitem hindexed)
      exact ⟨e, he, he⟩
  code := by
    simp [addCode, h.code, Item.allNumbers, Function.comp_def]

/-- **One line of code** keeps what calls keep, whatever comes of it. -/
theorem Kept.line {before : Nat} {line : String} {a a' : Assembly} {p p' : Progress}
    {f : Option Fault} (h : Kept names? log a)
    (hs : LineStep before line a p (a', p', f)) :
    Kept names? { log with emitted := log.emitted ++ a.emissions line } a' := by
  cases hs with
  | gap hi =>
    have hnone : a.emissions line = [] := by simp only [emissions, hi]
    rw [hnone, List.append_nil]
    exact h
  | unknown hi hm =>
    have hnone : a.emissions line = [] := by simp only [emissions, hi, hm]
    rw [hnone, List.append_nil]
    exact h.congr rfl rfl rfl
  | unresolved hi hm hr =>
    have hnone : a.emissions line = [] := by simp only [emissions, hi, hm, hr]
    rw [hnone, List.append_nil]
    exact h.congr rfl rfl rfl
  | @unlisted word operands mnemonic items b hi hm hr hl =>
    simp only [emissions, hi, hm, hr]
    have hemit := (h.resolve hr).emit fun item hmem => tabled_of_resolve hm hr hmem
    exact hemit.congr rfl rfl rfl
  | @emits word operands mnemonic items b entries hi hm hr hl =>
    simp only [emissions, hi, hm, hr]
    have hemit := (h.resolve hr).emit fun item hmem => tabled_of_resolve hm hr hmem
    exact hemit.congr rfl rfl rfl

/-- **A run over code lines** keeps what calls keep. -/
theorem Kept.lines {before : Nat} {lines : List String} {a : Assembly} {p : Progress}
    (h : Kept names? log a) :
    Kept names? (logLines before lines a p log) (assembleLines before lines a p).1 := by
  induction lines generalizing a p log with
  | nil => exact h
  | cons line rest ih =>
    have hline := assembleLine_step before line a p
    rcases hr : a.assembleLine before line p with ⟨b, q, f⟩
    rw [hr] at hline
    simp only [logLines, assembleLines, hr]
    cases f with
    | none => exact ih (h.line hline)
    | some f => exact h.line hline

/-! ## Calls -/

/-- Carrying the directives out leaves the entries where they are: the pool grows at its end, and
names that were listed before are listed again. -/
theorem Kept.entry_stays {lines : List String} {a : Assembly} (h : Kept names? log a)
    (hlines : ∀ line ∈ lines, Directive.KeepsPools line)
    (hnames : ∀ kind, kind ≠ .constant →
      LeavesNames (names? kind) kind a (declareLines lines a).1)
    (kind : OperandKind) (i : Nat) (e : Value) (he : a.entryAt? kind i = some e) :
    (declareLines lines a).1.entryAt? kind i = some e := by
  by_cases hk : kind = .constant
  · subst hk
    obtain ⟨items, hitems⟩ := h.constants.pool
    obtain ⟨more, hmore⟩ := declareLines_constants (fun l hl => (hlines l hl).constants) hitems
    exact entryAt?_of_append hitems hmore he
  · have hleaves := hnames kind hk
    rcases h.names kind hk with ⟨hnone, -⟩ | ⟨vs, hvs, hpool, -⟩
    · rw [hnone i] at he
      cases he
    · rw [hvs] at hleaves
      rw [Assembly.entryAt?, hleaves.1, ← hpool]
      exact he

/-- **A run of directives** keeps what calls keep. -/
theorem Kept.directives {lines : List String} {a : Assembly} (h : Kept names? log a)
    (hlines : ∀ line ∈ lines, Directive.KeepsPools line)
    (hnames : ∀ kind, kind ≠ .constant →
      LeavesNames (names? kind) kind a (declareLines lines a).1) :
    Kept names? (logDirectives lines a log) (declareLines lines a).1 where
  constants := h.constants.directives hlines
  names := by
    intro kind hk
    have hleaves := hnames kind hk
    cases hvs : names? kind with
    | some vs =>
      rw [hvs] at hleaves
      exact .inr ⟨vs, rfl, hleaves⟩
    | none =>
      have hfound := h.names kind hk
      rw [hvs] at hleaves hfound
      exact hfound.congr hleaves.1 hleaves.2
  emitted := by
    rw [logDirectives_emitted]
    intro m hm hindexed
    obtain ⟨e, hthen, hnow⟩ := h.emitted m hm hindexed
    exact ⟨e, hthen, referent?_of_entries (h.entry_stays hlines hnames) hnow⟩
  code := by
    rw [logDirectives_emitted, declareLines_code]
    exact h.code

end Kept

theorem kept_initial (names? : OperandKind → Option (List Value)) :
    Kept names? Log.empty initial where
  constants := keptConstants_initial
  names := by
    intro kind hk
    left
    cases kind with
    | constant => exact absurd rfl hk
    | _ => exact ⟨fun _ => rfl, rfl⟩
  emitted := fun m hm => nomatch hm
  code := rfl

end Assembly

namespace Session

open Assembly

/-- Every call keeps what calls keep. -/
theorem kept_call {names? : OperandKind → Option (List Value)} {log : Log} {s : Session}
    (hlines : ∀ line ∈ s.listing.directives, Directive.KeepsPools line)
    (hnames : ∀ kind, kind ≠ .constant → ∀ (a : Assembly) items, a.pool .constant = .list items →
      LeavesNames (names? kind) kind a (declareLines s.listing.directives a).1)
    (h : Kept names? log s.assembly) (c : Call) :
    Kept names? (s.logCall log c) (s.call c).assembly := by
  cases c with
  | declare =>
    obtain ⟨items, hitems⟩ := h.constants.pool
    exact h.directives hlines fun kind hk => hnames kind hk s.assembly _ hitems
  | assemble =>
    have hrun : Kept names? (s.logCall log .assemble)
        (assembleLines s.listing.linesBeforeCode s.listing.code s.assembly Progress.initial).1 :=
      h.lines
    show Kept names? _ (s.assembly.assemble s.listing.linesBeforeCode s.listing.code).1
    rcases hr : assembleLines s.listing.linesBeforeCode s.listing.code s.assembly Progress.initial
      with ⟨b, p, f⟩
    rw [hr] at hrun
    cases f with
    | some f =>
      rw [assemble_of_fault hr]
      exact hrun
    | none =>
      rw [assemble_of_ok hr]
      exact hrun.congr rfl rfl rfl

theorem call_listing (s : Session) (c : Call) : (s.call c).listing = s.listing := by
  cases c <;> rfl

/-- So do any calls, one after the other. -/
theorem kept_calls {names? : OperandKind → Option (List Value)} {log : Log} {s : Session}
    (hlines : ∀ line ∈ s.listing.directives, Directive.KeepsPools line)
    (hnames : ∀ kind, kind ≠ .constant → ∀ (a : Assembly) items, a.pool .constant = .list items →
      LeavesNames (names? kind) kind a (declareLines s.listing.directives a).1)
    (h : Kept names? log s.assembly) (cs : List Call) :
    Kept names? (s.logCalls log cs) (s.calls cs).assembly := by
  induction cs generalizing s log with
  | nil => exact h
  | cons c cs ih =>
    have hnext := kept_call hlines hnames h c
    rw [← call_listing s c] at hlines hnames
    exact ih hlines hnames hnext

/-- **Operands stay sound.** Let no directive of a listing set the constants, the global names or
the local names as a field.  Then operands are sound in every state that calls on a fresh session
reach, in whatever order they come and whether or not they fail. -/
theorem operands_sound (listing : Listing) (hconsts : listing.defines "consts" = false)
    (hnames : listing.defines "names" = false) (hvarnames : listing.defines "varnames" = false)
    (cs : List Call) :
    Sound ((Session.start listing).logCalls Log.empty cs)
      ((Session.start listing).calls cs).assembly := by
  have hlines : ∀ line ∈ listing.directives, Directive.KeepsPools line := fun line hl =>
    ⟨Listing.definesOn_of_defines hconsts hl, Listing.definesOn_of_defines hnames hl,
      Listing.definesOn_of_defines hvarnames hl⟩
  -- What the directives leave as names is fixed once for all calls.
  have hleaves : ∀ kind : OperandKind, ∃ names?, kind ≠ .constant →
      ∀ (a : Assembly) items, a.pool .constant = .list items →
        LeavesNames names? kind a (declareLines listing.directives a).1 := by
    intro kind
    by_cases hk : kind = .constant
    · exact ⟨none, fun hne => absurd hk hne⟩
    · obtain ⟨names?, h⟩ := declareLines_names hk hlines
      exact ⟨names?, fun _ => h⟩
  obtain ⟨names?, hnames?⟩ := Classical.axiomOfChoice hleaves
  exact (kept_calls hlines hnames? (kept_initial names?) cs).sound

/-- The first call fails at a local that is not listed yet, the others succeed; the constant is
equal to the number that the first line loads, and declared again after it was loaded. -/
theorem operands_sound_repeated :
    let listing : Listing :=
      { name := "repeated"
        lines := ["#const one 1.0", "#defn f, g", "#defvar x, y", "load 1", "store y", "load g",
          "return one"] }
    let cs : List Call := [.assemble, .declare, .assemble, .declare, .assemble]
    let log := (Session.start listing).logCalls Log.empty cs
    (log.emitted.countP fun m => m.item.isIndexed) = 9 ∧
      Sound log ((Session.start listing).calls cs).assembly := by
  refine ⟨by decide +kernel, ?_⟩
  exact operands_sound _ (by decide +kernel) (by decide +kernel) (by decide +kernel) _

end Session

end BytecodeAssembler
