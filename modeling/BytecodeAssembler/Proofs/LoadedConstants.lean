import BytecodeAssembler.Proofs.Calls
import BytecodeAssembler.Proofs.LineItems

/-!
# The constants that a program loads

A program writes constants in three places: `None` is there from the start, directives declare
literals under names, and a `LOAD` or a `RETURN` whose operand is no name writes the number that it
denotes.  `Listing.writtenConstants` lists them in the order in which they reach the pool.

The pool is searched with the equality of the language, which tells neither a truth value nor a
floating point number from the whole number of the same value, nor the two zeros from each other.
So what a program loads for a constant is the first of the written constants that equals it, and that
may be one of another kind.  The pool itself differs from the list of written constants, since a
declared constant that equals one in the pool does not enter it, but the two are searched alike
(`Assembly.Holds`).
-/

namespace BytecodeAssembler

/-- The kinds of values that the language tells apart. -/
inductive Value.Kind where
  | none | ellipsis | bool | int | float | complex | str | bytes | list | tuple | set | dict
deriving DecidableEq

def Value.kind : Value → Value.Kind
  | .none => .none
  | .ellipsis => .ellipsis
  | .bool _ => .bool
  | .int _ => .int
  | .float _ => .float
  | .complex _ _ => .complex
  | .str _ => .str
  | .bytes _ => .bytes
  | .list _ => .list
  | .tuple _ => .tuple
  | .set _ => .set
  | .dict _ => .dict

/-! ## What is written -/

/-- The name and the literal of the constant that a line declares. -/
def Directive.constant? (line : String) : Option (String × Value) :=
  match Directive.ofLine? line with
  | some (.constant name value) =>
    match Literal.read value with
    | .ok v => some (name, v)
    | .error _ => none
  | _ => none

/-- The constants that directives declare, in order. -/
def Listing.declaredConstants (listing : Listing) : List (String × Value) :=
  listing.directives.filterMap Directive.constant?

/-- The number that a word denotes. -/
def Literal.number? (word : String) : Option Value :=
  match Literal.read word with
  | .ok v => if v.isNumber then some v else none
  | .error _ => none

/-- **The literal that was written for a word**: that of the last directive which declares it, or
else `None` under that name, or else the number that the word denotes. -/
def literalFor? (declared : List (String × Value)) (word : String) : Option Value :=
  match declared.reverse.lookup word with
  | some v => some v
  | none => if word = "None" then some .none else Literal.number? word

/-- The kinds of names that `LOAD` and `RETURN` look their operand up among before they take it for a
number. -/
def Mnemonic.searched? : Mnemonic → Option (List OperandKind)
  | .load => some [.constant, .local, .global]
  | .ret => some [.constant, .local]
  | _ => none

theorem Mnemonic.constant_mem_searched {mnemonic : Mnemonic} {kinds : List OperandKind}
    (h : mnemonic.searched? = some kinds) : OperandKind.constant ∈ kinds := by
  cases mnemonic with
  | ret => simp [← Option.some.inj h]
  | load => simp [← Option.some.inj h]
  | _ => cases h

/-- The operand that a line of code takes for a number: that of a `LOAD` or a `RETURN` which is no
name of any kind that is searched. -/
def Assembly.newOperand? (a : Assembly) (line : String) : Option String := do
  let (word, operands) ← instruction? line
  let mnemonic ← Mnemonic.ofWord? word
  let kinds ← mnemonic.searched?
  let t ← operands.head?
  if kinds.any fun kind => ((a.table kind).find? (Text.ofString t)).isSome then none else some t

/-- The number that a line of code writes. -/
def Assembly.writtenNumber? (a : Assembly) (line : String) : Option Value :=
  (a.newOperand? line).bind Literal.number?

/-- **The constants that a listing writes**, in the order in which they reach the pool. -/
def Listing.writtenConstants (listing : Listing) : List Value :=
  .none :: listing.declaredConstants.map Prod.snd ++
    listing.code.filterMap (Session.start listing).declare.session.assembly.writtenNumber?

theorem Literal.number?_eq_some_iff {word : String} {v : Value} :
    Literal.number? word = some v ↔ Assembly.DenotesNumber word v := by
  unfold Literal.number? Assembly.DenotesNumber
  cases Literal.read word with
  | error e => simp
  | ok w =>
    by_cases hw : w.isNumber = true
    · simp only [hw, if_true, Option.some.injEq, Except.ok.injEq]
      constructor
      · rintro rfl
        exact ⟨rfl, hw⟩
      · exact fun h => h.1
    · simp only [hw, Bool.false_eq_true, if_false, Except.ok.injEq]
      constructor
      · intro h
        cases h
      · rintro ⟨rfl, hv⟩
        exact absurd hv hw

/-- A directive changes the literal of its own name only. -/
theorem literalFor?_concat (declared : List (String × Value)) (name word : String) (v : Value) :
    literalFor? (declared ++ [(name, v)]) word
      = if word = name then some v else literalFor? declared word := by
  unfold literalFor?
  rw [List.reverse_concat, List.lookup_cons]
  by_cases h : word = name
  · simp [h]
  · simp [h, beq_false_of_ne h]

namespace Assembly

theorem newOperand?_eq_some_iff {a : Assembly} {line t : String} :
    a.newOperand? line = some t ↔ ∃ word rest mnemonic kinds,
      instruction? line = some (word, t :: rest) ∧ Mnemonic.ofWord? word = some mnemonic ∧
        mnemonic.searched? = some kinds ∧ ∀ kind ∈ kinds, ¬ (a.table kind).Has t := by
  -- A name is found in none of the kinds.
  have hnames : ∀ (kinds : List OperandKind) (t : String),
      (kinds.any fun kind => ((a.table kind).find? (Text.ofString t)).isSome) = false ↔
        ∀ kind ∈ kinds, ¬ (a.table kind).Has t := by
    intro kinds t
    simp [SymbolTable.Has, Option.eq_none_iff_forall_ne_some]
  unfold newOperand?
  constructor
  · intro h
    obtain ⟨⟨word, operands⟩, hi, hbound⟩ := Option.bind_eq_some_iff.mp h
    obtain ⟨mnemonic, hm, hbound⟩ := Option.bind_eq_some_iff.mp hbound
    obtain ⟨kinds, hk, hbound⟩ := Option.bind_eq_some_iff.mp hbound
    obtain ⟨t', ht, hv⟩ := Option.bind_eq_some_iff.mp hbound
    obtain ⟨rest, rfl⟩ := List.head?_eq_some_iff.mp ht
    cases hany : kinds.any fun kind => ((a.table kind).find? (Text.ofString t')).isSome with
    | true =>
      rw [hany] at hv
      cases hv
    | false =>
      rw [hany] at hv
      obtain rfl := Option.some.inj hv
      exact ⟨word, rest, mnemonic, kinds, hi, hm, hk, (hnames kinds t').mp hany⟩
  · rintro ⟨word, rest, mnemonic, kinds, hi, hm, hk, hnone⟩
    simp only [hi, hm, hk, List.head?_cons, Option.bind_eq_bind, Option.bind_some,
      (hnames kinds t).mpr hnone, Bool.false_eq_true, if_false]

theorem not_has_of_new {a : Assembly} {line t : String} (h : a.newOperand? line = some t) :
    ¬ a.constantTable.Has t := by
  obtain ⟨word, rest, mnemonic, kinds, -, -, hk, hnone⟩ := newOperand?_eq_some_iff.mp h
  exact hnone .constant (Mnemonic.constant_mem_searched hk)

theorem writtenNumber?_eq_some_iff {a : Assembly} {line : String} {v : Value} :
    a.writtenNumber? line = some v ↔ ∃ t, a.newOperand? line = some t ∧ DenotesNumber t v := by
  rw [writtenNumber?, Option.bind_eq_some_iff]
  simp only [Literal.number?_eq_some_iff]

/-! ## What resolving does to the pool -/

/-- A number that is new goes to the end of the pool. -/
theorem resolve_of_new {a a' : Assembly} {line word t : String} {operands : List String}
    {mnemonic : Mnemonic} {items : List Item} (hnew : a.newOperand? line = some t)
    (hi : instruction? line = some (word, operands)) (hm : Mnemonic.ofWord? word = some mnemonic)
    (hr : a.resolve mnemonic operands = .ok (items, a')) :
    ∃ v pool, DenotesNumber t v ∧ a.fields.constants = .list pool ∧ a' = a.pooled t v pool := by
  obtain ⟨word', rest, mnemonic', kinds, hi', hm', hk, hnone⟩ := newOperand?_eq_some_iff.mp hnew
  obtain ⟨rfl, rfl⟩ := Prod.mk.inj (Option.some.inj (hi.symm.trans hi'))
  obtain rfl := Option.some.inj (hm.symm.trans hm')
  have hfind : ∀ kind ∈ kinds, (a.table kind).find? (Text.ofString t) = none :=
    fun kind hmem => SymbolTable.find?_eq_none_iff.mpr (hnone kind hmem)
  -- Whatever the number is reported as when it fails, loading it does the same.
  have hload : ∀ {otherwise : Report} {item : Item},
      a.loadNumber t otherwise = .ok (item, a') →
        ∃ v pool, DenotesNumber t v ∧ a.fields.constants = .list pool ∧
          a' = a.pooled t v pool := by
    intro otherwise item hn
    obtain ⟨v, pool, hv, hpool, ha', -⟩ := loadNumber_ok_iff.mp hn
    exact ⟨v, pool, hv, hpool, ha'⟩
  cases mnemonic with
  | ret =>
    obtain rfl := Option.some.inj hk
    rw [resolve_ret] at hr
    obtain ⟨⟨item, b⟩, hload', heq⟩ := map_eq_ok hr
    obtain ⟨-, rfl⟩ := Prod.mk.inj heq
    have hc : a.constantTable.find? (Text.ofString t) = none := hfind .constant (by simp)
    have hl : a.localTable.find? (Text.ofString t) = none := hfind .local (by simp)
    simp only [loadForReturn, hc, hl] at hload'
    exact hload hload'
  | load =>
    obtain rfl := Option.some.inj hk
    rw [resolve_load] at hr
    obtain ⟨⟨item, b⟩, hload', heq⟩ := map_eq_ok hr
    obtain ⟨-, rfl⟩ := Prod.mk.inj heq
    have hc : a.constantTable.find? (Text.ofString t) = none := hfind .constant (by simp)
    have hl : a.localTable.find? (Text.ofString t) = none := hfind .local (by simp)
    have hg : a.globalTable.find? (Text.ofString t) = none := hfind .global (by simp)
    simp only [loadForLoad, hc, hl, hg] at hload'
    exact hload hload'
  | _ => cases hk

/-- Nothing else does. -/
theorem resolve_of_known {a a' : Assembly} {line word : String} {operands : List String}
    {mnemonic : Mnemonic} {items : List Item} (hknown : a.newOperand? line = none)
    (hi : instruction? line = some (word, operands)) (hm : Mnemonic.ofWord? word = some mnemonic)
    (hr : a.resolve mnemonic operands = .ok (items, a')) : a' = a := by
  rcases resolve_ok_cases hr with rfl | ⟨t, rest, v, pool, rfl, hv, hc, hl, hmn, -, -⟩
  · rfl
  · have hc' : ¬ (a.table .constant).Has t := SymbolTable.find?_eq_none_iff.mp hc
    have hl' : ¬ (a.table .local).Has t := SymbolTable.find?_eq_none_iff.mp hl
    have hnew : a.newOperand? line = some t := by
      rcases hmn with rfl | ⟨rfl, hg⟩
      · exact newOperand?_eq_some_iff.mpr
          ⟨word, rest, .ret, _, hi, hm, rfl, by simp [hc', hl']⟩
      · have hg' : ¬ (a.table .global).Has t := SymbolTable.find?_eq_none_iff.mp hg
        exact newOperand?_eq_some_iff.mpr
          ⟨word, rest, .load, _, hi, hm, rfl, by simp [hc', hl', hg']⟩
    rw [hknown] at hnew
    cases hnew

/-! ## Names keep their meaning -/

/-- Names have in `b` the meaning that they have in `a`; constants may have been added. -/
structure KeepsNames (a b : Assembly) : Prop where
  constants : ∀ t i, a.constantTable.find? t = some i → b.constantTable.find? t = some i
  names : ∀ kind, kind ≠ .constant → b.table kind = a.table kind

theorem KeepsNames.refl (a : Assembly) : KeepsNames a a :=
  ⟨fun _ _ h => h, fun _ _ => rfl⟩

theorem KeepsNames.trans {a b c : Assembly} (hab : KeepsNames a b) (hbc : KeepsNames b c) :
    KeepsNames a c where
  constants := fun t i h => hbc.constants t i (hab.constants t i h)
  names := fun kind hk => (hbc.names kind hk).trans (hab.names kind hk)

/-- Only the tables count. -/
theorem KeepsNames.congr {a b c : Assembly} (h : KeepsNames a b) (ht : c.table = b.table) :
    KeepsNames a c where
  constants := by
    have hc : c.constantTable = b.constantTable := congrFun ht .constant
    rw [hc]
    exact h.constants
  names := ht ▸ h.names

theorem keepsNames_of_resolve {a a' : Assembly} {mnemonic : Mnemonic} {operands : List String}
    {items : List Item} (h : a.resolve mnemonic operands = .ok (items, a')) : KeepsNames a a' := by
  rcases resolve_ok_cases h with rfl | ⟨word, rest, v, pool, -, -, hnone, -, -, -, rfl⟩
  · exact KeepsNames.refl _
  · refine ⟨fun t i hi => ?_, fun kind hk => ?_⟩
    · show (a.constantTable.insert _ _).find? t = some i
      rw [SymbolTable.find?_insert, if_neg, hi]
      rintro rfl
      rw [hnone] at hi
      cases hi
    · cases kind with
      | constant => exact absurd rfl hk
      | _ => rfl

/-- **One line of code** leaves the meaning of names. -/
theorem keepsNames_of_step {before : Nat} {line : String} {a a' : Assembly} {p p' : Progress}
    {f : Option Fault} (h : LineStep before line a p (a', p', f)) : KeepsNames a a' := by
  cases h with
  | gap hi => exact KeepsNames.refl a
  | unknown hi hm => exact (KeepsNames.refl a).congr rfl
  | unresolved hi hm hr => exact (KeepsNames.refl a).congr rfl
  | unlisted hi hm hr hl => exact (keepsNames_of_resolve hr).congr rfl
  | emits hi hm hr hl => exact (keepsNames_of_resolve hr).congr rfl

theorem keepsNames_assembleLines {before : Nat} {lines : List String} {a a' : Assembly}
    {p p' : Progress} {f : Option Fault} (h : assembleLines before lines a p = (a', p', f)) :
    KeepsNames a a' :=
  assembleLines_invariant (P := fun b _ => KeepsNames a b)
    (fun _ _ _ _ _ _ _ hb hs => hb.trans (keepsNames_of_step hs)) h (KeepsNames.refl a)

/-- What is new later is new now, and what is new now is so later unless a constant took its name. -/
theorem KeepsNames.newOperand?_eq_some_iff {a b : Assembly} (h : KeepsNames a b) {line t : String} :
    b.newOperand? line = some t ↔ a.newOperand? line = some t ∧ ¬ b.constantTable.Has t := by
  constructor
  · intro hnew
    refine ⟨?_, not_has_of_new hnew⟩
    obtain ⟨word, rest, mnemonic, kinds, hi, hm, hk, hnone⟩ :=
      Assembly.newOperand?_eq_some_iff.mp hnew
    refine Assembly.newOperand?_eq_some_iff.mpr ⟨word, rest, mnemonic, kinds, hi, hm, hk, ?_⟩
    rintro kind hmem ⟨i, hfound⟩
    apply hnone kind hmem
    by_cases hkind : kind = .constant
    · subst hkind
      exact ⟨i, h.constants _ i hfound⟩
    · exact ⟨i, by rw [h.names kind hkind, hfound]⟩
  · rintro ⟨hnew, hhas⟩
    obtain ⟨word, rest, mnemonic, kinds, hi, hm, hk, hnone⟩ :=
      Assembly.newOperand?_eq_some_iff.mp hnew
    refine Assembly.newOperand?_eq_some_iff.mpr ⟨word, rest, mnemonic, kinds, hi, hm, hk, ?_⟩
    intro kind hmem
    by_cases hkind : kind = .constant
    · subst hkind
      exact hhas
    · rw [h.names kind hkind]
      exact hnone kind hmem

/-- What was new and is not any more has become the name of a constant. -/
theorem KeepsNames.has_of_known {a b : Assembly} (h : KeepsNames a b) {line t : String}
    (ha : a.newOperand? line = some t) (hb : b.newOperand? line = none) : b.constantTable.Has t := by
  apply Classical.byContradiction
  intro hhas
  have hnew := h.newOperand?_eq_some_iff.mpr ⟨ha, hhas⟩
  rw [hb] at hnew
  cases hnew

/-! ## The pool holds what was written -/

/-- **The pool holds what was written.**  It is searched like the list of the written constants, and
the index of a name is that of the first written constant that equals the literal of the name. -/
structure Holds (declared : List (String × Value)) (written : List Value) (a : Assembly) :
    Prop where
  pool : ∃ items, a.pool .constant = .list items ∧
    ∀ v, Value.firstSame? v items = Value.firstSame? v written
  entries : ∀ t i, a.constantTable.find? t = some i →
    ∃ word v e, t = Text.ofString word ∧ literalFor? declared word = some v ∧
      Value.firstSame? v written = some e ∧ a.entryAt? .constant i = some e
  /-- A word with a literal of its own is a name. -/
  listed : ∀ word, ¬ a.constantTable.Has word → literalFor? declared word = Literal.number? word

theorem Holds.congr {declared : List (String × Value)} {written : List Value} {a b : Assembly}
    (h : Holds declared written a) (hp : b.pool .constant = a.pool .constant)
    (ht : b.constantTable = a.constantTable) : Holds declared written b where
  pool := hp ▸ h.pool
  entries := by
    rw [ht, entryAt?_congr hp]
    exact h.entries
  listed := ht ▸ h.listed

/-- A word becomes the name of a constant that was written last. -/
theorem Holds.insert {declared declared' : List (String × Value)} {written : List Value}
    {a b : Assembly} {word : String} {i : Nat} {v : Value} {items more : List Value}
    (h : Holds declared written a) (ha : a.pool .constant = .list items)
    (hb : b.pool .constant = .list (items ++ more))
    (ht : b.constantTable = a.constantTable.insert (Text.ofString word) i)
    (hi : (items ++ more)[i]? = Value.firstSame? v (items ++ [v]))
    (hsearch : ∀ u, Value.firstSame? u (items ++ more) = Value.firstSame? u (items ++ [v]))
    (hword : literalFor? declared' word = some v)
    (hother : ∀ w, w ≠ word → literalFor? declared' w = literalFor? declared w) :
    Holds declared' (written ++ [v]) b := by
  -- The pool with the constant at its end is searched like what was written with it at its end.
  obtain ⟨items', hitems', hsame⟩ := h.pool
  obtain rfl := Value.list.inj (ha.symm.trans hitems')
  have hwritten : ∀ u, Value.firstSame? u (items ++ [v]) = Value.firstSame? u (written ++ [v]) := by
    intro u
    rw [Value.firstSame?_append, hsame, ← Value.firstSame?_append]
  refine ⟨⟨items ++ more, hb, fun u => (hsearch u).trans (hwritten u)⟩, ?_, ?_⟩
  · intro t j hj
    rw [ht, SymbolTable.find?_insert] at hj
    by_cases hsameName : Text.ofString word = t
    · rw [if_pos hsameName, Option.some.injEq] at hj
      subst hj
      obtain ⟨e, he⟩ := Value.exists_firstSame?_append_self v written
      refine ⟨word, v, e, hsameName.symm, hword, he, ?_⟩
      rw [entryAt?, hb, ← he, ← hwritten, ← hi]
      rfl
    · rw [if_neg hsameName] at hj
      obtain ⟨w, u, e, rfl, hu, he, hentry⟩ := h.entries t j hj
      have hne : w ≠ word := fun heq => hsameName (congrArg Text.ofString heq.symm)
      exact ⟨w, u, e, rfl, (hother w hne).trans hu, Value.firstSame?_append_of_some he [v],
        entryAt?_of_append ha hb hentry⟩
  · intro w hw
    rw [ht, SymbolTable.has_insert_iff] at hw
    have hne : w ≠ word := fun heq => hw (.inl heq.symm)
    rw [hother w hne, h.listed w fun hhas => hw (.inr hhas)]

/-- A constant that equals one written before is as good as written. -/
theorem Holds.again {declared : List (String × Value)} {written : List Value} {a : Assembly}
    {v e : Value} (h : Holds declared written a) (hv : Value.firstSame? v written = some e) :
    Holds declared (written ++ [v]) a where
  pool := by
    obtain ⟨items, hitems, hsame⟩ := h.pool
    exact ⟨items, hitems, fun u => by rw [hsame, Value.firstSame?_append_of_found hv]⟩
  entries := by
    intro t i hi
    obtain ⟨word, u, e', hword, hu, he', hentry⟩ := h.entries t i hi
    exact ⟨word, u, e', hword, hu, Value.firstSame?_append_of_some he' [v], hentry⟩
  listed := h.listed

theorem holds_initial : Holds [] [.none] initial where
  pool := ⟨[.none], rfl, fun _ => rfl⟩
  entries := by
    intro t i hi
    change (SymbolTable.empty.insert (Text.ofString "None") 0).find? t = some i at hi
    rw [SymbolTable.find?_insert] at hi
    by_cases hname : Text.ofString "None" = t
    · rw [if_pos hname, Option.some.injEq] at hi
      subst hi
      exact ⟨"None", .none, .none, hname.symm, rfl, rfl, rfl⟩
    · rw [if_neg hname] at hi
      cases hi
  listed := by
    intro word hword
    have hne : word ≠ "None" := by
      rintro rfl
      exact hword ⟨0, by decide +kernel⟩
    simp [literalFor?, hne]

/-! ## Directives -/

/-- **What a directive does to the constants**, unless it sets the pool as a field: it leaves them, or
declares one. -/
theorem DirectiveStep.constants_cases {line : String} {a a' : Assembly}
    (hs : DirectiveStep line a a') (hline : Directive.definesOn "consts" line = false) :
    (Directive.constant? line = none ∧ a'.pool .constant = a.pool .constant ∧
      a'.constantTable = a.constantTable) ∨
    ∃ name v index, Directive.constant? line = some (name, v) ∧
      Pool.declare (a.pool .constant) v = .ok (a'.pool .constant, index) ∧
      a'.constantTable = a.constantTable.insert (Text.ofString name) index := by
  cases hs with
  | skip hd => exact .inl ⟨by simp only [Directive.constant?, hd], rfl, rfl⟩
  | @field field value v hd hv =>
    have hne : field ≠ .constants := by
      rintro rfl
      simp [Directive.definesOn, hd, Field.word] at hline
    have hpool : (a.fields.set field v).get .constants = a.fields.get .constants := by
      rw [Fields.get_set, if_neg hne.symm]
    exact .inl ⟨by simp only [Directive.constant?, hd], hpool, rfl⟩
  | @constant name value v pool index hd hv hp =>
    exact .inr ⟨name, v, index, by simp only [Directive.constant?, hd, hv], hp, rfl⟩
  | globals hd hn => exact .inl ⟨by simp only [Directive.constant?, hd], rfl, rfl⟩
  | locals hd hn => exact .inl ⟨by simp only [Directive.constant?, hd], rfl, rfl⟩

/-- A directive that declares a constant writes its literal; no other writes any. -/
theorem Holds.directive {declared : List (String × Value)} {a a' : Assembly} {line : String}
    (h : Holds declared (.none :: declared.map Prod.snd) a)
    (hline : Directive.definesOn "consts" line = false) (hs : DirectiveStep line a a') :
    Holds (declared ++ (Directive.constant? line).toList)
      (.none :: (declared ++ (Directive.constant? line).toList).map Prod.snd) a' := by
  rcases hs.constants_cases hline with ⟨hnone, hp, ht⟩ | ⟨name, v, index, hconstant, hp, ht⟩
  · rw [hnone]
    simpa using h.congr hp ht
  · obtain ⟨items, hitems, -⟩ := h.pool
    obtain ⟨more, i, hgrown, hi, hsearch⟩ := Pool.declare_first items v
    rw [hitems, hgrown] at hp
    obtain ⟨hpool, rfl⟩ := Prod.mk.inj (Except.ok.inj hp)
    rw [hconstant, List.map_append, ← List.cons_append]
    refine h.insert hitems hpool.symm ht hi hsearch ?_ fun w hw => ?_
    · simp [literalFor?_concat]
    · simp [literalFor?_concat, hw]

/-! ## Code lines -/

section Code

variable {declared : List (String × Value)} {written writtenFirst : List Value} {start : Assembly}

/-- **One line of code.**  What it writes is told by the names of the start. -/
theorem Holds.line {before : Nat} {line : String} {a a' : Assembly} {p p' : Progress}
    (hstart : Holds declared writtenFirst start) (h : Holds declared written a)
    (hnames : KeepsNames start a) (hs : LineStep before line a p (a', p', none)) :
    Holds declared (written ++ (start.writtenNumber? line).toList) a' := by
  cases hs with
  | gap hi =>
    have hnone : start.writtenNumber? line = none := by
      simp [Assembly.writtenNumber?, Assembly.newOperand?, hi]
    simpa [hnone] using h
  | @emits word operands mnemonic items b entries hi hm hr hl =>
    suffices hb : Holds declared (written ++ (start.writtenNumber? line).toList) b from
      hb.congr rfl rfl
    cases hnew : a.newOperand? line with
    | some t =>
      obtain ⟨v, pool, hv, hpool, rfl⟩ := resolve_of_new hnew hi hm hr
      obtain ⟨hfirst, hname⟩ := hnames.newOperand?_eq_some_iff.mp hnew
      rw [writtenNumber?_eq_some_iff.mpr ⟨t, hfirst, hv⟩]
      refine h.insert hpool rfl rfl (Pool.append_first pool v) (fun _ => rfl) ?_
        fun _ _ => rfl
      rw [h.listed t hname]
      exact Literal.number?_eq_some_iff.mpr hv
    | none =>
      obtain rfl := resolve_of_known hnew hi hm hr
      cases hfirst : start.writtenNumber? line with
      | none => simpa using h
      | some v =>
        -- The number was written before, under the same spelling.
        obtain ⟨t, ht, hv⟩ := writtenNumber?_eq_some_iff.mp hfirst
        obtain ⟨i, hi⟩ := hnames.has_of_known ht hnew
        obtain ⟨word, u, e, hword, hu, he, -⟩ := h.entries _ i hi
        obtain rfl := Text.ofString_injective hword
        rw [hstart.listed t (not_has_of_new ht), Literal.number?_eq_some_iff.mpr hv,
          Option.some.injEq] at hu
        subst hu
        exact h.again he

/-- **A run over code lines** without a fault. -/
theorem Holds.lines {before : Nat} {lines : List String} {a' : Assembly} {p p' : Progress}
    (hstart : Holds declared writtenFirst start)
    (hrun : assembleLines before lines start p = (a', p', none)) :
    Holds declared (writtenFirst ++ lines.filterMap start.writtenNumber?) a' := by
  have hkept := assembleLines_collect
    (P := fun written b => Holds declared written b ∧ KeepsNames start b)
    (fun _ _ _ _ _ _ hb hs => ⟨hstart.line hb.1 hb.2 hs, hb.2.trans (keepsNames_of_step hs)⟩)
    hrun ⟨hstart, KeepsNames.refl start⟩
  exact hkept.1

end Code

/-- The operand of an item that loads a constant is the index of the word after the mnemonic. -/
theorem MnemonicItems.constant {tables : OperandKind → SymbolTable} {name : String}
    {mnemonic : Mnemonic} {operands : List String} {items : List Item} {n : Int}
    (hm : Mnemonic.Named name mnemonic) (h : MnemonicItems tables mnemonic operands items)
    (hmem : ⟨Opcode.loadConst, some n⟩ ∈ items) :
    ∃ t rest, ∃ i : Nat, operands = t :: rest ∧ n = i ∧
      (tables .constant).find? (Text.ofString t) = some i := by
  have hloads : ∀ {word : String}, Loads tables word ⟨Opcode.loadConst, some n⟩ →
      ∃ i : Nat, n = i ∧ (tables .constant).find? (Text.ofString word) = some i := by
    intro word hl
    cases hl with
    | constant hi => exact ⟨_, rfl, hi⟩
  cases h with
  | bare => simp at hmem
  | @symbol name word number i rest hk hi =>
    simp only [List.mem_singleton, Item.mk.injEq, Option.some.injEq] at hmem
    obtain ⟨rfl, rfl⟩ := hmem
    cases hm with
    | operation hnumber =>
      rw [← Opcode.operandKind_eq hnumber, Opcode.operandKind_loadConst] at hi
      exact ⟨word, rest, i, rfl, rfl, hi⟩
  | @number name word number rest m hk hn =>
    simp only [List.mem_singleton, Item.mk.injEq, Option.some.injEq] at hmem
    obtain ⟨rfl, rfl⟩ := hmem
    cases hm with
    | operation hnumber =>
      rw [← Opcode.operandKind_eq hnumber, Opcode.operandKind_loadConst] at hk
      cases hk
  | println => simp at hmem
  | store hi =>
    have hne : Opcode.loadConst ≠ Opcode.storeFast := by decide
    simp [hne] at hmem
  | @ret word item rest hl =>
    simp only [List.mem_cons, Item.mk.injEq, reduceCtorEq, and_false, List.not_mem_nil,
      or_false] at hmem
    subst hmem
    obtain ⟨i, hn, hi⟩ := hloads hl
    exact ⟨word, rest, i, rfl, hn, hi⟩
  | @load word item rest hl =>
    obtain rfl := List.mem_singleton.mp hmem
    obtain ⟨i, hn, hi⟩ := hloads hl
    exact ⟨word, rest, i, rfl, hn, hi⟩
  | binary => simp at hmem
  | unary => simp at hmem

end Assembly

namespace Session

open Assembly

/-- What directives write is held by the pool once they are carried out. -/
theorem holds_declared {listing : Listing} (hconsts : listing.defines "consts" = false)
    (hdeclare : (Session.start listing).declare.fault = none) :
    Holds listing.declaredConstants (.none :: listing.declaredConstants.map Prod.snd)
      (Session.start listing).declare.session.assembly := by
  have hlines : declareLines listing.directives initial
      = ((Session.start listing).declare.session.assembly, none) :=
    Prod.ext rfl hdeclare
  exact declareLines_collect
    (P := fun declared a => Holds declared (.none :: declared.map Prod.snd) a)
    (fun _ hm _ _ _ h hs => h.directive (Listing.definesOn_of_defines hconsts hm) hs)
    hlines holds_initial

/-- What was written is held by the pool at the end. -/
theorem holds_assembled {listing : Listing} {b : Assembly} {p : Progress}
    (hconsts : listing.defines "consts" = false)
    (hdeclare : (Session.start listing).declare.fault = none)
    (hrun : assembleLines listing.linesBeforeCode listing.code
      (Session.start listing).declare.session.assembly Progress.initial = (b, p, none)) :
    Holds listing.declaredConstants listing.writtenConstants b := by
  exact (holds_declared hconsts hdeclare).lines hrun

/-- **A program loads the first constant it wrote that equals the one it means.**  Let a listing be
declared and assembled without a fault, and let no directive set the pool as a field.  Where a line
of its code emits the load of a constant, the operand is the index of the word after the mnemonic.
That word has a literal, and what stands at the index in the end is the first of all constants
written in the listing that equals the literal.  It is the literal itself, unless a constant was
written that equals the literal and differs from it. -/
theorem loads_first_written (listing : Listing) (hconsts : listing.defines "consts" = false)
    (hdeclare : (Session.start listing).declare.fault = none)
    (hassemble : (Session.start listing).declare.session.assemble.fault = none)
    {pre post : List String} {line : String} (hsplit : listing.lines = pre ++ line :: post)
    (hcode : Listing.isDirective line = false) {n : Int}
    (hitem : ⟨Opcode.loadConst, some n⟩ ∈
      ((Session.start listing).declare.session.reaching pre).lineItems line) :
    let done := (Session.start listing).declare.session.assemble.session.assembly
    ∃ word t rest, instruction? line = some (word, t :: rest) ∧
      ∃ (i : Nat) (v e : Value), n = i ∧ literalFor? listing.declaredConstants t = some v ∧
        done.entryAt? .constant i = some e ∧
        Value.firstSame? v listing.writtenConstants = some e ∧
        ((∀ w ∈ listing.writtenConstants, w.same v = true → w = v) → e = v) := by
  intro done
  obtain ⟨b, p, hrun⟩ := (Session.start listing).declare.session.assemble_ok_iff.mp hassemble
  have hholds := holds_assembled hconsts hdeclare hrun
  have hdone : done.entryAt? .constant = b.entryAt? .constant := by
    apply entryAt?_congr
    show (Assembly.assemble _ _ _).1.pool .constant = _
    rw [assemble_of_ok hrun]
    rfl
  -- The line is reached, and the run goes on from what it leaves.
  have hlines : listing.code = Listing.codeOf pre ++ line :: Listing.codeOf post := by
    rw [Listing.code_eq_codeOf, hsplit, Listing.codeOf_append]
    simp [Listing.codeOf, hcode]
  change assembleLines listing.linesBeforeCode listing.code _ _ = _ at hrun
  rw [hlines] at hrun
  obtain ⟨c, q, hpre, hrest⟩ := assembleLines_prefix hrun
  have hreached : (Session.start listing).declare.session.reaching pre = c := by
    show (assembleLines listing.linesBeforeCode _ _ _).1 = c
    rw [hpre]
  rw [hreached] at hitem
  have hline := assembleLine_step listing.linesBeforeCode line c q
  rcases hr : c.assembleLine listing.linesBeforeCode line q with ⟨c', q', f⟩
  rw [hr] at hline
  simp only [assembleLines, hr] at hrest
  cases f with
  | some f => simp at hrest
  | none =>
    have hitems := lineStandsFor_of_step hline
    unfold LineStandsFor at hitems
    cases hi : instruction? line with
    | none =>
      rw [hi] at hitems
      rw [hitems] at hitem
      cases hitem
    | some w =>
      obtain ⟨word, operands⟩ := w
      rw [hi] at hitems
      obtain ⟨mnemonic, hm, hitems⟩ := hitems
      obtain ⟨t, rest, i, rfl, rfl, hindex⟩ := hitems.constant hm hitem
      -- The word keeps its index to the end.
      have hfinal := (keepsNames_assembleLines hrest).constants _ i hindex
      obtain ⟨t', v, e, ht, hv, hfirst, he⟩ := hholds.entries _ i hfinal
      obtain rfl := Text.ofString_injective ht
      refine ⟨word, t, rest, rfl, i, v, e, rfl, hv, by rw [hdone, he], hfirst, fun hall => ?_⟩
      exact hall e (List.mem_of_find?_eq_some hfirst) (Value.same_of_firstSame? hfirst)

/-- The last line means a floating point number that equals a truth value declared before it. -/
theorem loads_first_written_declared :
    let listing : Listing :=
      { name := "declared"
        lines := ["#const yes True", "load 2.5", "#defvar x", "return 1.0"] }
    let s := (Session.start listing).declare.session
    listing.defines "consts" = false ∧ (Session.start listing).declare.fault = none ∧
      s.assemble.fault = none ∧
      ∃ v e, literalFor? listing.declaredConstants "1.0" = some v ∧
        s.assemble.session.assembly.entryAt? .constant 1 = some e ∧
        Value.firstSame? v listing.writtenConstants = some e := by
  intro listing s
  have hconsts : listing.defines "consts" = false := by decide +kernel
  have hdeclare : (Session.start listing).declare.fault = none :=
    Option.isNone_iff_eq_none.mp (by decide +kernel)
  have hassemble : s.assemble.fault = none := Option.isNone_iff_eq_none.mp (by decide +kernel)
  have hitem : ⟨Opcode.loadConst, some 1⟩ ∈
      (s.reaching (listing.lines.take 3)).lineItems "return 1.0" := by decide +kernel
  obtain ⟨word, t, rest, hi, i, v, e, hn, hv, he, hfirst, -⟩ :=
    loads_first_written listing hconsts hdeclare hassemble rfl (by decide +kernel) hitem
  have hline : instruction? "return 1.0" = some ("return", ["1.0"]) := by decide +kernel
  rw [hline, Option.some.injEq, Prod.mk.injEq, List.cons.injEq] at hi
  obtain ⟨-, rfl, -⟩ := hi
  obtain rfl : i = 1 := by omega
  exact ⟨hconsts, hdeclare, hassemble, v, e, hv, he, hfirst⟩

/-- The second line means a floating point number, and a whole number is what it loads. -/
theorem loads_another_kind :
    let listing : Listing := { name := "kinds", lines := ["load 1", "load 1.0", "return None"] }
    let s := (Session.start listing).declare.session
    listing.defines "consts" = false ∧ (Session.start listing).declare.fault.isNone = true ∧
      s.assemble.fault.isNone = true ∧
      ⟨Opcode.loadConst, some 1⟩ ∈ (s.reaching ["load 1"]).lineItems "load 1.0" ∧
      (literalFor? listing.declaredConstants "1.0").map Value.kind = some .float ∧
      (s.assemble.session.assembly.entryAt? .constant 1).map Value.kind = some .int := by
  decide +kernel

end Session

end BytecodeAssembler
