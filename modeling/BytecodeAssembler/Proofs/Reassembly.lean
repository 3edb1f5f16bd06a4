import BytecodeAssembler.Proofs.Expansions

/-!
# Assembling again

The code of a session may be assembled again from the state that it left.  By then the numbers that
it loads are names, so the second run finds its operands in other places than the first, and the code
and the line table are not empty any more.

An operand means the same for both runs unless a constant has come before a name since
(`Assembly.Unshadowed`).  Only numbers become constants, and only where they are no local names; so
it is enough that no global name denotes a number.  Then every line is resolved to the same items by
both runs, and the second makes no constants.

What the runs emit goes to the ends of the code and of the line table, and the gap before an
instruction goes into an entry of the same run.  So the two add the same (`Assembly.InStep`),
whatever was there when they began.
-/

namespace BytecodeAssembler

/-- A line table with more entries at its end.  Only a list takes them. -/
def Value.extended (entries : List Value) : Value → Value
  | .list before => .list (before ++ entries)
  | table => table

theorem Value.extended_nil (table : Value) : table.extended [] = table := by
  cases table <;> simp [Value.extended]

/-- A table that is a list with more entries was a list without them. -/
theorem Value.eq_list_of_extended {entries items : List Value} {table : Value}
    (h : table.extended entries = .list items) :
    ∃ before, table = .list before ∧ items = before ++ entries := by
  cases table with
  | list before => exact ⟨before, rfl, (Value.list.inj h).symm⟩
  | _ => cases h

namespace Assembly

/-! ## Operands of a later run -/

/-- Names of `a` are looked up in `b` where they were in `a`: what has become a constant since was
neither a local nor a global name. -/
def Unshadowed (a b : Assembly) : Prop :=
  ∀ t, b.constantTable.Has t → ¬ a.constantTable.Has t →
    ¬ a.localTable.Has t ∧ ¬ a.globalTable.Has t

/-- No global name denotes a number; truth values count as numbers. -/
def PlainGlobals (a : Assembly) : Prop :=
  ∀ name v, a.globalTable.Has name → ¬ DenotesNumber name v

theorem KeepsNames.has {a b : Assembly} (h : KeepsNames a b) {t : String}
    (ht : a.constantTable.Has t) : b.constantTable.Has t := by
  obtain ⟨i, hi⟩ := ht
  exact ⟨i, h.constants _ i hi⟩

theorem KeepsNames.localTable_eq {a b : Assembly} (h : KeepsNames a b) :
    b.localTable = a.localTable :=
  h.names .local (by simp)

theorem KeepsNames.globalTable_eq {a b : Assembly} (h : KeepsNames a b) :
    b.globalTable = a.globalTable :=
  h.names .global (by simp)

theorem KeepsNames.find? {a b : Assembly} (h : KeepsNames a b) {kind : OperandKind} {t : Text}
    {i : Nat} (hi : (a.table kind).find? t = some i) : (b.table kind).find? t = some i := by
  by_cases hk : kind = .constant
  · subst hk
    exact h.constants t i hi
  · rw [h.names kind hk, hi]

/-- What is unshadowed for a state is so for the states after it. -/
theorem Unshadowed.later {a a' b : Assembly} (h : Unshadowed a b) (hnames : KeepsNames a a') :
    Unshadowed a' b := by
  intro t hb ha'
  rw [hnames.localTable_eq, hnames.globalTable_eq]
  exact h t hb fun ha => ha' (hnames.has ha)

/-- The constants that a run makes shadow no names: they are numbers that are no local names. -/
theorem unshadowed_of_step {before : Nat} {line : String} {a b b' : Assembly} {p p' : Progress}
    {f : Option Fault} (hglobals : PlainGlobals a) (hnames : KeepsNames a b)
    (h : Unshadowed a b) (hs : LineStep before line b p (b', p', f)) : Unshadowed a b' := by
  have hresolved : ∀ {mnemonic operands items c}, b.resolve mnemonic operands = .ok (items, c) →
      Unshadowed a c := by
    intro mnemonic operands items c hr
    rcases resolve_ok_cases hr with rfl | ⟨word, rest, v, pool, -, hv, -, hl, -, -, rfl⟩
    · exact h
    · intro t ht hnew
      rcases SymbolTable.has_insert_iff.mp ht with rfl | ht
      · rw [SymbolTable.find?_eq_none_iff, hnames.localTable_eq] at hl
        exact ⟨hl, fun hg => hglobals word v hg hv⟩
      · exact h t ht hnew
  cases hs with
  | gap hi => exact h
  | unknown hi hm => exact h
  | unresolved hi hm hr => exact h
  | unlisted hi hm hr hl =>
    have hlater := hresolved hr
    exact hlater
  | emits hi hm hr hl =>
    have hlater := hresolved hr
    exact hlater

theorem unshadowed_assembleLines {before : Nat} {lines : List String} {a b : Assembly}
    {p q : Progress} {f : Option Fault} (hglobals : PlainGlobals a)
    (h : assembleLines before lines a p = (b, q, f)) : Unshadowed a b := by
  have hkept := assembleLines_invariant (P := fun c _ => KeepsNames a c ∧ Unshadowed a c)
    (fun _ _ _ _ _ _ _ hc hs => ⟨hc.1.trans (keepsNames_of_step hs),
      unshadowed_of_step hglobals hc.1 hc.2 hs⟩)
    h ⟨KeepsNames.refl a, fun _ ht hnew => absurd ht hnew⟩
  exact hkept.2

/-! ## Resolving again -/

section Resolve

variable {a a' b : Assembly} {word : String} {item : Item}

theorem KeepsNames.operand {name : String} {n : Int} (h : KeepsNames a b)
    (hn : a.operand name word = .ok n) : b.operand name word = .ok n := by
  -- The three tables are looked up in the same way.
  have hlookup : ∀ kind, (lookup (a.table kind) word).map Int.ofNat = .ok n →
      (lookup (b.table kind) word).map Int.ofNat = .ok n := by
    intro kind hl
    obtain ⟨i, hi, rfl⟩ := map_eq_ok hl
    rw [lookup_eq_ok_iff.mpr (h.find? (lookup_eq_ok_iff.mp hi))]
    rfl
  unfold Assembly.operand at hn ⊢
  cases hk : Mnemonic.operandKind name with
  | constant =>
    rw [hk] at hn
    exact hlookup .constant hn
  | global =>
    rw [hk] at hn
    exact hlookup .global hn
  | «local» =>
    rw [hk] at hn
    exact hlookup .local hn
  | number =>
    rw [hk] at hn
    exact hn

/-- A number that was loaded is a name from then on. -/
theorem KeepsNames.find?_of_loadNumber {otherwise : Report} (h : KeepsNames a' b)
    (hr : a.loadNumber word otherwise = .ok (item, a')) :
    ∃ i : Nat, b.constantTable.find? (Text.ofString word) = some i ∧
      item = ⟨Opcode.loadConst, some i⟩ := by
  obtain ⟨v, pool, -, -, rfl, rfl⟩ := loadNumber_ok_iff.mp hr
  refine ⟨_, h.constants _ _ ?_, rfl⟩
  show (a.constantTable.insert _ _).find? _ = _
  rw [SymbolTable.find?_insert, if_pos rfl]

/-- A name that was no constant is none later. -/
theorem Unshadowed.find?_eq_none (h : Unshadowed a b)
    (hc : a.constantTable.find? (Text.ofString word) = none)
    (hname : a.localTable.Has word ∨ a.globalTable.Has word) :
    b.constantTable.find? (Text.ofString word) = none := by
  rw [SymbolTable.find?_eq_none_iff] at hc ⊢
  intro hb
  obtain ⟨hl, hg⟩ := h word hb hc
  rcases hname with hname | hname
  · exact hl hname
  · exact hg hname

theorem Unshadowed.loadForReturn (h : Unshadowed a b) (hnames : KeepsNames a b)
    (hnames' : KeepsNames a' b) (hr : a.loadForReturn word = .ok (item, a')) :
    b.loadForReturn word = .ok (item, b) := by
  unfold Assembly.loadForReturn at hr ⊢
  cases hc : a.constantTable.find? (Text.ofString word) with
  | some i =>
    rw [hc] at hr
    obtain ⟨rfl, -⟩ := Prod.mk.inj (Except.ok.inj hr)
    rw [hnames.constants _ i hc]
  | none =>
    cases hl : a.localTable.find? (Text.ofString word) with
    | some i =>
      rw [hc, hl] at hr
      obtain ⟨rfl, -⟩ := Prod.mk.inj (Except.ok.inj hr)
      rw [h.find?_eq_none hc (.inl ⟨i, hl⟩), hnames.localTable_eq, hl]
    | none =>
      rw [hc, hl] at hr
      obtain ⟨i, hi, rfl⟩ := hnames'.find?_of_loadNumber hr
      rw [hi]

theorem Unshadowed.loadForLoad (h : Unshadowed a b) (hnames : KeepsNames a b)
    (hnames' : KeepsNames a' b) (hr : a.loadForLoad word = .ok (item, a')) :
    b.loadForLoad word = .ok (item, b) := by
  unfold Assembly.loadForLoad at hr ⊢
  cases hc : a.constantTable.find? (Text.ofString word) with
  | some i =>
    rw [hc] at hr
    obtain ⟨rfl, -⟩ := Prod.mk.inj (Except.ok.inj hr)
    rw [hnames.constants _ i hc]
  | none =>
    cases hl : a.localTable.find? (Text.ofString word) with
    | some i =>
      rw [hc, hl] at hr
      obtain ⟨rfl, -⟩ := Prod.mk.inj (Except.ok.inj hr)
      rw [h.find?_eq_none hc (.inl ⟨i, hl⟩), hnames.localTable_eq, hl]
    | none =>
      cases hg : a.globalTable.find? (Text.ofString word) with
      | some i =>
        rw [hc, hl, hg] at hr
        obtain ⟨rfl, -⟩ := Prod.mk.inj (Except.ok.inj hr)
        rw [h.find?_eq_none hc (.inr ⟨i, hg⟩), hnames.localTable_eq, hl, hnames.globalTable_eq, hg]
      | none =>
        rw [hc, hl, hg] at hr
        obtain ⟨i, hi, rfl⟩ := hnames'.find?_of_loadNumber hr
        rw [hi]

/-- **An operand that was resolved is resolved to the same later**, and then changes nothing. -/
theorem Unshadowed.resolve {mnemonic : Mnemonic} {operands : List String} {items : List Item}
    (h : Unshadowed a b) (hnames : KeepsNames a' b)
    (hr : a.resolve mnemonic operands = .ok (items, a')) :
    b.resolve mnemonic operands = .ok (items, b) := by
  have hstart : KeepsNames a b := (keepsNames_of_resolve hr).trans hnames
  cases mnemonic with
  | operation name number =>
    cases operands with
    | nil =>
      obtain ⟨rfl, -⟩ := Prod.mk.inj (Except.ok.inj hr)
      rfl
    | cons word rest =>
      rw [resolve_operation] at hr ⊢
      obtain ⟨n, hn, heq⟩ := map_eq_ok hr
      obtain ⟨rfl, -⟩ := Prod.mk.inj heq
      rw [hstart.operand hn]
      rfl
  | store =>
    cases operands with
    | nil => cases hr
    | cons word rest =>
      rw [resolve_store] at hr ⊢
      obtain ⟨i, hi, heq⟩ := map_eq_ok hr
      obtain ⟨rfl, -⟩ := Prod.mk.inj heq
      rw [hstart.localTable_eq, hi]
      rfl
  | ret =>
    cases operands with
    | nil => cases hr
    | cons word rest =>
      rw [resolve_ret] at hr ⊢
      obtain ⟨⟨item, c⟩, hload, heq⟩ := map_eq_ok hr
      obtain ⟨rfl, rfl⟩ := Prod.mk.inj heq
      rw [h.loadForReturn hstart hnames hload]
      rfl
  | load =>
    cases operands with
    | nil => cases hr
    | cons word rest =>
      rw [resolve_load] at hr ⊢
      obtain ⟨⟨item, c⟩, hload, heq⟩ := map_eq_ok hr
      obtain ⟨rfl, rfl⟩ := Prod.mk.inj heq
      rw [h.loadForLoad hstart hnames hload]
      rfl
  | println =>
    obtain ⟨rfl, -⟩ := Prod.mk.inj (Except.ok.inj hr)
    rfl
  | binary number =>
    obtain ⟨rfl, -⟩ := Prod.mk.inj (Except.ok.inj hr)
    rfl
  | unary number =>
    obtain ⟨rfl, -⟩ := Prod.mk.inj (Except.ok.inj hr)
    rfl

end Resolve

/-! ## Two runs in step -/

/-- Two runs over the same lines, from `start` to `a` and from `again` to `b`, have come equally far:
they have added the same code and the same entries of the line table, and the second has changed
nothing else but the first line. -/
structure InStep (start again : Assembly) (p : Progress) (a b : Assembly) : Prop where
  code : ∃ numbers, a.code = start.code ++ numbers ∧ b.code = again.code ++ numbers
  /-- A gap widens an entry of the same run. -/
  entries : ∃ entries, a.fields.lineTable = start.fields.lineTable.extended entries ∧
    b.fields.lineTable = again.fields.lineTable.extended entries ∧
    (p.started = true → entries ≠ [])
  first : b.fields.firstLine = if p.started then a.fields.firstLine else again.fields.firstLine
  others : ({ b with code := again.code }).withLines again.fields.lineTable again.fields.firstLine
    = again

section InStep

variable {start again : Assembly} {before : Nat}

theorem inStep_start (start again : Assembly) : InStep start again Progress.initial start again where
  code := ⟨[], by simp, by simp⟩
  entries := ⟨[], (Value.extended_nil _).symm, (Value.extended_nil _).symm, by simp [Progress.initial]⟩
  first := rfl
  others := rfl

theorem InStep.table_eq {a b : Assembly} {p : Progress} (h : InStep start again p a b) :
    b.table = again.table := by
  rw [← h.others]
  funext kind
  cases kind <;> rfl

/-- The second run has left the state from which it began, but for code and lines. -/
theorem InStep.eq {a b : Assembly} {p : Progress} (h : InStep start again p a b) :
    b = ({ again with code := b.code }).withLines b.fields.lineTable b.fields.firstLine := by
  rw [← h.others]
  rfl

/-- An instruction that is resolved to the same items by both runs adds the same to both. -/
theorem InStep.emit {a a' b : Assembly} {p : Progress} {entries entries' : List Value}
    {items : List Item} {mnemonic : Mnemonic} {width : Nat} (h : InStep start again p a b)
    (hcode : a'.code = a.code) (hl : a.fields.lineTable = .list entries)
    (hl' : b.fields.lineTable = .list entries') :
    InStep start again (p.placed.count mnemonic)
      (a'.emitted items width (if p.started then widenLast p.gap entries else entries)
        (placedFirst before p a.fields.firstLine))
      (b.emitted items width (if p.started then widenLast p.gap entries' else entries')
        (placedFirst before p b.fields.firstLine)) where
  code := by
    obtain ⟨numbers, ha, hb⟩ := h.code
    refine ⟨numbers ++ Item.allNumbers items, ?_, ?_⟩
    · show a'.code ++ _ = _
      rw [hcode, ha, List.append_assoc]
    · show b.code ++ _ = _
      rw [hb, List.append_assoc]
  entries := by
    obtain ⟨added, ha, hb, hne⟩ := h.entries
    obtain ⟨first, hfirst, rfl⟩ := Value.eq_list_of_extended (ha.symm.trans hl)
    obtain ⟨first', hfirst', rfl⟩ := Value.eq_list_of_extended (hb.symm.trans hl')
    -- Where a gap is widened, the last entry is one that the run has added.
    have hwiden : ∀ es, (if p.started then widenLast p.gap (es ++ added) else es ++ added)
        = es ++ if p.started then widenLast p.gap added else added := by
      intro es
      cases hp : p.started with
      | true => simpa using widenLast_append p.gap es (hne hp)
      | false => rfl
    refine ⟨(if p.started then widenLast p.gap added else added) ++
      [.int width, .int 1], ?_, ?_, by simp⟩
    · rw [hfirst, Value.extended, ← List.append_assoc, ← hwiden]
      rfl
    · rw [hfirst', Value.extended, ← List.append_assoc, ← hwiden]
      rfl
  first := by
    rw [Progress.count_started]
    show placedFirst before p b.fields.firstLine = placedFirst before p a.fields.firstLine
    unfold placedFirst
    cases hp : p.started with
    | true => simpa [hp] using h.first
    | false => rfl
  others := h.others

/-- **One line**, reached by two runs in step. -/
theorem InStep.line {line : String} {a a' b : Assembly} {p p' : Progress}
    (h : InStep start again p a b) (hlisted : start.Listed → again.Listed)
    (hlater : Unshadowed a again) (hnames : KeepsNames a' again)
    (hs : LineStep before line a p (a', p', none)) :
    ∃ b', b.assembleLine before line p = (b', p', none) ∧ InStep start again p' a' b' := by
  cases hs with
  | gap hi =>
    refine ⟨b, by simp only [assembleLine, hi], ?_⟩
    exact ⟨h.code, h.entries, h.first, h.others⟩
  | @emits word operands mnemonic items c entries hi hm hr hl =>
    obtain ⟨added, ha, hb, -⟩ := h.entries
    obtain ⟨first, hfirst, -⟩ := Value.eq_list_of_extended (ha.symm.trans hl)
    obtain ⟨first', hfirst'⟩ := hlisted ⟨first, hfirst⟩
    have hl' : b.fields.lineTable = .list (first' ++ added) := by rw [hb, hfirst', Value.extended]
    have hconstants : b.constantTable = again.constantTable := congrFun h.table_eq .constant
    have hlaterb : Unshadowed a b := by
      intro t ht
      rw [hconstants] at ht
      exact hlater t ht
    have hnamesb : KeepsNames c b := KeepsNames.congr ⟨hnames.constants, hnames.names⟩ h.table_eq
    have hrb := hlaterb.resolve hnamesb hr
    exact ⟨_, assembleLine_of_ok hi hm hrb hl' before p, h.emit (resolve_code hr) hl hl'⟩

/-- **A run over lines**, in step with one that succeeds, succeeds and stays in step. -/
theorem InStep.lines {lines : List String} {a b c : Assembly} {p q : Progress}
    (h : InStep start again p a b) (hlisted : start.Listed → again.Listed)
    (hlater : Unshadowed a again) (hnames : KeepsNames c again)
    (hrun : assembleLines before lines a p = (c, q, none)) :
    ∃ d, assembleLines before lines b p = (d, q, none) ∧ InStep start again q c d := by
  induction lines generalizing a b p with
  | nil =>
    simp only [assembleLines, Prod.mk.injEq] at hrun
    obtain ⟨rfl, rfl, -⟩ := hrun
    exact ⟨b, rfl, h⟩
  | cons line rest ih =>
    have hline := assembleLine_step before line a p
    rcases hr : a.assembleLine before line p with ⟨a', p', g⟩
    rw [hr] at hline
    simp only [assembleLines, hr] at hrun
    cases g with
    | some g => simp at hrun
    | none =>
      have hrest : KeepsNames a' again := (keepsNames_assembleLines hrun).trans hnames
      obtain ⟨b', hb', hstep⟩ := h.line hlisted hlater hrest hline
      simp only [assembleLines, hb']
      exact ih hstep (hlater.later (keepsNames_of_step hline)) hrun

end InStep

/-- A line table that is a list stays one. -/
theorem Listed.assembleLines {before : Nat} {lines : List String} {a b : Assembly} {p q : Progress}
    {f : Option Fault} (h : a.Listed) (hrun : assembleLines before lines a p = (b, q, f)) :
    b.Listed := by
  apply assembleLines_invariant (P := fun c _ => c.Listed) _ hrun h
  rintro line - c p c' p' g ⟨entries, hc⟩ hs
  have hplaced : (c.placed before p).Listed := by
    refine ⟨if p.started then widenLast p.gap entries else entries, ?_⟩
    show placedTable p c.fields.lineTable = _
    rw [hc, placedTable]
  cases hs with
  | gap hi => exact ⟨entries, hc⟩
  | unknown hi hm => exact hplaced
  | unresolved hi hm hr => exact hplaced
  | unlisted hi hm hr hl => exact absurd hc (hl entries)
  | emits hi hm hr hl => exact ⟨_, rfl⟩

/-- **Assembling twice.**  From the state that a run without a fault leaves, the same lines are
assembled without a fault, and add the same code and the same entries of the line table again; all
else is as the first run left it. -/
theorem assemble_assemble {before : Nat} {code : List String} {a : Assembly}
    (hglobals : PlainGlobals a) (h : (a.assemble before code).2 = none) :
    ∃ numbers entries,
      let b := (a.assemble before code).1
      b.code = a.code ++ numbers ∧ b.fields.lineTable = a.fields.lineTable.extended entries ∧
        b.assemble before code =
          ({ b with
              code := b.code ++ numbers
              fields := { b.fields with lineTable := b.fields.lineTable.extended entries } },
            none) := by
  rw [assemble_snd] at h
  rcases hrun : assembleLines before code a Progress.initial with ⟨c, q, f⟩
  rw [hrun] at h
  obtain rfl : f = none := h
  rw [assemble_of_ok hrun]
  have hlater : Unshadowed a c := unshadowed_assembleLines hglobals hrun
  have hlisted : a.Listed → c.Listed := fun ha => ha.assembleLines hrun
  have hstep := inStep_start a (c.withSize (.int (stackSizeFor q.peak)))
  obtain ⟨d, hrun', hend⟩ := hstep.lines hlisted hlater ⟨(KeepsNames.refl c).constants,
    (KeepsNames.refl c).names⟩ hrun
  obtain ⟨numbers, hc, hd⟩ := hend.code
  obtain ⟨entries, hct, hdt, -⟩ := hend.entries
  have hfirst : d.fields.firstLine = c.fields.firstLine := by
    rw [hend.first]
    split <;> rfl
  refine ⟨numbers, entries, hc, hct, ?_⟩
  have hassemble : Assembly.assemble before code (c.withSize (.int (stackSizeFor q.peak)))
      = (d.withSize (.int (stackSizeFor q.peak)), none) := by
    simp only [assemble, hrun']
    rfl
  refine hassemble.trans ?_
  rw [hend.eq, hd, hdt, hfirst]
  rfl

end Assembly

namespace Session

open Assembly

/-- **A second run repeats the first.**  Let the code of a listing be assembled without a fault after
its directives, and let no global name denote a number.  Assembling again succeeds.  The code that
the first run left is there twice, and so are the entries that it added to the line table, after those
that were there before.  Nothing else changes: not the constants, nor any table of symbols, nor the
stack size or the first line.  (A line table that is no list takes no entries, and stays as it is.) -/
theorem assemble_again (listing : Listing)
    (hassemble : (start listing).declare.session.assemble.fault = none)
    (hglobals : (start listing).declare.session.assembly.PlainGlobals) :
    let declared := (start listing).declare.session.assembly
    let once := (start listing).declare.session.assemble.session
    ∃ table,
      once.assemble.fault = none ∧
      once.assemble.session =
        { once with
          assembly := { once.assembly with
            code := once.assembly.code ++ once.assembly.code
            fields := { once.assembly.fields with lineTable := table } } } ∧
      (∀ first, declared.fields.lineTable = .list first → ∃ entries,
        once.assembly.fields.lineTable = .list (first ++ entries) ∧
          table = .list (first ++ entries ++ entries)) ∧
      ((∀ first, declared.fields.lineTable ≠ .list first) →
        once.assembly.fields.lineTable = declared.fields.lineTable ∧
          table = declared.fields.lineTable) := by
  intro declared once
  have hempty : declared.code = [] := declareLines_code listing.directives Assembly.initial
  obtain ⟨numbers, entries, hcode, htable, htwice⟩ := assemble_assemble hglobals hassemble
  rw [hempty, List.nil_append] at hcode
  change once.assembly.code = numbers at hcode
  change once.assembly.fields.lineTable = declared.fields.lineTable.extended entries at htable
  subst hcode
  refine ⟨once.assembly.fields.lineTable.extended entries, congrArg Prod.snd htwice, ?_,
    fun first hfirst => ?_, fun hfixed => ?_⟩
  · exact congrArg (fun r => ({ once with assembly := r.1 } : Session)) htwice
  · rw [hfirst, Value.extended] at htable
    exact ⟨entries, htable, by rw [htable, Value.extended]⟩
  · have hkeep : ∀ es, declared.fields.lineTable.extended es = declared.fields.lineTable := by
      intro es
      cases ht : declared.fields.lineTable with
      | list first => exact absurd ht (hfixed first)
      | _ => rfl
    rw [hkeep] at htable
    exact ⟨htable, by rw [htable, hkeep]⟩

/-- Numbers are loaded before and after they are names, a gap is widened by both runs, and the line
table has an entry of its own before the first. -/
theorem assemble_again_numbers :
    let listing : Listing :=
      { name := "twice"
        lines := ["#define lnotab [9]", "#defn f, g", "#defvar x", "#const one 1", "load 2.5", "",
          "% a gap", "load 2.5", "load g", "store x", "load one", "return True"] }
    let declared := (start listing).declare.session.assembly
    let once := (start listing).declare.session.assemble.session
    (start listing).declare.session.assemble.fault = none ∧ declared.PlainGlobals ∧
      once.assembly.constantTable ≠ declared.constantTable ∧ once.assemble.fault = none ∧
      once.assemble.session.assembly.code = once.assembly.code ++ once.assembly.code ∧
      ∃ v entries, once.assembly.fields.lineTable = .list (v :: entries) ∧
        once.assemble.session.assembly.fields.lineTable = .list (v :: entries ++ entries) := by
  intro listing
  have hassemble : (start listing).declare.session.assemble.fault = none :=
    Option.isNone_iff_eq_none.mp (by decide +kernel)
  have htable : (start listing).declare.session.assembly.globalTable =
      (SymbolTable.empty.insert (Text.ofString "f") 0).insert (Text.ofString "g") 1 := by
    decide +kernel
  have hglobals : (start listing).declare.session.assembly.PlainGlobals := by
    rintro name v hname ⟨hread, -⟩
    rw [htable, SymbolTable.has_insert_iff, SymbolTable.has_insert_iff] at hname
    rcases hname with rfl | rfl | ⟨i, hi⟩
    · have hword : (Literal.read "g").toOption.isNone = true := by decide +kernel
      rw [hread] at hword
      cases hword
    · have hword : (Literal.read "f").toOption.isNone = true := by decide +kernel
      rw [hread] at hword
      cases hword
    · cases hi
  have hkind : (start listing).declare.session.assembly.fields.lineTable.kind = .list := by
    decide +kernel
  have hcount : (start listing).declare.session.assembly.fields.lineTable.items?.map List.length
      = some 1 := by decide +kernel
  have hnew : (start listing).declare.session.assemble.session.assembly.constantTable
      ≠ (start listing).declare.session.assembly.constantTable := by decide +kernel
  have hagain := assemble_again listing hassemble hglobals
  -- From here on it does not matter which session this is.
  clear htable
  generalize (start listing).declare.session = s at hassemble hglobals hkind hcount hnew hagain ⊢
  obtain ⟨table, hfault, hsession, hlisted, -⟩ := hagain
  cases hfirst : s.assembly.fields.lineTable with
  | list first =>
    rw [hfirst, Value.items?, Option.map_some, Option.some.injEq] at hcount
    obtain ⟨v, rfl⟩ := List.length_eq_one_iff.mp hcount
    obtain ⟨entries, honce, rfl⟩ := hlisted _ hfirst
    refine ⟨hassemble, hglobals, hnew, hfault, ?_, v, entries, honce, ?_⟩
    · rw [hsession]
    · rw [hsession]
      rfl
  | _ =>
    rw [hfirst] at hkind
    cases hkind

end Session

end BytecodeAssembler
