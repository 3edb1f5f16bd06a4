import BytecodeAssembler.Proofs.Layout
import BytecodeAssembler.Proofs.LoadedConstants

/-!
# Shorthands of two operations

`PRINTLN` and `RETURN` stand for two operations each, and so for two lines: `PRINT_ITEM` and
`PRINT_NEWLINE`, or a `LOAD` of the operand and `RETURN_VALUE`.  `Expansion` says which two lines
stand for which, and `Listing.expand` writes them into a listing in the place of any chosen lines.

The two lines count as two instructions, so the line table, the first line and the depth of the
stack come out differently, and nothing else does.  `Assembly.Beside` relates two states that differ
in this way.  `LOAD` and `RETURN` resolve their operand by two rules of their own, which agree
unless the operand is a global name (`loadForLoad_of_not_global`).  So a line and its expansion lead
from related states to related states, or fail alike, and a run over a listing goes beside a run
over the listing with its expansions.
-/

namespace BytecodeAssembler

namespace Assembly

/-! ## Expansions of a line -/

/-- **Expansions**: the lines `first` and `second` together stand for what `line` stands for.  An
operand of `RETURN` must be no global name, since `LOAD` looks it up there as well. -/
inductive Expansion (globals : SymbolTable) (line first second : String) : Prop
  | println {operands : List String} (h : Spells line "PRINTLN" operands)
      (hfirst : Spells first "PRINT_ITEM" []) (hsecond : Spells second "PRINT_NEWLINE" [])
  | ret {t : String} {rest : List String} (h : Spells line "RETURN" (t :: rest))
      (hg : ¬ globals.Has t) (hfirst : Spells first "LOAD" [t])
      (hsecond : Spells second "RETURN_VALUE" [])

/-- The texts of an expansion, for the lines that have one. -/
def expansion? (globals : SymbolTable) (line : String) : Option (String × String) :=
  match instruction? line with
  | none => none
  | some (word, operands) =>
    match Mnemonic.ofWord? word, operands with
    | some .println, _ => some ("print_item", "print_newline")
    | some .ret, t :: _ =>
      if (globals.find? (Text.ofString t)).isSome then none
      else some ("load" ++ " " ++ t, "return_value")
    | _, _ => none

/-- The texts of an expansion are one. -/
theorem expansion_of_texts {globals : SymbolTable} {line first second : String}
    (h : expansion? globals line = some (first, second)) : Expansion globals line first second := by
  unfold expansion? at h
  split at h
  · cases h
  rename_i word operands hi
  split at h
  · rename_i hm
    cases h
    cases Mnemonic.ofWord?_eq_some_iff.mp hm with
    | println hn =>
      exact .println ⟨word, hi, hn⟩ ⟨"print_item", by decide +kernel, by decide +kernel⟩
        ⟨"print_newline", by decide +kernel, by decide +kernel⟩
  · rename_i t rest hm
    split at h
    · cases h
    · rename_i hg
      cases h
      rw [Option.isSome_iff_exists] at hg
      cases Mnemonic.ofWord?_eq_some_iff.mp hm with
      | ret hn =>
        exact .ret ⟨word, hi, hn⟩ hg (spells_pair hi (by decide) (by decide))
          ⟨"return_value", by decide +kernel, by decide +kernel⟩
  · cases h

theorem Expansion.not_directive {globals : SymbolTable} {line first second : String}
    (h : Expansion globals line first second) :
    Listing.isDirective line = false ∧ Listing.isDirective first = false ∧
      Listing.isDirective second = false := by
  cases h with
  | println h hfirst hsecond =>
    exact ⟨h.not_directive (by decide +kernel), hfirst.not_directive (by decide +kernel),
      hsecond.not_directive (by decide +kernel)⟩
  | ret h hg hfirst hsecond =>
    exact ⟨h.not_directive (by decide +kernel), hfirst.not_directive (by decide +kernel),
      hsecond.not_directive (by decide +kernel)⟩

/-! ## States beside each other -/

/-- The line table is a list. -/
def Listed (a : Assembly) : Prop :=
  ∃ entries, a.fields.lineTable = .list entries

/-- Two states that differ in the fields about lines only, with line tables that are lists in both
or in none. -/
structure Beside (a a' : Assembly) : Prop where
  state : a' = a.withLines a'.fields.lineTable a'.fields.firstLine
  listed : a.Listed ↔ a'.Listed

/-- Two results of runs: states beside each other, or faults of one kind. -/
structure EndsBeside (r r' : Assembly × Progress × Option Fault) : Prop where
  kind : r'.2.2.map Fault.kind = r.2.2.map Fault.kind
  state : r.2.2 = none → Beside r.1 r'.1

theorem Beside.refl (a : Assembly) : Beside a a :=
  ⟨rfl, Iff.rfl⟩

theorem endsBeside_of_faults {r r' : Assembly × Progress × Option Fault} {f f' : Fault}
    (h : r.2.2 = some f) (h' : r'.2.2 = some f') (hkind : f'.kind = f.kind) : EndsBeside r r' where
  kind := by rw [h, h', Option.map_some, Option.map_some, hkind]
  state := by
    intro hnone
    rw [h] at hnone
    cases hnone

/-- States that were given lists for line tables, and the same code, are beside each other. -/
theorem beside_of_emitted (a : Assembly) (es es' : List Value) (first first' : Value)
    (items : List Item) :
    Beside ((a.withLines (.list es) first).addCode items)
      ((a.withLines (.list es') first').addCode items) :=
  ⟨rfl, ⟨fun _ => ⟨es', rfl⟩, fun _ => ⟨es, rfl⟩⟩⟩

theorem Beside.resolve {a a' : Assembly} (h : Beside a a') (mnemonic : Mnemonic)
    (operands : List String) :
    a'.resolve mnemonic operands = (a.resolve mnemonic operands).map fun r =>
      (r.1, r.2.withLines a'.fields.lineTable a'.fields.firstLine) := by
  conv_lhs => rw [h.state]
  rw [resolve_withLines]

/-! ## What an instruction does -/

section Instruction

variable {line word : String} {operands : List String} {mnemonic : Mnemonic} {a b : Assembly}
  {items : List Item}

theorem assembleLine_of_listed (hi : instruction? line = some (word, operands))
    (hm : Mnemonic.ofWord? word = some mnemonic)
    (hr : a.resolve mnemonic operands = .ok (items, b)) (hl : a.Listed) (before : Nat)
    (p : Progress) :
    ∃ es first q, a.assembleLine before line p
      = ((b.withLines (.list es) first).addCode items, q, none) := by
  obtain ⟨entries, hl⟩ := hl
  exact ⟨_, _, _, assembleLine_of_ok hi hm hr hl before p⟩

theorem assembleLine_of_not_listed (hi : instruction? line = some (word, operands))
    (hm : Mnemonic.ofWord? word = some mnemonic)
    (hr : a.resolve mnemonic operands = .ok (items, b)) (hl : ¬ a.Listed) (before : Nat)
    (p : Progress) : (a.assembleLine before line p).2.2 = some .lineTableFixed := by
  have hplaced : placedTable p a.fields.lineTable = a.fields.lineTable := by
    cases htable : a.fields.lineTable with
    | list entries => exact absurd ⟨entries, htable⟩ hl
    | _ => rfl
  have hadd : ∀ (c : Assembly) (width : Nat), c.fields.lineTable = a.fields.lineTable →
      c.addLine width = .error .lineTableFixed := by
    intro c width hc
    unfold addLine
    rw [hc]
    cases htable : a.fields.lineTable with
    | list entries => exact absurd ⟨entries, htable⟩ hl
    | _ => rfl
  simp only [assembleLine, hi, placeInstruction_eq, assembleInstruction, hm, resolve_withLines, hr,
    Except.map, hplaced]
  rw [hadd]
  rfl

end Instruction

/-- Code that is added in two parts, with other lines in between. -/
theorem addCode_withLines_addCode (a : Assembly) (table table' first first' : Value)
    (items more : List Item) :
    (((a.withLines table first).addCode items).withLines table' first').addCode more
      = (a.withLines table' first').addCode (items ++ more) := by
  have hcode : a.code ++ Item.allNumbers items ++ Item.allNumbers more
      = a.code ++ Item.allNumbers (items ++ more) := by
    rw [Item.allNumbers_append, List.append_assoc]
  simp only [addCode, withLines, hcode]

/-- **One line that both runs have** keeps states beside each other. -/
theorem Beside.assembleLine {a a' : Assembly} (h : Beside a a') (before before' : Nat)
    (line : String) (p p' : Progress) :
    EndsBeside (a.assembleLine before line p) (a'.assembleLine before' line p') := by
  cases hi : instruction? line with
  | none =>
    simp only [Assembly.assembleLine, hi]
    exact ⟨rfl, fun _ => h⟩
  | some w =>
    obtain ⟨word, operands⟩ := w
    cases hm : Mnemonic.ofWord? word with
    | none =>
      simp only [Assembly.assembleLine, hi, placeInstruction_eq, assembleInstruction, hm]
      exact endsBeside_of_faults rfl rfl rfl
    | some mnemonic =>
      have hresolve := h.resolve mnemonic operands
      cases hr : a.resolve mnemonic operands with
      | error f =>
        rw [hr] at hresolve
        exact endsBeside_of_faults (assembleLine_of_error hi hm hr before p)
          (assembleLine_of_error hi hm hresolve before' p') rfl
      | ok r =>
        obtain ⟨items, b⟩ := r
        rw [hr] at hresolve
        by_cases hl : a.Listed
        · obtain ⟨es, first, q, hline⟩ := assembleLine_of_listed hi hm hr hl before p
          obtain ⟨es', first', q', hline'⟩ :=
            assembleLine_of_listed hi hm hresolve (h.listed.mp hl) before' p'
          rw [hline, hline']
          exact ⟨rfl, fun _ => beside_of_emitted b es es' first first' items⟩
        · have hl' : ¬ a'.Listed := fun hl' => hl (h.listed.mpr hl')
          exact endsBeside_of_faults (assembleLine_of_not_listed hi hm hr hl before p)
            (assembleLine_of_not_listed hi hm hresolve hl' before' p') rfl

/-! ## A line and its expansion -/

/-- Numbers are loaded alike, whatever is reported where there is none. -/
theorem loadNumber_alike (a : Assembly) (word : String) (report report' : Report) :
    (∃ r, a.loadNumber word report = .ok r ∧ a.loadNumber word report' = .ok r) ∨
      ∃ f f', a.loadNumber word report = .error f ∧ a.loadNumber word report' = .error f' ∧
        f'.kind = f.kind := by
  unfold loadNumber
  rcases Literal.readNumber word with e | ⟨v, numeric⟩
  · exact .inr ⟨_, _, rfl, rfl, rfl⟩
  cases numeric with
  | false => exact .inr ⟨_, _, rfl, rfl, rfl⟩
  | true =>
    dsimp only
    cases Pool.append a.fields.constants v with
    | error f => exact .inr ⟨f, f, rfl, rfl, rfl⟩
    | ok r => exact .inl ⟨_, rfl, rfl⟩

/-- `LOAD` and `RETURN` find an operand that is no global name in the same place, and fail alike
where they do not find it. -/
theorem loadForLoad_of_not_global {a : Assembly} {word : String}
    (hg : ¬ a.globalTable.Has word) :
    (∃ r, a.loadForReturn word = .ok r ∧ a.loadForLoad word = .ok r) ∨
      ∃ f f', a.loadForReturn word = .error f ∧ a.loadForLoad word = .error f' ∧
        f'.kind = f.kind := by
  have hnone := SymbolTable.find?_eq_none_iff.mpr hg
  unfold loadForReturn loadForLoad
  cases a.constantTable.find? (Text.ofString word) with
  | some i => exact .inl ⟨_, rfl, rfl⟩
  | none =>
    cases a.localTable.find? (Text.ofString word) with
    | some i => exact .inl ⟨_, rfl, rfl⟩
    | none =>
      simp only [hnone]
      exact loadNumber_alike a word _ _

/-- The operations of expansions without operands. -/
theorem expansion_operations :
    Mnemonic.Named "PRINT_ITEM" (.operation "PRINT_ITEM" Opcode.printItem) ∧
      Mnemonic.Named "PRINT_NEWLINE" (.operation "PRINT_NEWLINE" Opcode.printNewline) ∧
      Mnemonic.Named "RETURN_VALUE" (.operation "RETURN_VALUE" Opcode.returnValue) :=
  ⟨.operation (by decide +kernel), .operation (by decide +kernel), .operation (by decide +kernel)⟩

theorem assembleLines_cons_of_fault {before : Nat} {line : String} {rest : List String}
    {a : Assembly} {p : Progress} {f : Fault} (h : (a.assembleLine before line p).2.2 = some f) :
    (assembleLines before (line :: rest) a p).2.2 = some f := by
  rw [assembleLines]
  rcases hr : a.assembleLine before line p with ⟨b, q, g⟩
  rw [hr] at h
  obtain rfl : g = some f := h
  rfl

/-- **Two instructions in a row**, held against one instruction with the items of both: what the
first resolves to, and that the second is an operation without operand, is all that counts. -/
theorem Beside.two_lines {a a' b : Assembly} (h : Beside a a') {line first second : String}
    {name name₁ name₂ : String} {operands operands₁ : List String} {m m₁ : Mnemonic}
    {number : Nat} {items : List Item} (hs : Spells line name operands)
    (hs₁ : Spells first name₁ operands₁) (hs₂ : Spells second name₂ [])
    (hm : Mnemonic.Named name m) (hm₁ : Mnemonic.Named name₁ m₁)
    (hm₂ : Mnemonic.Named name₂ (.operation name₂ number))
    (hr : a.resolve m operands = .ok (items ++ [⟨number, none⟩], b))
    (hr₁ : a.resolve m₁ operands₁ = .ok (items, b)) (before before' : Nat) (p p' : Progress) :
    EndsBeside (a.assembleLine before line p) (assembleLines before' [first, second] a' p') := by
  obtain ⟨word, hi, rfl⟩ := hs
  obtain ⟨word₁, hi₁, rfl⟩ := hs₁
  obtain ⟨word₂, hi₂, rfl⟩ := hs₂
  rw [← Mnemonic.ofWord?_eq_some_iff] at hm hm₁ hm₂
  have hresolve := h.resolve m₁ operands₁
  rw [hr₁] at hresolve
  -- If the line table is no list, the first of the two lines fails as the one line does.
  by_cases hl : a.Listed
  · obtain ⟨es, f, q, hline⟩ := assembleLine_of_listed hi hm hr hl before p
    obtain ⟨es₁, f₁, q₁, hline₁⟩ :=
      assembleLine_of_listed hi₁ hm₁ hresolve (h.listed.mp hl) before' p'
    have hl₁ : (((b.withLines a'.fields.lineTable a'.fields.firstLine).withLines (.list es₁)
        f₁).addCode items).Listed := ⟨es₁, rfl⟩
    obtain ⟨es₂, f₂, q₂, hline₂⟩ := assembleLine_of_listed hi₂ hm₂ rfl hl₁ before' q₁
    simp only [assembleLines, hline, hline₁, hline₂]
    refine ⟨rfl, fun _ => ?_⟩
    rw [addCode_withLines_addCode]
    exact beside_of_emitted b es es₂ f f₂ _
  · have hl' : ¬ a'.Listed := fun hl' => hl (h.listed.mpr hl')
    have hfault := assembleLine_of_not_listed hi₁ hm₁ hresolve hl' before' p'
    exact endsBeside_of_faults (assembleLine_of_not_listed hi hm hr hl before p)
      (assembleLines_cons_of_fault hfault) rfl

/-- **A line and its expansion** lead from states beside each other to such states, or fail
alike. -/
theorem Expansion.assembleLines {a a' : Assembly} {line first second : String}
    (hx : Expansion a.globalTable line first second) (h : Beside a a') (before before' : Nat)
    (p p' : Progress) :
    EndsBeside (a.assembleLine before line p)
      (assembleLines before' [first, second] a' p') := by
  obtain ⟨hitem, hnewline, hvalue⟩ := expansion_operations
  cases hx with
  | println hs hfirst hsecond =>
    exact h.two_lines hs hfirst hsecond (.println rfl) hitem hnewline rfl rfl before before' p p'
  | @ret t rest hs hg hfirst hsecond =>
    rcases loadForLoad_of_not_global hg with ⟨⟨item, b⟩, hret, hload⟩ | ⟨f, f', hret, hload, hkind⟩
    · have hr : a.resolve .ret (t :: rest) = .ok ([item] ++ [⟨Opcode.returnValue, none⟩], b) := by
        rw [resolve_ret, hret]
        rfl
      have hr₁ : a.resolve .load [t] = .ok ([item], b) := by
        rw [resolve_load, hload]
        rfl
      exact h.two_lines hs hfirst hsecond (.ret rfl) (.load rfl) hvalue hr hr₁ before before' p p'
    · obtain ⟨word, hi, hword⟩ := hs
      obtain ⟨word₁, hi₁, hword₁⟩ := hfirst
      have hm := Mnemonic.ofWord?_eq_some_iff.mpr (.ret hword)
      have hm₁ := Mnemonic.ofWord?_eq_some_iff.mpr (.load hword₁)
      have hr : a.resolve .ret (t :: rest) = .error f := by
        rw [resolve_ret, hret]
        rfl
      have hr₁ : a'.resolve .load [t] = .error f' := by
        rw [h.resolve, resolve_load, hload]
        rfl
      have hfault := assembleLine_of_error hi₁ hm₁ hr₁ before' p'
      exact endsBeside_of_faults (assembleLine_of_error hi hm hr before p)
        (assembleLines_cons_of_fault hfault) hkind

/-! ## Runs -/

/-- Some of the lines replaced by their expansions. -/
inductive Expanded (globals : SymbolTable) : List String → List String → Prop
  | nil : Expanded globals [] []
  | keep {line : String} {rest rest' : List String} (hrest : Expanded globals rest rest') :
      Expanded globals (line :: rest) (line :: rest')
  | expand {line first second : String} {rest rest' : List String}
      (hx : Expansion globals line first second) (hrest : Expanded globals rest rest') :
      Expanded globals (line :: rest) (first :: second :: rest')

/-- Results beside each other are gone on from beside each other. -/
theorem EndsBeside.bind {before before' : Nat} {line : String} {head rest rest' : List String}
    {a a' : Assembly} {p p' : Progress}
    (h : EndsBeside (a.assembleLine before line p) (assembleLines before' head a' p'))
    (hrest : ∀ b q b' q', a.assembleLine before line p = (b, q, none) → Beside b b' →
      EndsBeside (assembleLines before rest b q) (assembleLines before' rest' b' q')) :
    EndsBeside (assembleLines before (line :: rest) a p)
      (assembleLines before' (head ++ rest') a' p') := by
  rw [assembleLines_append, Assembly.assembleLines]
  rcases hr : a.assembleLine before line p with ⟨b, q, f⟩
  rcases hr' : assembleLines before' head a' p' with ⟨b', q', f'⟩
  rw [hr, hr'] at h
  obtain ⟨hkind, hstate⟩ := h
  cases f with
  | none =>
    cases f' with
    | none => exact hrest b q b' q' hr (hstate rfl)
    | some f' => cases hkind
  | some f =>
    cases f' with
    | none => cases hkind
    | some f' => exact endsBeside_of_faults rfl rfl (Option.some.inj hkind)

/-- **A run beside a run over expansions.** -/
theorem Expanded.run {globals : SymbolTable} {lines lines' : List String}
    (h : Expanded globals lines lines') {a a' : Assembly} (hg : a.globalTable = globals)
    (hb : Beside a a') (before before' : Nat) (p p' : Progress) :
    EndsBeside (assembleLines before lines a p) (assembleLines before' lines' a' p') := by
  -- No line changes the global names, so an expansion stays one along the run.
  have hkeeps : ∀ {line : String} {a b : Assembly} {p q : Progress}, a.globalTable = globals →
      a.assembleLine before line p = (b, q, none) → b.globalTable = globals := by
    intro line a b p q ha hline
    have hstep := assembleLine_step before line a p
    rw [hline] at hstep
    have hnames := (keepsNames_of_step hstep).names .global (by simp)
    exact hnames.trans ha
  induction h generalizing a a' p p' with
  | nil => exact ⟨rfl, fun _ => hb⟩
  | @keep line rest rest' hrest ih =>
    have hline := hb.assembleLine before before' line p p'
    have hone : assembleLines before' [line] a' p' = a'.assembleLine before' line p' := by
      simp only [assembleLines]
      rcases a'.assembleLine before' line p' with ⟨b', q', f'⟩
      cases f' <;> rfl
    rw [← hone] at hline
    exact hline.bind fun b q b' q' hr hbb => ih (hkeeps hg hr) hbb q q'
  | @expand line first second rest rest' hx hrest ih =>
    have hlines := Expansion.assembleLines (hg ▸ hx) hb before before' p p'
    exact hlines.bind fun b q b' q' hr hbb => ih (hkeeps hg hr) hbb q q'

theorem Expanded.filter_directives {globals : SymbolTable} {lines lines' : List String}
    (h : Expanded globals lines lines') :
    lines'.filter Listing.isDirective = lines.filter Listing.isDirective := by
  induction h with
  | nil => rfl
  | keep hrest ih => simp [List.filter_cons, ih]
  | expand hx hrest ih =>
    obtain ⟨hline, hfirst, hsecond⟩ := hx.not_directive
    simp [hline, hfirst, hsecond, ih]

theorem Expanded.codeOf {globals : SymbolTable} {lines lines' : List String}
    (h : Expanded globals lines lines') :
    Expanded globals (Listing.codeOf lines) (Listing.codeOf lines') := by
  induction h with
  | nil => exact .nil
  | @keep line rest rest' hrest ih =>
    cases hd : Listing.isDirective line with
    | true => simpa [Listing.codeOf, hd] using ih
    | false => simpa [Listing.codeOf, hd] using Expanded.keep ih
  | @expand line first second rest rest' hx hrest ih =>
    obtain ⟨hline, hfirst, hsecond⟩ := hx.not_directive
    simpa [Listing.codeOf, hline, hfirst, hsecond] using Expanded.expand hx ih

/-- The stack size is all that the end of a run adds. -/
theorem EndsBeside.assemble {before before' : Nat} {code code' : List String} {a a' : Assembly}
    (h : EndsBeside (assembleLines before code a Progress.initial)
      (assembleLines before' code' a' Progress.initial)) :
    (a'.assemble before' code').2.map Fault.kind = (a.assemble before code).2.map Fault.kind ∧
      ((a.assemble before code).2 = none →
        (a.assemble before code).1.SameCode (a'.assemble before' code').1) := by
  rcases hr : assembleLines before code a Progress.initial with ⟨b, q, f⟩
  rcases hr' : assembleLines before' code' a' Progress.initial with ⟨b', q', f'⟩
  rw [hr, hr'] at h
  rw [assemble_snd, assemble_snd, hr, hr']
  refine ⟨h.kind, ?_⟩
  rintro (rfl : f = none)
  obtain rfl : f' = none := by
    have hkind := h.kind
    cases f' with
    | none => rfl
    | some f' => cases hkind
  have hstate : b' = b.withLines b'.fields.lineTable b'.fields.firstLine := (h.state rfl).state
  rw [assemble_of_ok hr, assemble_of_ok hr', hstate]
  exact sameCode_withSize b b.fields.lineTable b'.fields.lineTable b.fields.firstLine
    b'.fields.firstLine (.int (stackSizeFor q.peak)) (.int (stackSizeFor q'.peak))

end Assembly

/-! ## Listings with expansions -/

namespace Listing

open Assembly

/-- A listing with the shorthands of two operations on some of its lines expanded, and all else as
it is.  The global names that count are those that the directives leave. -/
def Expanded (listing listing' : Listing) : Prop :=
  Assembly.Expanded listing.declared.assembly.globalTable listing.lines listing'.lines

/-- Lines with the texts of expansions in the place of the chosen ones among them that have one; the
first is chosen by the number `place`. -/
def expandLines (globals : SymbolTable) (chosen : Nat → Bool) (place : Nat) :
    List String → List String
  | [] => []
  | line :: rest =>
    match if chosen place then expansion? globals line else none with
    | some (first, second) => first :: second :: expandLines globals chosen (place + 1) rest
    | none => line :: expandLines globals chosen (place + 1) rest

/-- The listing with the chosen lines expanded, a line being chosen by how many stand before it. -/
def expand (chosen : Nat → Bool) (listing : Listing) : Listing :=
  { listing with
    lines := expandLines listing.declared.assembly.globalTable chosen 0 listing.lines }

theorem expanded_expandLines (globals : SymbolTable) (chosen : Nat → Bool) (place : Nat)
    (lines : List String) :
    Assembly.Expanded globals lines (expandLines globals chosen place lines) := by
  induction lines generalizing place with
  | nil => exact .nil
  | cons line rest ih =>
    unfold expandLines
    split
    · rename_i first second hchosen
      split at hchosen
      · exact .expand (expansion_of_texts hchosen) (ih _)
      · cases hchosen
    · exact .keep (ih _)

theorem expanded_expand (listing : Listing) (chosen : Nat → Bool) :
    listing.Expanded (listing.expand chosen) :=
  expanded_expandLines _ chosen 0 listing.lines

end Listing

/-- **Shorthands of two operations are their expansions.**  Let some of them be expanded in a
listing.  Declaring comes to the same for both listings.  Assembling after that succeeds for both or
for none; where it succeeds, it leaves the same code, constants and symbol tables, and where it
fails, the faults are of one kind. -/
theorem Session.expanded_agrees {listing listing' : Listing} (h : listing.Expanded listing') :
    let declared := (Session.start listing).declare
    let declared' := (Session.start listing').declare
    let done := declared.session.assemble
    let done' := declared'.session.assemble
    declared.Agrees declared' ∧ (done.fault = none ↔ done'.fault = none) ∧
      done'.fault.map Fault.kind = done.fault.map Fault.kind ∧
      (done.fault = none → done.session.assembly.SameCode done'.session.assembly) := by
  intro declared declared' done done'
  have hdeclare : declared.Agrees declared' := Session.declare_agrees rfl h.filter_directives
  have hbeside : Assembly.Beside listing.declared.assembly listing'.declared.assembly := by
    have hsame : listing'.declared.assembly = listing.declared.assembly := hdeclare.assembly
    rw [hsame]
    exact Assembly.Beside.refl _
  have hruns := h.codeOf.run rfl hbeside listing.linesBeforeCode listing'.linesBeforeCode
    Progress.initial Progress.initial
  rw [← Listing.code_eq_codeOf, ← Listing.code_eq_codeOf] at hruns
  obtain ⟨hkind, hcode⟩ := hruns.assemble
  change done'.fault.map Fault.kind = done.fault.map Fault.kind at hkind
  refine ⟨hdeclare, ?_, hkind, hcode⟩
  calc done.fault = none
      ↔ done.fault.map Fault.kind = none := Option.map_eq_none_iff.symm
    _ ↔ done'.fault.map Fault.kind = none := by rw [hkind]
    _ ↔ done'.fault = none := Option.map_eq_none_iff

/-- Every line is chosen.  The last one returns a constant with the name of a global, and so has no
expansion. -/
theorem Session.expanded_agrees_everywhere :
    let listing : Listing :=
      { name := "expanded"
        lines := ["#const pi 3", "load 7", "println it", "", "#defn f, pi", "load f",
          "Return 7 twice", "return 5", "return pi"] }
    let expanded := listing.expand fun _ => true
    let done := listing.declared.assemble
    let done' := expanded.declared.assemble
    expanded.lines
        = ["#const pi 3", "load 7", "print_item", "print_newline", "", "#defn f, pi", "load f",
          "load 7", "return_value", "load 5", "return_value", "return pi"] ∧
      done.fault = none ∧ done'.fault = none ∧
      done.session.assembly.SameCode done'.session.assembly := by
  intro listing expanded done done'
  have hfault : done.fault = none := by
    have hnone : done.fault.isNone = true := by decide +kernel
    exact Option.isNone_iff_eq_none.mp hnone
  obtain ⟨-, hboth, -, hcode⟩ :=
    Session.expanded_agrees (Listing.expanded_expand listing fun _ => true)
  exact ⟨by decide +kernel, hfault, hboth.mp hfault, hcode hfault⟩

end BytecodeAssembler
