import BytecodeAssembler.Proofs.Calls
import BytecodeAssembler.Proofs.DirectiveStep
import BytecodeAssembler.Proofs.LineStep
import BytecodeAssembler.Proofs.Shorthands
import Mathlib.Data.List.Basic
import Mathlib.Data.List.Forall2

/-!
# Layout

Where directives, empty lines and comments stand in a listing, how its lines are indented and in
which case mnemonics are written does not matter to the code.  Two listings with the same directives
and the same instructions, in this sense, are assembled to the same code and the same constants, or
fail with the same kind of fault (`Session.layout_agrees`).

Layout does enter the run, by the gap that is counted before an instruction and by the flag for the
first one.  Both go into the first line and into the odd entries of the line table, and nowhere
else: `Assembly.Alike` relates two states that differ in these only.  A line without an instruction
keeps it on either side, and so does an instruction that both listings reach.
-/

namespace BytecodeAssembler

/-! ## Words in any case -/

namespace Text

/-- Words that differ in the case of ASCII letters only. -/
def SameLetters (v w : String) : Prop :=
  v.toList.map Char.toLower = w.toList.map Char.toLower

instance (v w : String) : Decidable (SameLetters v w) :=
  inferInstanceAs (Decidable (_ = _))

theorem capital_toLower (c : Char) : capital c.toLower = capital c := by
  by_cases h : c.toNat < 128
  · have hall : ∀ n < 128, capital (Char.ofNat n).toLower = capital (Char.ofNat n) := by
      decide +kernel
    simpa using hall c.toNat h
  · have hlower : c.toLower = c := by
      refine dif_neg ?_
      rintro ⟨-, hle⟩
      have hz : c.toNat ≤ 'Z'.toNat := UInt32.le_iff_toNat_le.mp hle
      exact h (Nat.lt_of_le_of_lt hz (by decide))
    rw [hlower]

theorem capitals_eq_of_sameLetters {v w : String} (h : SameLetters v w) :
    capitals v = capitals w := by
  have hlower : ∀ word : String, word.toList.flatMap capital
      = (word.toList.map Char.toLower).flatMap capital := by
    intro word
    rw [List.flatMap_map]
    exact List.flatMap_congr fun c _ => (capital_toLower c).symm
  rw [capitals, capitals, hlower v, hlower w, h]

end Text

/-! ## Line tables -/

namespace Assembly

/-- Entries of line tables that agree at even places, where they come in pairs. -/
structure EntriesAlike (es es' : List Value) : Prop where
  length : es'.length = es.length
  even : es.length % 2 = 0 → ∀ k, es'[2 * k]? = es[2 * k]?

theorem length_widenLast (gap : Nat) (es : List Value) : (widenLast gap es).length = es.length := by
  induction es with
  | nil => rfl
  | cons v rest ih =>
    cases v <;> cases rest <;> simp_all [widenLast]

/-- Widening changes no entry but the last. -/
theorem getElem?_widenLast (gap : Nat) (es : List Value) {i : Nat} (hi : i + 1 ≠ es.length) :
    (widenLast gap es)[i]? = es[i]? := by
  induction es generalizing i with
  | nil => rfl
  | cons v rest ih =>
    cases rest with
    | nil =>
      have hout : ∀ w : Value, [w][i]? = none := by
        intro w
        rw [List.getElem?_eq_none_iff]
        simp only [List.length_singleton] at hi ⊢
        omega
      cases v <;> simp only [widenLast, hout]
    | cons w rest =>
      have hkeep : widenLast gap (v :: w :: rest) = v :: widenLast gap (w :: rest) := by
        cases v <;> rfl
      rw [hkeep]
      cases i with
      | zero => rfl
      | succ i => exact ih (by simpa using hi)

theorem EntriesAlike.refl (es : List Value) : EntriesAlike es es :=
  ⟨rfl, fun _ _ => rfl⟩

/-- The last of an even number of entries is at an odd place. -/
theorem EntriesAlike.widen {es es' : List Value} (h : EntriesAlike es es') (gap gap' : Nat) :
    EntriesAlike (widenLast gap es) (widenLast gap' es') where
  length := by rw [length_widenLast, length_widenLast, h.length]
  even := by
    intro heven k
    rw [length_widenLast] at heven
    have hlength := h.length
    rw [getElem?_widenLast _ _ (by omega), getElem?_widenLast _ _ (by omega), h.even heven k]

theorem EntriesAlike.append {es es' : List Value} (h : EntriesAlike es es') (v w : Value) :
    EntriesAlike (es ++ [v, w]) (es' ++ [v, w]) where
  length := by simp [h.length]
  even := by
    intro heven k
    have heven' : es.length % 2 = 0 := by
      rw [List.length_append] at heven
      simpa using heven
    simp only [List.getElem?_append, h.length, h.even heven' k]

/-- Line tables that agree as far as layout does not matter. -/
inductive TablesAlike : Value → Value → Prop
  | lists {es es' : List Value} (h : EntriesAlike es es') : TablesAlike (.list es) (.list es')
  | fixed {table : Value} (h : ∀ es, table ≠ .list es) : TablesAlike table table

theorem TablesAlike.refl (table : Value) : TablesAlike table table := by
  by_cases h : ∃ es, table = .list es
  · obtain ⟨es, rfl⟩ := h
    exact .lists (.refl es)
  · exact .fixed fun es heq => h ⟨es, heq⟩

/-! ## Two runs -/

/-- Two states that differ in their first lines and in what layout enters in their line tables. -/
structure Alike (a a' : Assembly) : Prop where
  state : a' = a.withLines a'.fields.lineTable a'.fields.firstLine
  table : TablesAlike a.fields.lineTable a'.fields.lineTable

/-- Two runs that have come equally far, but for the gaps. -/
structure ProgressAlike (p p' : Progress) : Prop where
  started : p'.started = p.started
  depth : p'.depth = p.depth
  peak : p'.peak = p.peak

/-- Two results of runs that differ as layout lets them, with faults of one kind. -/
structure RunsAlike (r r' : Assembly × Progress × Option Fault) : Prop where
  assembly : Alike r.1 r'.1
  progress : ProgressAlike r.2.1 r'.2.1
  kind : r'.2.2.map Fault.kind = r.2.2.map Fault.kind

theorem alike_withLines {t t' : Value} (ht : TablesAlike t t') (a : Assembly)
    (first first' : Value) : Alike (a.withLines t first) (a.withLines t' first') :=
  ⟨rfl, ht⟩

theorem ProgressAlike.push {p p' : Progress} (h : ProgressAlike p p') :
    ProgressAlike p.push p'.push where
  started := h.started
  depth := by simp only [Progress.push, h.depth]
  peak := by simp only [Progress.push, h.depth, h.peak]

theorem ProgressAlike.pop {p p' : Progress} (h : ProgressAlike p p') :
    ProgressAlike p.pop p'.pop where
  started := h.started
  depth := by simp only [Progress.pop, h.depth]
  peak := h.peak

theorem ProgressAlike.count {p p' : Progress} (h : ProgressAlike p p') (mnemonic : Mnemonic) :
    ProgressAlike (p.count mnemonic) (p'.count mnemonic) := by
  cases mnemonic with
  | operation name number =>
    simp only [Progress.count]
    split
    · exact h.push
    · split
      · exact h.pop
      · exact h
  | load => exact h.push
  | ret => exact h
  | unary number => exact h
  | _ => exact h.pop

theorem TablesAlike.placed {p p' : Progress} (hp : ProgressAlike p p') {t t' : Value}
    (ht : TablesAlike t t') : TablesAlike (placedTable p t) (placedTable p' t') := by
  cases ht with
  | lists h =>
    simp only [placedTable, hp.started]
    cases p.started with
    | false => exact .lists h
    | true => exact .lists (h.widen _ _)
  | fixed h =>
    have hkeep : ∀ q, placedTable q t = t := by
      intro q
      cases t with
      | list es => exact absurd rfl (h es)
      | _ => rfl
    rw [hkeep, hkeep]
    exact .fixed h

/-- An instruction is resolved alike in two such states, and adds the same to both. -/
theorem runsAlike_assembleInstruction {a : Assembly} {t t' first first' : Value} {v w : String}
    (hw : Text.SameLetters v w) (operands : List String) (ht : TablesAlike t t') {p p' : Progress}
    (hp : ProgressAlike p p') :
    RunsAlike ((a.withLines t first).assembleInstruction v operands p)
      ((a.withLines t' first').assembleInstruction w operands p') := by
  have hm : Mnemonic.ofWord? v = Mnemonic.ofWord? w := by
    rw [Mnemonic.ofWord?, Mnemonic.ofWord?, Text.capitals_eq_of_sameLetters hw]
  unfold Assembly.assembleInstruction
  rw [hm]
  cases Mnemonic.ofWord? w with
  | none => exact ⟨alike_withLines ht a _ _, hp, rfl⟩
  | some mnemonic =>
    simp only [resolve_withLines]
    cases a.resolve mnemonic operands with
    | error f => exact ⟨alike_withLines ht a _ _, hp, rfl⟩
    | ok r =>
      obtain ⟨items, b⟩ := r
      cases ht with
      | lists h => exact ⟨⟨rfl, .lists (h.append _ _)⟩, hp.count mnemonic, rfl⟩
      | fixed h =>
        cases t with
        | list es => exact absurd rfl (h es)
        | _ => exact ⟨⟨rfl, .fixed h⟩, hp, rfl⟩

/-- **One instruction**, reached by two runs that differ as layout lets them. -/
theorem Alike.assembleLine {a a' : Assembly} {p p' : Progress} {line line' v w : String}
    {operands : List String} (ha : Alike a a') (hp : ProgressAlike p p')
    (hi : instruction? line = some (v, operands)) (hi' : instruction? line' = some (w, operands))
    (hw : Text.SameLetters v w) (before before' : Nat) :
    RunsAlike (a.assembleLine before line p) (a'.assembleLine before' line' p') := by
  simp only [Assembly.assembleLine, hi, hi', placeInstruction_eq]
  rw [ha.state]
  have hplaced : ProgressAlike p.placed p'.placed := ⟨rfl, hp.depth, hp.peak⟩
  exact runsAlike_assembleInstruction hw operands (ha.table.placed hp) hplaced

/-- Lines without an instruction change the gap only. -/
theorem assembleLines_gaps {lines : List String} (h : ∀ line ∈ lines, instruction? line = none)
    (before : Nat) (a : Assembly) (p : Progress) :
    assembleLines before lines a p = (a, { p with gap := p.gap + lines.length }, none) := by
  induction lines generalizing p with
  | nil => rfl
  | cons line rest ih =>
    have hline : a.assembleLine before line p = (a, { p with gap := p.gap + 1 }, none) := by
      simp only [Assembly.assembleLine, h line List.mem_cons_self]
    simp only [assembleLines, hline, ih fun l hl => h l (List.mem_cons_of_mem _ hl),
      List.length_cons, Nat.add_assoc, Nat.add_comm 1]

/-- The same instruction, with its word in any case. -/
def SameInstruction (i i' : String × List String) : Prop :=
  Text.SameLetters i.1 i'.1 ∧ i.2 = i'.2

instance : DecidableRel SameInstruction :=
  fun _ _ => inferInstanceAs (Decidable (_ ∧ _))

/-- **Runs over lines with the same instructions**, wherever the other lines stand. -/
theorem Alike.assembleLines {lines lines' : List String} {a a' : Assembly} {p p' : Progress}
    (ha : Alike a a') (hp : ProgressAlike p p')
    (h : List.Forall₂ SameInstruction (lines.filterMap instruction?)
      (lines'.filterMap instruction?)) (before before' : Nat) :
    RunsAlike (assembleLines before lines a p) (assembleLines before' lines' a' p') := by
  generalize hinstrs : lines.filterMap instruction? = instrs at h
  generalize hinstrs' : lines'.filterMap instruction? = instrs' at h
  induction h generalizing lines lines' a a' p p' with
  | nil =>
    rw [assembleLines_gaps (List.filterMap_eq_nil_iff.mp hinstrs),
      assembleLines_gaps (List.filterMap_eq_nil_iff.mp hinstrs')]
    exact ⟨ha, ⟨hp.started, hp.depth, hp.peak⟩, rfl⟩
  | @cons i i' rest rest' hsame hrest ih =>
    obtain ⟨v, operands⟩ := i
    obtain ⟨w, operands'⟩ := i'
    obtain ⟨hw, rfl⟩ := hsame
    obtain ⟨gaps, line, later, rfl, hgaps, hi, hlater⟩ := List.filterMap_eq_cons_iff.mp hinstrs
    obtain ⟨gaps', line', later', rfl, hgaps', hi', hlater'⟩ :=
      List.filterMap_eq_cons_iff.mp hinstrs'
    rw [assembleLines_append, assembleLines_append, assembleLines_gaps hgaps,
      assembleLines_gaps hgaps']
    -- After the gaps both runs reach the instruction.
    have hgap : ProgressAlike { p with gap := p.gap + gaps.length }
        { p' with gap := p'.gap + gaps'.length } := ⟨hp.started, hp.depth, hp.peak⟩
    have hstep := ha.assembleLine hgap hi hi' hw before before'
    simp only [Assembly.assembleLines]
    rcases hr : a.assembleLine before line _ with ⟨b, q, f⟩
    rcases hr' : a'.assembleLine before' line' _ with ⟨b', q', f'⟩
    rw [hr, hr'] at hstep
    obtain ⟨hb, hq, hkind⟩ := hstep
    cases f with
    | none =>
      cases f' with
      | none => exact ih hb hq hlater hlater'
      | some f' => cases hkind
    | some f =>
      cases f' with
      | none => cases hkind
      | some f' => exact ⟨hb, hq, hkind⟩

end Assembly

/-! ## Two listings -/

namespace Listing

/-- The instructions of the code, each as the words of its line. -/
def instructions (listing : Listing) : List (String × List String) :=
  listing.code.filterMap Assembly.instruction?

/-- Two listings that differ in layout only: they have the same directive lines in the same order,
and the same instructions in the same order, a mnemonic being spelled in any case. -/
structure SameContent (listing listing' : Listing) : Prop where
  directives : listing'.directives = listing.directives
  instructions : List.Forall₂ Assembly.SameInstruction listing.instructions listing'.instructions

end Listing

/-- Two states that agree in the code, the symbol tables and all fields but the two about lines. -/
structure Assembly.AgreesButLines (a a' : Assembly) : Prop where
  code : a'.code = a.code
  constantTable : a'.constantTable = a.constantTable
  globalTable : a'.globalTable = a.globalTable
  localTable : a'.localTable = a.localTable
  fields : ∀ field, field ≠ .firstLine → field ≠ .lineTable →
    a'.fields.get field = a.fields.get field

theorem Assembly.Alike.agreesButLines {a a' : Assembly} (h : Alike a a') : AgreesButLines a a' := by
  rw [h.state]
  refine ⟨rfl, rfl, rfl, rfl, fun field hfirst htable => ?_⟩
  cases field with
  | firstLine => exact absurd rfl hfirst
  | lineTable => exact absurd rfl htable
  | _ => rfl

/-- Two states that agree in the code, the symbol tables and all fields but the two about lines and
the stack size. -/
structure Assembly.SameCode (a a' : Assembly) : Prop where
  code : a'.code = a.code
  constantTable : a'.constantTable = a.constantTable
  globalTable : a'.globalTable = a.globalTable
  localTable : a'.localTable = a.localTable
  fields : ∀ field, field ≠ .firstLine → field ≠ .lineTable → field ≠ .stackSize →
    a'.fields.get field = a.fields.get field

/-- The same state with another stack size. -/
def Assembly.withSize (a : Assembly) (size : Value) : Assembly :=
  { a with fields := { a.fields with stackSize := size } }

theorem Assembly.sameCode_withSize (a : Assembly) (table table' first first' size size' : Value) :
    SameCode ((a.withLines table first).withSize size)
      ((a.withLines table' first').withSize size') := by
  refine ⟨rfl, rfl, rfl, rfl, fun field hfirst htable hsize => ?_⟩
  cases field with
  | firstLine => exact absurd rfl hfirst
  | lineTable => exact absurd rfl htable
  | stackSize => exact absurd rfl hsize
  | _ => rfl

theorem Assembly.Alike.refl (a : Assembly) : Alike a a :=
  ⟨rfl, .refl _⟩

/-- The stack size depends on the peak of the stack, which is the same for both. -/
theorem Assembly.RunsAlike.ended {before before' : Nat} {code code' : List String} {a a' : Assembly}
    (h : RunsAlike (assembleLines before code a Progress.initial)
      (assembleLines before' code' a' Progress.initial)) :
    Alike (a.assemble before code).1 (a'.assemble before' code').1 ∧
      (a'.assemble before' code').2.map Fault.kind = (a.assemble before code).2.map Fault.kind := by
  rcases hr : assembleLines before code a Progress.initial with ⟨b, q, f⟩
  rcases hr' : assembleLines before' code' a' Progress.initial with ⟨b', q', f'⟩
  rw [hr, hr'] at h
  simp only [assemble, hr, hr']
  obtain ⟨⟨hstate, htable⟩, hq, hkind⟩ := h
  cases f with
  | none =>
    cases f' with
    | none =>
      refine ⟨⟨?_, htable⟩, rfl⟩
      dsimp only at hstate hq ⊢
      rw [hq.peak, hstate]
      rfl
    | some f' => cases hkind
  | some f =>
    cases f' with
    | none => cases hkind
    | some f' => exact ⟨⟨hstate, htable⟩, hkind⟩

/-- The line table is a list of pairs. -/
def Assembly.Paired (a : Assembly) : Prop :=
  ∃ entries, a.fields.lineTable = .list entries ∧ entries.length % 2 = 0

/-- Assembling keeps a list of pairs one, whether or not it fails. -/
theorem Assembly.Paired.assemble {a : Assembly} (h : a.Paired) (before : Nat) (code : List String) :
    (a.assemble before code).1.Paired := by
  rcases hr : assembleLines before code a Progress.initial with ⟨b, q, f⟩
  have hb : b.Paired := by
    apply assembleLines_invariant (P := fun b _ => b.Paired) _ hr h
    rintro line - c p c' p' g ⟨entries, hc, heven⟩ hs
    have hplaced : ((if p.started then widenLast p.gap entries else entries).length) % 2 = 0 := by
      split
      · rw [length_widenLast, heven]
      · exact heven
    have hkept : (c.placed before p).Paired := by
      refine ⟨_, ?_, hplaced⟩
      show placedTable p c.fields.lineTable = _
      rw [hc, placedTable]
    cases hs with
    | gap hi => exact ⟨entries, hc, heven⟩
    | unknown hi hm => exact hkept
    | unresolved hi hm hres => exact hkept
    | unlisted hi hm hres hl => exact absurd hc (hl entries)
    | emits hi hm hres hl =>
      obtain rfl := Value.list.inj (hc.symm.trans hl)
      exact ⟨_, rfl, by simpa using hplaced⟩
  cases f with
  | none =>
    rw [assemble_of_ok hr]
    exact hb
  | some f =>
    rw [assemble_of_fault hr]
    exact hb

/-- **Layout does not matter to the code.**  Let two listings have the same directives and the same
instructions.  Declaring comes to the same for both.  Assembling after that succeeds for both, or
ends in faults of one kind, and leaves the same code, symbol tables and fields but for those about
lines.  The line tables, unless a directive sets them, are equally long and agree at even places,
which hold the widths of the instructions. -/
theorem Session.layout_agrees {listing listing' : Listing} (h : listing.SameContent listing') :
    let declared := (Session.start listing).declare
    let declared' := (Session.start listing').declare
    let done := declared.session.assemble
    let done' := declared'.session.assemble
    declared.Agrees declared' ∧ done'.fault.map Fault.kind = done.fault.map Fault.kind ∧
      done.session.assembly.AgreesButLines done'.session.assembly ∧
      (listing.defines "lnotab" = false → ∃ table table' : List Value,
        done.session.assembly.fields.lineTable = .list table ∧
          done'.session.assembly.fields.lineTable = .list table' ∧
          table'.length = table.length ∧ ∀ k, table'[2 * k]? = table[2 * k]?) := by
  intro declared declared' done done'
  have hdeclare : declared.Agrees declared' := Session.declare_agrees rfl h.directives
  let a := declared.session.assembly
  have hruns : Assembly.RunsAlike
      (Assembly.assembleLines listing.linesBeforeCode listing.code a Progress.initial)
      (Assembly.assembleLines listing'.linesBeforeCode listing'.code a Progress.initial) :=
    (Assembly.Alike.refl a).assembleLines ⟨rfl, rfl, rfl⟩ h.instructions _ _
  obtain ⟨halike, hkind⟩ := hruns.ended
  have hstart : declared'.session.assembly = a := hdeclare.assembly
  have hdone : done'.session.assembly = (a.assemble listing'.linesBeforeCode listing'.code).1 := by
    rw [← hstart]
    rfl
  have hfault : done'.fault = (a.assemble listing'.linesBeforeCode listing'.code).2 := by
    rw [← hstart]
    rfl
  refine ⟨hdeclare, ?_, ?_, fun hdef => ?_⟩
  · rw [hfault]
    exact hkind
  · rw [hdone]
    exact halike.agreesButLines
  · have hempty : a.fields.lineTable = .list [] :=
      Assembly.declareLines_field .lineTable Assembly.initial (by simp)
        fun line hline => Listing.definesOn_of_defines hdef hline
    have hpaired : a.Paired := ⟨[], hempty, rfl⟩
    obtain ⟨table, htable, heven⟩ :=
      hpaired.assemble listing.linesBeforeCode listing.code
    have htables := halike.table
    rw [htable] at htables
    generalize hother : (a.assemble listing'.linesBeforeCode listing'.code).1.fields.lineTable = t'
      at htables
    cases htables with
    | fixed hne => exact absurd rfl (hne table)
    | @lists _ table' hentries =>
      refine ⟨table, table', htable, ?_, hentries.length, hentries.even heven⟩
      rw [hdone, hother]

/-- The same program, once in the plainest layout and once with its directives among the code. -/
theorem Session.layout_agrees_spread :
    let plain : Listing :=
      { name := "plain"
        lines := ["#const half 0.5", "#defvar x, y", "load half", "store x", "Jump_Forward 300",
          "return x"] }
    let spread : Listing :=
      { name := "spread"
        lines := ["% half", "  LOAD\thalf ", "", "#const half 0.5", "Store x", "% on", "",
          "#defvar x, y", "jump_forward 300", "\tRETURN x", ""] }
    let done := (Session.start plain).declare.session.assemble.session.assembly
    let done' := (Session.start spread).declare.session.assemble.session.assembly
    plain.SameContent spread ∧ plain.defines "lnotab" = false ∧ done.AgreesButLines done' ∧
      ∃ table table' : List Value, done.fields.lineTable = .list table ∧
        done'.fields.lineTable = .list table' ∧ table'.length = table.length ∧
          ∀ k, table'[2 * k]? = table[2 * k]? := by
  intro plain spread done done'
  have hsame : plain.SameContent spread := ⟨by decide +kernel, by decide +kernel⟩
  have hdef : plain.defines "lnotab" = false := by decide +kernel
  obtain ⟨-, -, hagrees, htables⟩ := Session.layout_agrees hsame
  exact ⟨hsame, hdef, hagrees, htables hdef⟩

end BytecodeAssembler
