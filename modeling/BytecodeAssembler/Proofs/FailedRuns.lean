import BytecodeAssembler.Proofs.CodeActions
import BytecodeAssembler.Proofs.Layout
import BytecodeAssembler.Proofs.LineTable

/-!
# What a failed run leaves

A run over code ends at the first line that cannot be assembled (`Assembly.failingLine?`).  That
line is looked at in the state that the lines before it leave, and it either emits all of its
numbers or none of them, so a failed run leaves the code, the constants and the symbol tables of a
run over the lines before the failing one.

What it does leave behind is the trace of having met an instruction: the gap before it has gone into
the last entry of the line table (`Assembly.CutShort`).  The stack size is only set at the end of a
run, and so keeps the value that it had.
-/

namespace BytecodeAssembler

namespace Assembly

/-! ## The failing line -/

/-- How many lines are assembled before the first that fails, if one does. -/
def failingLine? (before : Nat) : List String → Assembly → Progress → Option Nat
  | [], _, _ => none
  | line :: rest, a, p =>
    match a.assembleLine before line p with
    | (a', p', none) => (failingLine? before rest a' p').map (· + 1)
    | (_, _, some _) => some 0

/-- A run fails at some line or not at all. -/
theorem failingLine?_eq_none_iff (before : Nat) (lines : List String) (a : Assembly)
    (p : Progress) :
    failingLine? before lines a p = none ↔ (assembleLines before lines a p).2.2 = none := by
  induction lines generalizing a p with
  | nil => simp [failingLine?, assembleLines]
  | cons line rest ih =>
    simp only [failingLine?, assembleLines]
    rcases a.assembleLine before line p with ⟨b, q, f⟩
    cases f with
    | none => simpa using ih b q
    | some f => simp

/-- The lines before the failing one are assembled, and it fails in the state that they leave. -/
theorem split_of_failingLine? {before i : Nat} {lines : List String} {a : Assembly} {p : Progress}
    (h : failingLine? before lines a p = some i) :
    ∃ pre line post b q c r f, lines = pre ++ line :: post ∧ pre.length = i ∧
      assembleLines before pre a p = (b, q, none) ∧
      b.assembleLine before line q = (c, r, some f) := by
  induction lines generalizing a p i with
  | nil => cases h
  | cons line rest ih =>
    simp only [failingLine?] at h
    rcases hr : a.assembleLine before line p with ⟨b, q, f⟩
    rw [hr] at h
    cases f with
    | some f =>
      obtain rfl := Option.some.inj h
      exact ⟨[], line, rest, a, p, b, q, f, rfl, rfl, rfl, hr⟩
    | none =>
      obtain ⟨j, hj, rfl⟩ := Option.map_eq_some_iff.mp h
      obtain ⟨pre, line', post, b', q', c, r, f, hlines, hlen, hpre, hline⟩ := ih hj
      refine ⟨line :: pre, line', post, b', q', c, r, f, ?_, ?_, ?_, hline⟩
      · rw [hlines, List.cons_append]
      · rw [List.length_cons, hlen]
      · simp only [assembleLines, hr, hpre]

/-- Where a line fails, the lines after it are not looked at. -/
theorem assembleLines_of_failing {before : Nat} {pre : List String} {line : String}
    {a b c : Assembly} {p q r : Progress} {f : Fault}
    (hpre : assembleLines before pre a p = (b, q, none))
    (hline : b.assembleLine before line q = (c, r, some f)) (post : List String) :
    assembleLines before (pre ++ line :: post) a p = (c, r, some f) := by
  rw [assembleLines_append, hpre]
  simp only [assembleLines, hline]

theorem assemble_of_failing {before : Nat} {pre : List String} {line : String} {a b c : Assembly}
    {q r : Progress} {f : Fault}
    (hpre : assembleLines before pre a Progress.initial = (b, q, none))
    (hline : b.assembleLine before line q = (c, r, some f)) (post : List String) :
    a.assemble before (pre ++ line :: post) = (c, some f) := by
  rw [assemble, assembleLines_of_failing hpre hline]

/-- **A line that fails** has only accounted for the lines before it, where the line table is a
list. -/
theorem LineStep.eq_placed {before : Nat} {line : String} {a c : Assembly} {p r : Progress}
    {f : Fault} {entries : List Value} (hs : LineStep before line a p (c, r, some f))
    (htable : a.fields.lineTable = .list entries) : c = a.placed before p := by
  cases hs with
  | unknown hi hm => rfl
  | unresolved hi hm hr => rfl
  | unlisted hi hm hr hl => exact absurd htable (hl entries)

/-! ## The gap before a line -/

/-- How many of some lines stand after the last instruction among them. -/
def gapAfter (lines : List String) : Nat :=
  (lines.reverse.takeWhile fun line => !holdsInstruction line).length

theorem gapAfter_concat (lines : List String) (line : String) :
    gapAfter (lines ++ [line]) = if holdsInstruction line then 0 else gapAfter lines + 1 := by
  rw [gapAfter, List.reverse_concat, List.takeWhile_cons]
  cases holdsInstruction line with
  | true => rfl
  | false => simp [gapAfter]

/-- A run counts the lines after the last instruction. -/
theorem gap_assembleLines {before : Nat} {lines : List String} {a b : Assembly} {p q : Progress}
    (hp : p.gap = 0) (h : assembleLines before lines a p = (b, q, none)) :
    q.gap = gapAfter lines := by
  induction lines using List.reverseRecOn generalizing b q with
  | nil =>
    obtain ⟨-, hq⟩ := Prod.mk.inj h
    obtain ⟨rfl, -⟩ := Prod.mk.inj hq
    exact hp
  | append_singleton lines line ih =>
    obtain ⟨b₀, q₀, hlines, hline⟩ := assembleLines_prefix h
    have hgap := ih hlines
    have hstep := assembleLine_step before line b₀ q₀
    rcases hr : b₀.assembleLine before line q₀ with ⟨c, r, f⟩
    rw [hr] at hstep
    simp only [assembleLines, hr] at hline
    rw [gapAfter_concat]
    cases f with
    | some f => simp at hline
    | none =>
      obtain ⟨-, hq⟩ := Prod.mk.inj hline
      obtain ⟨rfl, -⟩ := Prod.mk.inj hq
      cases hstep with
      | gap hi => simp [holdsInstruction, hi, hgap]
      | emits hi hm hres hl => simp [holdsInstruction, hi, Progress.placed]

/-! ## The state at the fault -/

/-- **What a failed run leaves**, held against the run `short` over the lines before the failing
one: the same code, constants and symbol tables; the stack size of the start; and the line table of
the shorter run, with the gap before the failing line in its last entry if it has one. -/
structure CutShort (start short failed : Assembly) (seen : List String) : Prop where
  sameCode : short.SameCode failed
  stackSize : failed.fields.stackSize = start.fields.stackSize
  untouched : seen.any holdsInstruction = false →
    failed.fields.lineTable = short.fields.lineTable
  widened : seen.any holdsInstruction = true → ∃ (entries : List Value) (n : Int),
    short.fields.lineTable = .list (entries ++ [.int n]) ∧
      failed.fields.lineTable = .list (entries ++ [.int (n + gapAfter seen)])

end Assembly

open Assembly

/-- The line table at an instruction, by the pairs that it holds. -/
theorem Ledger.placedTable_eq {before : Nat} {seen : List String} {a : Assembly} {p : Progress}
    {pairs : List (Int × Int)} (h : Ledger before seen a p pairs) :
    placedTable p a.fields.lineTable
      = .list ((LineTable.flat (LineTable.widen p.gap pairs)).map .int) := by
  rw [h.table, placedTable]
  by_cases hp : pairs = []
  · rw [(h.unstarted hp).1, hp]
    rfl
  · rw [if_pos (h.started hp).1, LineTable.widenLast_flat]

/-- A run that keeps a ledger is cut short by a line that fails. -/
theorem Assembly.cutShort_of_failing {before : Nat} {pre : List String} {line : String}
    {a b c : Assembly} {q r : Progress} {f : Fault} {pairs : List (Int × Int)}
    (hpre : assembleLines before pre a Progress.initial = (b, q, none))
    (hledger : Ledger before pre b q pairs)
    (hline : b.assembleLine before line q = (c, r, some f)) (size : Value) :
    CutShort a (b.withSize size) c pre := by
  have hstep := assembleLine_step before line b q
  rw [hline] at hstep
  obtain rfl := hstep.eq_placed hledger.table
  have hplaced : (b.placed before q).fields.lineTable = _ := hledger.placedTable_eq
  have hany : pre.any holdsInstruction = true ↔ pairs ≠ [] := by
    rw [← List.length_pos_iff, hledger.count, List.countP_pos_iff, List.any_eq_true]
  refine ⟨?_, ?_, fun hnone => ?_, fun hsome => ?_⟩
  · exact sameCode_withSize b b.fields.lineTable (placedTable q b.fields.lineTable)
      b.fields.firstLine (placedFirst before q b.fields.firstLine) size b.fields.stackSize
  · show b.fields.stackSize = a.fields.stackSize
    exact assembleLines_field .stackSize hpre (by decide)
  · have hempty : pairs = [] := by
      by_contra hne
      rw [hany.mpr hne] at hnone
      cases hnone
    rw [hplaced, hempty]
    show _ = b.fields.lineTable
    rw [hledger.table, hempty]
    rfl
  · rcases List.eq_nil_or_concat pairs with hempty | ⟨rest, w, hconcat⟩
    · exact absurd hempty (hany.mp hsome)
    · rw [List.concat_eq_append] at hconcat
      refine ⟨(LineTable.flat rest ++ [w.1]).map .int, w.2, ?_, ?_⟩
      · show b.fields.lineTable = _
        rw [hledger.table, hconcat, LineTable.flat_append]
        simp [LineTable.flat]
      · rw [hplaced, hconcat, LineTable.widen_concat, LineTable.flat_append,
          gap_assembleLines rfl hpre]
        simp [LineTable.flat]

/-! ## Listings that differ after a line -/

namespace Listing

variable {line : String} {pre post post' : List String}

theorem codeOf_split (h : isDirective line = false) :
    codeOf (pre ++ line :: post) = codeOf pre ++ line :: codeOf post := by
  rw [codeOf_append]
  simp [codeOf, h]

/-- What follows a line of the code has no part in how many lines are ahead of the code. -/
theorem linesBeforeCode_split (h : isDirective line = false) (name name' : String) :
    linesBeforeCode ⟨name', pre ++ line :: post'⟩
      = linesBeforeCode ⟨name, pre ++ line :: post⟩ := by
  simp only [linesBeforeCode_eq, takeWhile_append_code pre _ h]

/-- Declaring is the same with the same directives after the line. -/
theorem declared_split (hpost : post'.filter isDirective = post.filter isDirective)
    (name name' : String) :
    (declared ⟨name', pre ++ line :: post'⟩).assembly
      = (declared ⟨name, pre ++ line :: post⟩).assembly := by
  have hdirectives : directives ⟨name', pre ++ line :: post'⟩
      = directives ⟨name, pre ++ line :: post⟩ := by
    simp only [directives, List.filter_append, List.filter_cons, hpost]
  have hagrees : (Session.start ⟨name, pre ++ line :: post⟩).declare.Agrees
      (Session.start ⟨name', pre ++ line :: post'⟩).declare :=
    Session.declare_agrees rfl hdirectives
  exact hagrees.assembly

end Listing

namespace Session

/-- The place in the code of the line at which assembling fails, if it does. -/
def failingLine? (s : Session) : Option Nat :=
  Assembly.failingLine? s.listing.linesBeforeCode s.listing.code s.assembly Progress.initial

/-- **A failed run, line by line.**  Let a listing leave the line table to the assembler.
Assembling after declaring comes to the same when the code is carried out action by action, with all
that the actions before a fault have changed.  It either succeeds or fails at some line of the code.
If it fails at the
line with index `i`, assembling only the `i` lines before it succeeds, and the failed run leaves
what that shorter run leaves, the gap before the failing line and the stack size apart.  What
follows the failing line does not matter: with the same directives and anything else in its place,
the state, the printed text and the fault are the same. -/
theorem assemble_stopped (listing : Listing) (hlnotab : listing.defines "lnotab" = false) :
    let s := listing.declared
    let performed := Action.performBlocks (CodeAction.ofCode listing.linesBeforeCode listing.code)
      (s.assembly, Progress.initial)
    (performed.1.1 = s.assemble.session.assembly ∧ performed.2 = s.assemble.fault.map .fault) ∧
      (s.failingLine? = none ↔ s.assemble.fault = none) ∧
      ∀ i, s.failingLine? = some i → ∃ line, listing.code[i]? = some line ∧
        let short := s.assembly.assemble listing.linesBeforeCode (listing.code.take i)
        short.2 = none ∧
        CutShort s.assembly short.1 s.assemble.session.assembly (listing.code.take i) ∧
        ∀ name pre post post', listing.lines = pre ++ line :: post →
          (Listing.codeOf pre).length = i →
          post'.filter Listing.isDirective = post.filter Listing.isDirective →
          s.assemble.Agrees (Listing.mk name (pre ++ line :: post')).declared.assemble := by
  intro s performed
  have htable : s.assembly.fields.lineTable = .list [] :=
    declareLines_field .lineTable Assembly.initial (by simp)
      fun line hline => Listing.definesOn_of_defines hlnotab hline
  have hempty : s.assembly.code = [] := declareLines_code listing.directives Assembly.initial
  refine ⟨CodeAction.matches_code listing.linesBeforeCode listing.code s.assembly, ?_,
    fun i hi => ?_⟩
  · rw [failingLine?, failingLine?_eq_none_iff, assemble_fault, assemble_snd]
  · obtain ⟨pre₀, line, post₀, b, q, c, r, f, hsplit, hlen, hpre, hline⟩ := split_of_failingLine? hi
    change listing.code = pre₀ ++ line :: post₀ at hsplit
    have hat : listing.code[i]? = some line := by simp [hsplit, ← hlen]
    have htake : listing.code.take i = pre₀ := by simp [hsplit, ← hlen]
    have hfailed : s.assembly.assemble listing.linesBeforeCode listing.code = (c, some f) := by
      rw [hsplit]
      exact assemble_of_failing hpre hline post₀
    refine ⟨line, hat, ?_, ?_, ?_⟩
    · rw [htake, assemble_snd]
      exact congrArg (fun r => r.2.2) hpre
    · obtain ⟨pairs, hledger, -, -⟩ := (ledger_start htable hempty).run hpre
      have hstate : s.assemble.session.assembly = c := congrArg Prod.fst hfailed
      have hshort := assemble_of_ok hpre
      rw [List.nil_append] at hledger
      rw [htake, hstate]
      change (s.assembly.assemble listing.linesBeforeCode pre₀).1 = _ at hshort
      rw [hshort]
      exact cutShort_of_failing hpre hledger hline _
    · intro name pre post post' hlines hcount hdirectives
      obtain ⟨title, lines⟩ := listing
      obtain rfl : lines = pre ++ line :: post := hlines
      rw [Listing.code_eq_codeOf] at hat
      have hnot : Listing.isDirective line = false := by
        simpa using (List.mem_filter.mp (List.mem_of_getElem? hat)).2
      -- The lines of the code before the failing one are those of `pre`.
      have hsame : Listing.codeOf pre = pre₀ := by
        have hboth : Listing.codeOf pre ++ line :: Listing.codeOf post = pre₀ ++ line :: post₀ := by
          rw [← Listing.codeOf_split hnot, ← hsplit, Listing.code_eq_codeOf]
        exact (List.append_inj hboth (hcount.trans hlen.symm)).1
      apply assemble_agrees
      show Assembly.assemble (Listing.linesBeforeCode ⟨name, pre ++ line :: post'⟩)
        (Listing.code ⟨name, pre ++ line :: post'⟩)
        (Listing.declared ⟨name, pre ++ line :: post'⟩).assembly = _
      rw [Listing.linesBeforeCode_split hnot title name,
        Listing.declared_split hdirectives title name, Listing.code_eq_codeOf,
        Listing.codeOf_split hnot, hsame]
      exact (assemble_of_failing hpre hline _).trans hfailed.symm

/-- The run fails at its fourth line of code, after an instruction and a gap of two lines. -/
theorem assemble_stopped_undefined :
    let listing : Listing :=
      { name := "undefined"
        lines := ["#defvar x", "load 7", "% x", "#const two 2", "", "store y", "load two"] }
    let s := listing.declared
    listing.defines "lnotab" = false ∧ s.failingLine? = some 3 ∧
      ∃ (short : Assembly) (entries : List Value) (n : Int),
        s.assembly.assemble 1 ["load 7", "% x", ""] = (short, none) ∧
        short.SameCode s.assemble.session.assembly ∧
        short.fields.lineTable = .list (entries ++ [.int n]) ∧
        s.assemble.session.assembly.fields.lineTable = .list (entries ++ [.int (n + 2)]) := by
  intro listing s
  have hdef : listing.defines "lnotab" = false := by decide +kernel
  have hfails : s.failingLine? = some 3 := by decide +kernel
  obtain ⟨-, -, hstopped⟩ := assemble_stopped listing hdef
  obtain ⟨line, -, hok, hcut, -⟩ := hstopped 3 hfails
  have htake : listing.code.take 3 = ["load 7", "% x", ""] := by decide +kernel
  have hbefore : listing.linesBeforeCode = 1 := by decide +kernel
  rw [htake, hbefore] at hok hcut
  obtain ⟨entries, n, hshort, hfailed⟩ := hcut.widened (by decide +kernel)
  have hgap : gapAfter ["load 7", "% x", ""] = 2 := by decide +kernel
  rw [hgap] at hfailed
  exact ⟨hdef, hfails, _, entries, n, Prod.ext rfl hok, hcut.sameCode, hshort, hfailed⟩

end Session

end BytecodeAssembler
