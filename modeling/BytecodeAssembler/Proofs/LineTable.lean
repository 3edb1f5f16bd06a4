import BytecodeAssembler.Proofs.Calls
import BytecodeAssembler.Proofs.DirectiveStep
import BytecodeAssembler.Proofs.LineStep
import Mathlib

/-!
# What the line table says

The line table is a flat list of numbers, two for each instruction line: how far the code goes on,
and by how many lines.  `LineTable.address` and `LineTable.lineNumber` read it back by adding up.

A run keeps a ledger of pairs behind the flat list (`Ledger`): the widths, which are told to the
table apart from the code, add up to the length of the code, and the steps of lines, together with
the gap that is still open, add up to the place in the code lines.  Only the last pair may still
change, and only in its second part, so what was read off for an instruction when it was met is what
the finished table says of it.

Directive lines are taken out before the code is assembled.  The line numbers therefore run behind
by the number of directives that stand after the first line of the code.
-/

namespace BytecodeAssembler

open Assembly

/-! ## Reading a table back -/

namespace LineTable

/-- The address of the instruction with number `k`. -/
def address (table : List Int) (k : Nat) : Int :=
  ∑ j ∈ Finset.range k, table.getD (2 * j) 0

/-- The line of the instruction with number `k`, the first being on the line `first`. -/
def lineNumber (first : Int) (table : List Int) (k : Nat) : Int :=
  first + ∑ j ∈ Finset.range k, table.getD (2 * j + 1) 0

/-- The flat table of some pairs. -/
def flat (pairs : List (Int × Int)) : List Int :=
  pairs.flatMap fun q => [q.1, q.2]

theorem length_flat (pairs : List (Int × Int)) : (flat pairs).length = 2 * pairs.length := by
  induction pairs with
  | nil => rfl
  | cons q qs ih =>
    simp only [flat, List.flatMap_cons, List.length_append, List.length_cons,
      List.length_nil] at ih ⊢
    omega

theorem flat_append (ps qs : List (Int × Int)) : flat (ps ++ qs) = flat ps ++ flat qs := by
  simp [flat, List.flatMap_append]

theorem getD_flat (pairs : List (Int × Int)) (j : Nat) :
    (flat pairs).getD (2 * j) 0 = (pairs.map Prod.fst).getD j 0 ∧
      (flat pairs).getD (2 * j + 1) 0 = (pairs.map Prod.snd).getD j 0 := by
  induction pairs generalizing j with
  | nil => exact ⟨rfl, rfl⟩
  | cons q qs ih =>
    cases j with
    | zero => exact ⟨rfl, rfl⟩
    | succ j =>
      rw [show 2 * (j + 1) = 2 * j + 1 + 1 from by omega]
      exact ih j

theorem sum_range_getD (numbers : List Int) (k : Nat) :
    ∑ j ∈ Finset.range k, numbers.getD j 0 = (numbers.take k).sum := by
  induction numbers generalizing k with
  | nil => simp
  | cons n ns ih =>
    cases k with
    | zero => rfl
    | succ k =>
      rw [Finset.sum_range_succ', List.take_succ_cons, List.sum_cons, add_comm]
      simp only [List.getD_cons_succ, List.getD_cons_zero, ih k]

theorem address_flat (pairs : List (Int × Int)) (k : Nat) :
    address (flat pairs) k = ((pairs.take k).map Prod.fst).sum := by
  rw [address, Finset.sum_congr rfl fun j _ => (getD_flat pairs j).1, sum_range_getD, List.map_take]

theorem lineNumber_flat (first : Int) (pairs : List (Int × Int)) (k : Nat) :
    lineNumber first (flat pairs) k = first + ((pairs.take k).map Prod.snd).sum := by
  rw [lineNumber, Finset.sum_congr rfl fun j _ => (getD_flat pairs j).2, sum_range_getD,
    List.map_take]

end LineTable

/-! ## The ledger of a run -/

/-- Whether a line of the code holds an instruction. -/
def holdsInstruction (line : String) : Bool :=
  (instruction? line).isSome

/-- The pairs behind a line table, once the lines `seen` were assembled with `before` lines ahead of
them. -/
structure Ledger (before : Nat) (seen : List String) (a : Assembly) (p : Progress)
    (pairs : List (Int × Int)) : Prop where
  table : a.fields.lineTable = .list ((LineTable.flat pairs).map .int)
  count : pairs.length = seen.countP holdsInstruction
  widths : (pairs.map Prod.fst).sum = a.code.length
  unstarted : pairs = [] → p.started = false ∧ p.gap = seen.length
  started : pairs ≠ [] → p.started = true ∧ ∃ first : Int, a.fields.firstLine = .int first ∧
    first + (pairs.map Prod.snd).sum + p.gap = before + seen.length + 1

theorem widenLast_concat (gap : Nat) (entries : List Value) (n : Int) :
    widenLast gap (entries ++ [.int n]) = entries ++ [.int (n + gap)] :=
  widenLast_append gap entries (List.cons_ne_nil _ _)

/-- The pairs once the gap before an instruction was added to the last. -/
def LineTable.widen (gap : Nat) : List (Int × Int) → List (Int × Int)
  | [] => []
  | [q] => [(q.1, q.2 + gap)]
  | q :: q' :: qs => q :: widen gap (q' :: qs)

theorem LineTable.widen_concat (gap : Nat) (pairs : List (Int × Int)) (q : Int × Int) :
    widen gap (pairs ++ [q]) = pairs ++ [(q.1, q.2 + gap)] := by
  induction pairs with
  | nil => rfl
  | cons r rs ih =>
    cases rs with
    | nil => rfl
    | cons r' rs => simp [widen, ← ih]

theorem LineTable.widenLast_flat (gap : Nat) (pairs : List (Int × Int)) :
    widenLast gap ((flat pairs).map .int) = (flat (widen gap pairs)).map .int := by
  rcases List.eq_nil_or_concat pairs with rfl | ⟨rest, q, rfl⟩
  · rfl
  · have h := widenLast_concat gap ((flat rest ++ [q.1]).map .int) q.2
    rw [List.concat_eq_append, widen_concat, flat_append, flat_append]
    simpa [flat] using h

theorem LineTable.length_widen (gap : Nat) (pairs : List (Int × Int)) :
    (widen gap pairs).length = pairs.length := by
  rcases List.eq_nil_or_concat pairs with rfl | ⟨rest, q, rfl⟩
  · rfl
  · rw [List.concat_eq_append, widen_concat, List.length_append, List.length_append]
    rfl

theorem LineTable.sum_widths_widen (gap : Nat) (pairs : List (Int × Int)) :
    ((widen gap pairs).map Prod.fst).sum = (pairs.map Prod.fst).sum := by
  rcases List.eq_nil_or_concat pairs with rfl | ⟨rest, q, rfl⟩
  · rfl
  · rw [List.concat_eq_append, widen_concat]
    simp

theorem LineTable.sum_steps_widen (gap : Nat) {pairs : List (Int × Int)} (hne : pairs ≠ []) :
    ((widen gap pairs).map Prod.snd).sum = (pairs.map Prod.snd).sum + gap := by
  rcases List.eq_nil_or_concat pairs with rfl | ⟨rest, q, rfl⟩
  · exact absurd rfl hne
  · rw [List.concat_eq_append, widen_concat]
    simp only [List.map_append, List.sum_append, List.map_cons, List.map_nil, List.sum_cons,
      List.sum_nil]
    omega

/-- All pairs but the last are settled: they stay through whatever comes after. -/
def LineTable.Settled (pairs pairs' : List (Int × Int)) : Prop :=
  pairs.length ≤ pairs'.length ∧
    ∀ fixed, fixed <+: pairs → fixed.length < pairs.length → fixed <+: pairs'

theorem LineTable.Settled.refl (pairs : List (Int × Int)) : Settled pairs pairs :=
  ⟨le_rfl, fun _ h _ => h⟩

theorem LineTable.Settled.trans {ps qs rs : List (Int × Int)} (h : Settled ps qs)
    (h' : Settled qs rs) : Settled ps rs :=
  ⟨h.1.trans h'.1, fun fixed hp hl => h'.2 fixed (h.2 fixed hp hl) (lt_of_lt_of_le hl h.1)⟩

theorem LineTable.settled_widen (gap : Nat) (pairs tail : List (Int × Int)) :
    Settled pairs (widen gap pairs ++ tail) := by
  refine ⟨by rw [List.length_append, length_widen]; omega, ?_⟩
  intro fixed hp hl
  rcases List.eq_nil_or_concat pairs with rfl | ⟨rest, q, rfl⟩
  · simp at hl
  · rw [List.concat_eq_append] at hp hl ⊢
    rw [widen_concat, List.append_assoc]
    -- A proper prefix of `rest ++ [q]` is a prefix of `rest`.
    have hrest : fixed <+: rest := by
      apply List.prefix_of_prefix_length_le hp (List.prefix_append rest [q])
      rw [List.length_append, List.length_singleton] at hl
      omega
    exact hrest.trans (List.prefix_append _ _)

theorem Ledger.gap {before : Nat} {seen : List String} {a : Assembly} {p : Progress}
    {pairs : List (Int × Int)} (h : Ledger before seen a p pairs) {line : String}
    (hi : instruction? line = none) :
    Ledger before (seen ++ [line]) a { p with gap := p.gap + 1 } pairs where
  table := h.table
  count := by simp [h.count, holdsInstruction, hi]
  widths := h.widths
  unstarted := by
    intro hp
    obtain ⟨hs, hg⟩ := h.unstarted hp
    exact ⟨hs, by simp [hg]⟩
  started := by
    intro hp
    obtain ⟨hs, first, hf, hsum⟩ := h.started hp
    refine ⟨hs, first, hf, ?_⟩
    rw [List.length_append, List.length_singleton]
    push_cast
    omega

/-- When an instruction is met, the pairs before it say where it stands. -/
theorem Ledger.place {before : Nat} {seen : List String} {a : Assembly} {p : Progress}
    {pairs : List (Int × Int)} (h : Ledger before seen a p pairs) :
    ∃ first : Int, placedFirst before p a.fields.firstLine = .int first ∧
      first + ((LineTable.widen p.gap pairs).map Prod.snd).sum = before + seen.length + 1 := by
  by_cases hp : pairs = []
  · obtain ⟨hs, hg⟩ := h.unstarted hp
    refine ⟨before + p.gap + 1, by simp [placedFirst, hs], ?_⟩
    rw [hp, hg]
    simp [LineTable.widen]
  · obtain ⟨hs, first, hf, hsum⟩ := h.started hp
    refine ⟨first, by simp [placedFirst, hs, hf], ?_⟩
    rw [LineTable.sum_steps_widen p.gap hp]
    omega

/-- An instruction adds its pair to the ledger. -/
theorem Ledger.emit {before : Nat} {seen : List String} {a a' : Assembly} {p : Progress}
    {pairs : List (Int × Int)} (h : Ledger before seen a p pairs) {line word : String}
    {operands : List String} {mnemonic : Mnemonic} {items : List Item} {entries : List Value}
    (hi : instruction? line = some (word, operands))
    (hr : a.resolve mnemonic operands = .ok (items, a')) (hl : a.fields.lineTable = .list entries) :
    Ledger before (seen ++ [line])
      (a'.emitted items (mnemonic.width operands)
        (if p.started then widenLast p.gap entries else entries)
        (placedFirst before p a.fields.firstLine))
      (p.placed.count mnemonic)
      (LineTable.widen p.gap pairs ++ [((mnemonic.width operands : Int), 1)]) where
  table := by
    have hentries : entries = (LineTable.flat pairs).map .int := by
      simpa [hl] using h.table
    have hwide : (if p.started then widenLast p.gap entries else entries)
        = (LineTable.flat (LineTable.widen p.gap pairs)).map .int := by
      by_cases hp : pairs = []
      · simp [(h.unstarted hp).1, hentries, hp, LineTable.widen]
      · rw [if_pos (h.started hp).1, hentries, LineTable.widenLast_flat]
    rw [hwide, LineTable.flat_append]
    simp [emitted, addCode, withLines, LineTable.flat]
  count := by
    rw [List.length_append, LineTable.length_widen, h.count]
    simp [holdsInstruction, hi]
  widths := by
    -- What the table is told is what is emitted.
    rw [List.map_append, List.sum_append, LineTable.sum_widths_widen, h.widths, ← resolve_width hr]
    simp [emitted, addCode, withLines, resolve_code hr]
  unstarted := by simp
  started := by
    intro _
    obtain ⟨first, hf, hsum⟩ := h.place
    refine ⟨by simp [Progress.placed], first, hf, ?_⟩
    simp only [List.map_append, List.sum_append, List.map_cons, List.map_nil, List.sum_cons,
      List.sum_nil, Progress.count_gap, Progress.placed, List.length_append, List.length_singleton]
    push_cast
    omega

/-- From one state of a run to a later one: the ledger goes on, what was settled stays, and the
first line stays once it is known. -/
theorem Ledger.step {before : Nat} {seen : List String} {a a' : Assembly} {p p' : Progress}
    {pairs : List (Int × Int)} (h : Ledger before seen a p pairs) {line : String}
    (hs : LineStep before line a p (a', p', none)) :
    ∃ pairs', Ledger before (seen ++ [line]) a' p' pairs' ∧ LineTable.Settled pairs pairs' ∧
      (pairs ≠ [] → a'.fields.firstLine = a.fields.firstLine) := by
  cases hs with
  | gap hi => exact ⟨pairs, h.gap hi, LineTable.Settled.refl pairs, fun _ => rfl⟩
  | emits hi hm hr hl =>
    refine ⟨_, h.emit hi hr hl, LineTable.settled_widen _ _ _, ?_⟩
    intro hp
    show placedFirst before p a.fields.firstLine = a.fields.firstLine
    rw [placedFirst, if_pos (h.started hp).1]

/-- **The ledger of a run.**  It goes on through every run that succeeds. -/
theorem Ledger.run {before : Nat} {seen lines : List String} {a a' : Assembly} {p p' : Progress}
    {pairs : List (Int × Int)} (h : Ledger before seen a p pairs)
    (hrun : assembleLines before lines a p = (a', p', none)) :
    ∃ pairs', Ledger before (seen ++ lines) a' p' pairs' ∧ LineTable.Settled pairs pairs' ∧
      (pairs ≠ [] → a'.fields.firstLine = a.fields.firstLine) := by
  induction lines generalizing seen a p pairs with
  | nil =>
    simp only [assembleLines, Prod.mk.injEq] at hrun
    obtain ⟨rfl, rfl, -⟩ := hrun
    exact ⟨pairs, by simpa using h, LineTable.Settled.refl pairs, fun _ => rfl⟩
  | cons line rest ih =>
    have hline := assembleLine_step before line a p
    rcases hr : a.assembleLine before line p with ⟨b, q, g⟩
    rw [hr] at hline
    simp only [assembleLines, hr] at hrun
    cases g with
    | some g => simp at hrun
    | none =>
      obtain ⟨pairs₁, h₁, hset₁, hfirst₁⟩ := h.step hline
      obtain ⟨pairs₂, h₂, hset₂, hfirst₂⟩ := ih h₁ hrun
      refine ⟨pairs₂, by simpa using h₂, hset₁.trans hset₂, ?_⟩
      intro hp
      have hp₁ : pairs₁ ≠ [] := by
        have hlen := List.length_pos_iff.mpr hp
        exact List.length_pos_iff.mp (lt_of_lt_of_le hlen hset₁.1)
      rw [hfirst₂ hp₁, hfirst₁ hp]

theorem LineTable.flat_injective {ps qs : List (Int × Int)} (h : flat ps = flat qs) : ps = qs := by
  induction ps generalizing qs with
  | nil =>
    cases qs with
    | nil => rfl
    | cons q qs => simp [flat] at h
  | cons p ps ih =>
    cases qs with
    | nil => simp [flat] at h
    | cons q qs =>
      simp only [flat, List.flatMap_cons, List.cons_append, List.nil_append, List.cons.injEq] at h
      obtain ⟨h₁, h₂, hrest⟩ := h
      rw [ih hrest, Prod.ext h₁ h₂]

/-- A state has one ledger at most. -/
theorem Ledger.unique {before before' : Nat} {seen seen' : List String} {a : Assembly}
    {p p' : Progress} {pairs pairs' : List (Int × Int)} (h : Ledger before seen a p pairs)
    (h' : Ledger before' seen' a p' pairs') : pairs = pairs' := by
  have heq := h.table.symm.trans h'.table
  rw [Value.list.injEq] at heq
  exact LineTable.flat_injective (List.map_injective_iff.mpr (fun _ _ hv => Value.int.inj hv) heq)

/-! ## Lines of the listing -/

namespace Listing

/-- Whether a line of a listing belongs to the code and holds an instruction. -/
def isInstruction (line : String) : Bool :=
  !isDirective line && holdsInstruction line

/-- How many directives stand among some lines after the first that belongs to the code. -/
def directivesWithin (lines : List String) : Nat :=
  (lines.dropWhile isDirective).countP isDirective

/-- A directive stands after some line of the code and before some instruction. -/
def Interrupted (lines : List String) : Prop :=
  ∃ pre line post, lines = pre ++ line :: post ∧ isInstruction line = true ∧
    ∃ xs code ys, pre = xs ++ code :: ys ∧ isDirective code = false ∧
      ∃ directive ∈ ys, isDirective directive = true

theorem countP_codeOf (lines : List String) :
    (codeOf lines).countP holdsInstruction = lines.countP isInstruction := by
  rw [codeOf, List.countP_filter]
  apply List.countP_congr
  intro line _
  simp [isInstruction, Bool.and_comm]

theorem codeOf_instruction {line : String} (h : isInstruction line = true) (post : List String) :
    codeOf (line :: post) = line :: codeOf post := by
  have hd : isDirective line = false := by
    simp only [isInstruction, Bool.and_eq_true, Bool.not_eq_true'] at h
    exact h.1
  simp [codeOf, hd]

theorem length_codeOf (lines : List String) :
    (codeOf lines).length + lines.countP isDirective = lines.length := by
  rw [codeOf, ← List.countP_eq_length_filter, List.length_eq_countP_add_countP isDirective]
  simp [Nat.add_comm]

/-- The lines ahead of the code and those of the code before a line leave out just the directives
that stand within the code. -/
theorem linesBefore_add_codeOf (pre : List String) :
    (pre.takeWhile isDirective).length + (codeOf pre).length + directivesWithin pre
      = pre.length := by
  induction pre with
  | nil => rfl
  | cons l ls ih =>
    cases hl : isDirective l with
    | true =>
      have hcode : codeOf (l :: ls) = codeOf ls := by simp [codeOf, hl]
      have hwithin : directivesWithin (l :: ls) = directivesWithin ls := by
        simp [directivesWithin, hl]
      rw [hcode, hwithin, List.takeWhile_cons_of_pos hl, List.length_cons, List.length_cons]
      omega
    | false =>
      have hwithin : directivesWithin (l :: ls) = (l :: ls).countP isDirective := by
        rw [directivesWithin, List.dropWhile_cons_of_neg (by simp [hl])]
      rw [hwithin, List.takeWhile_cons_of_neg (by simp [hl]), List.length_nil, Nat.zero_add]
      exact length_codeOf (l :: ls)

theorem takeWhile_append_code (pre post : List String) {line : String}
    (hl : isDirective line = false) :
    (pre ++ line :: post).takeWhile isDirective = pre.takeWhile isDirective := by
  induction pre with
  | nil => simp [hl]
  | cons x xs ih => simp [List.takeWhile_cons, ih]

theorem directivesWithin_eq_zero_iff (pre : List String) :
    directivesWithin pre = 0 ↔ ∀ xs code ys, pre = xs ++ code :: ys → isDirective code = false →
      ∀ directive ∈ ys, isDirective directive = false := by
  induction pre with
  | nil => simp [directivesWithin]
  | cons l ls ih =>
    cases hl : isDirective l with
    | true =>
      have hwithin : directivesWithin (l :: ls) = directivesWithin ls := by
        simp [directivesWithin, hl]
      rw [hwithin, ih]
      constructor
      · intro h xs code ys heq hcode
        cases xs with
        | nil =>
          simp only [List.nil_append, List.cons.injEq] at heq
          rw [← heq.1, hl] at hcode
          cases hcode
        | cons x xs =>
          simp only [List.cons_append, List.cons.injEq] at heq
          exact h xs code ys heq.2 hcode
      · intro h xs code ys heq hcode
        exact h (l :: xs) code ys (by rw [heq]; rfl) hcode
    | false =>
      have hwithin : directivesWithin (l :: ls) = ls.countP isDirective := by
        rw [directivesWithin, List.dropWhile_cons_of_neg (by simp [hl]),
          List.countP_cons_of_neg (by simp [hl])]
      rw [hwithin, List.countP_eq_zero]
      constructor
      · intro h xs code ys heq hcode directive hmem
        have hin : directive ∈ ls := by
          cases xs with
          | nil =>
            simp only [List.nil_append, List.cons.injEq] at heq
            rw [heq.2]
            exact hmem
          | cons x xs =>
            simp only [List.cons_append, List.cons.injEq] at heq
            rw [heq.2]
            simp [hmem]
        simpa using h directive hin
      · intro h directive hmem
        simp [h [] l ls rfl hl directive hmem]

/-- No directive stands within the code before an instruction. -/
theorem not_interrupted_iff (lines : List String) :
    ¬ Interrupted lines ↔ ∀ pre line post, lines = pre ++ line :: post →
      isInstruction line = true → directivesWithin pre = 0 := by
  simp only [directivesWithin_eq_zero_iff]
  constructor
  · intro hfree pre line post hsplit hline xs code ys hpre hdir directive hmem
    rw [Bool.eq_false_iff]
    exact fun hd =>
      hfree ⟨pre, line, post, hsplit, hline, xs, code, ys, hpre, hdir, directive, hmem, hd⟩
  · rintro hall ⟨pre, line, post, hsplit, hline, xs, code, ys, hpre, hdir, directive, hmem, hd⟩
    have hfalse := hall pre line post hsplit hline xs code ys hpre hdir directive hmem
    rw [hd] at hfalse
    cases hfalse

end Listing

/-! ## The table of a session -/

namespace Session

/-- The code of the line after `pre` begins at an offset: so much code is there when the line is
reached, and the numbers of the line follow it in what the session emits. -/
def BeginsAt (s : Session) (pre : List String) (line : String) (offset : Int) : Prop :=
  offset = (s.reaching pre).code.length ∧
    (s.reaching pre).code ++ Item.allNumbers ((s.reaching pre).lineItems line)
      <+: s.assemble.session.assembly.code

/-- A session whose line table is empty keeps a ledger. -/
theorem ledger_start {s : Session} (htable : s.assembly.fields.lineTable = .list [])
    (hcode : s.assembly.code = []) :
    Ledger s.listing.linesBeforeCode [] s.assembly Progress.initial [] where
  table := htable
  count := rfl
  widths := by simp [hcode]
  unstarted := fun _ => ⟨rfl, rfl⟩
  started := fun h => absurd rfl h

/-- What the table says of the line after `pre`: the pairs before it were settled when it was
reached. -/
theorem entry_of_line {s : Session} {b : Assembly} {q : Progress} {pairs : List (Int × Int)}
    {first : Int} (htable : s.assembly.fields.lineTable = .list []) (hcode : s.assembly.code = [])
    (hrun : assembleLines s.listing.linesBeforeCode s.listing.code s.assembly Progress.initial
      = (b, q, none))
    (hledger : Ledger s.listing.linesBeforeCode s.listing.code b q pairs)
    (hfirst : b.fields.firstLine = .int first) {pre post : List String} {line : String}
    (hsplit : s.listing.lines = pre ++ line :: post)
    (hline : Listing.isInstruction line = true) :
    LineTable.address (LineTable.flat pairs) (pre.countP Listing.isInstruction)
        = (s.reaching pre).code.length ∧
      (s.reaching pre).code ++ Item.allNumbers ((s.reaching pre).lineItems line) <+: b.code ∧
      LineTable.lineNumber first (LineTable.flat pairs) (pre.countP Listing.isInstruction)
        = pre.length + 1 - Listing.directivesWithin pre := by
  have hboth : Listing.isDirective line = false ∧ holdsInstruction line = true := by
    simpa [Listing.isInstruction] using hline
  obtain ⟨q₀, b₁, q₁, hpre, hstep, hrest⟩ := step_of_split hrun hsplit hboth.1
  have hlines : s.listing.code = Listing.codeOf pre ++ line :: Listing.codeOf post := by
    rw [← Listing.codeOf_instruction hline, ← Listing.codeOf_append, ← hsplit,
      Listing.code_eq_codeOf]
  rw [hlines] at hledger
  obtain ⟨pairs₀, h₀, -, -⟩ := (ledger_start htable hcode).run hpre
  rw [List.nil_append] at h₀
  have hgrow := hstep.code_eq
  cases hstep with
  | gap hi => simp [holdsInstruction, hi] at hboth
  | emits hi hm hr ht =>
    obtain ⟨first₀, hfirst₀, hsum⟩ := h₀.place
    obtain ⟨pairs₂, h₂, hset, hkeep⟩ := (h₀.emit hi hr ht).run hrest
    rw [List.append_assoc, List.singleton_append] at h₂
    obtain rfl : pairs₂ = pairs := h₂.unique hledger
    -- The first line was fixed at this instruction, or before it.
    have hsame : first₀ = first := by
      have h := hkeep (by simp)
      rw [hfirst] at h
      exact Value.int.inj (hfirst₀.symm.trans h.symm)
    have hfixed : LineTable.widen q₀.gap pairs₀ <+: pairs₂ :=
      hset.2 _ (List.prefix_append _ _) (by simp)
    have hcount : pre.countP Listing.isInstruction = (LineTable.widen q₀.gap pairs₀).length := by
      rw [LineTable.length_widen, h₀.count, Listing.countP_codeOf]
    have htake : pairs₂.take (pre.countP Listing.isInstruction)
        = LineTable.widen q₀.gap pairs₀ := by
      rw [hcount]
      exact (List.prefix_iff_eq_take.mp hfixed).symm
    have hbefore := Listing.linesBefore_add_codeOf pre
    have hahead : s.listing.linesBeforeCode = (pre.takeWhile Listing.isDirective).length := by
      rw [Listing.linesBeforeCode_eq, hsplit, Listing.takeWhile_append_code pre post hboth.1]
    refine ⟨?_, ?_, ?_⟩
    · rw [LineTable.address_flat, htake, LineTable.sum_widths_widen, h₀.widths]
    · rw [← hgrow]
      exact assembleLines_code hrest
    · rw [LineTable.lineNumber_flat, htake, ← hsame, hsum, hahead]
      omega

/-- **The line table, exactly.** When a listing leaves the line table to the assembler and holds an
instruction, the finished table has two numbers for each instruction line.  Read back, its addresses
are the offsets at which the code of the lines begins, the last one being the length of the code,
and its line numbers are the places of the lines in the listing less the directives that stand
within the code before them.  So they are the true ones for all instructions just when no directive
stands between the first line of the code and the last instruction. -/
theorem lineTable_exact (listing : Listing) (hdef : listing.defines "lnotab" = false)
    (hasm : (start listing).declare.session.assemble.fault = none)
    (hsome : 0 < listing.lines.countP Listing.isInstruction) :
    let s := (start listing).declare.session
    let done := s.assemble.session.assembly
    let n := listing.lines.countP Listing.isInstruction
    ∃ (table : List Int) (first : Int),
      done.fields.lineTable = .list (table.map .int) ∧ done.fields.firstLine = .int first ∧
      table.length = 2 * n ∧ LineTable.address table n = done.code.length ∧
      (∀ pre line post, listing.lines = pre ++ line :: post → Listing.isInstruction line = true →
        s.BeginsAt pre line (LineTable.address table (pre.countP Listing.isInstruction)) ∧
        LineTable.lineNumber first table (pre.countP Listing.isInstruction)
          = pre.length + 1 - Listing.directivesWithin pre) ∧
      ((∀ pre line post, listing.lines = pre ++ line :: post → Listing.isInstruction line = true →
          LineTable.lineNumber first table (pre.countP Listing.isInstruction) = pre.length + 1) ↔
        ¬ Listing.Interrupted listing.lines) := by
  intro s done n
  have htable : s.assembly.fields.lineTable = .list [] := by
    exact declareLines_field .lineTable Assembly.initial (by simp)
      fun line hline => Listing.definesOn_of_defines hdef hline
  have hcode : s.assembly.code = [] := declareLines_code listing.directives Assembly.initial
  obtain ⟨b, q, hrun⟩ := s.assemble_ok_iff.mp hasm
  have hdone : done = { b with fields := { b.fields with stackSize := _ } } := assemble_of_ok hrun
  obtain ⟨pairs, hledger, -, -⟩ := (ledger_start htable hcode).run hrun
  rw [List.nil_append] at hledger
  have hcount : pairs.length = n := by
    rw [hledger.count, Listing.code_eq_codeOf]
    exact Listing.countP_codeOf listing.lines
  have hne : pairs ≠ [] := List.length_pos_iff.mp (hcount ▸ hsome)
  obtain ⟨-, first, hfirst, -⟩ := hledger.started hne
  have hentry : ∀ pre line post, listing.lines = pre ++ line :: post →
      Listing.isInstruction line = true →
      s.BeginsAt pre line
        (LineTable.address (LineTable.flat pairs) (pre.countP Listing.isInstruction)) ∧
      LineTable.lineNumber first (LineTable.flat pairs) (pre.countP Listing.isInstruction)
        = pre.length + 1 - Listing.directivesWithin pre := by
    intro pre line post hsplit hline
    obtain ⟨haddress, hown, hnumber⟩ :=
      entry_of_line htable hcode hrun hledger hfirst hsplit hline
    refine ⟨⟨haddress, ?_⟩, hnumber⟩
    show _ <+: done.code
    rw [hdone]
    exact hown
  refine ⟨LineTable.flat pairs, first, ?_, ?_, ?_, ?_, hentry, ?_⟩
  · rw [hdone]
    exact hledger.table
  · rw [hdone]
    exact hfirst
  · rw [LineTable.length_flat, hcount]
  · rw [LineTable.address_flat, List.take_of_length_le (le_of_eq hcount), hledger.widths, hdone]
  · rw [Listing.not_interrupted_iff]
    constructor
    · intro hall pre line post hsplit hline
      have hnumber := (hentry pre line post hsplit hline).2
      have htruth := hall pre line post hsplit hline
      omega
    · intro hfree pre line post hsplit hline
      have hnumber := (hentry pre line post hsplit hline).2
      have hzero := hfree pre line post hsplit hline
      omega

/-- A listing with a directive in the middle of its code: the instruction on its seventh line is
numbered six. -/
theorem lineTable_exact_interrupted :
    let listing : Listing := ⟨"sum.pyby", ["#defvar x", "", "% sum", "load 1", "", "#const two 2",
      "load two", "add", "store x"]⟩
    let s := (start listing).declare.session
    listing.defines "lnotab" = false ∧ s.assemble.fault = none ∧
      listing.lines.countP Listing.isInstruction = 4 ∧
      ∃ (table : List Int) (first : Int),
        s.assemble.session.assembly.fields.lineTable = .list (table.map .int) ∧
        s.assemble.session.assembly.fields.firstLine = .int first ∧ table.length = 8 ∧
        s.BeginsAt (listing.lines.take 6) "load two" (LineTable.address table 1) ∧
        LineTable.lineNumber first table 1 = 6 ∧ Listing.Interrupted listing.lines := by
  intro listing s
  have hdef : listing.defines "lnotab" = false := by decide +kernel
  have hasm : s.assemble.fault = none := Option.isNone_iff_eq_none.mp (by decide +kernel)
  have hfour : listing.lines.countP Listing.isInstruction = 4 := by decide +kernel
  obtain ⟨table, first, htable, hfirst, hlen, -, hentry, -⟩ :=
    lineTable_exact listing hdef hasm (by rw [hfour]; decide)
  obtain ⟨hbegin, hnumber⟩ := hentry (listing.lines.take 6) "load two" ["add", "store x"] rfl
    (by decide +kernel)
  have hone : (listing.lines.take 6).countP Listing.isInstruction = 1 := by decide +kernel
  have hwithin : Listing.directivesWithin (listing.lines.take 6) = 1 := by decide +kernel
  rw [hone] at hbegin hnumber
  rw [hwithin] at hnumber
  refine ⟨hdef, hasm, hfour, table, first, htable, hfirst, by rw [hlen, hfour], hbegin, hnumber, ?_⟩
  exact ⟨listing.lines.take 6, "load two", ["add", "store x"], rfl, by decide +kernel,
    ["#defvar x"], "", ["% sum", "load 1", "", "#const two 2"], rfl, by decide +kernel,
    "#const two 2", by simp, by decide +kernel⟩

end Session

end BytecodeAssembler
