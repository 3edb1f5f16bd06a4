import BytecodeAssembler.Proofs.Calls
import BytecodeAssembler.Proofs.LineStep
import Mathlib.Algebra.Ring.Int.Defs

/-!
# The depth of the stack

The assembler counts the depth of the stack line by line, and declares the highest depth that it
counted as the size of the stack.  It compares the depth with the highest one where something is
pushed and nowhere else; since the depth is never above the highest one, nothing is missed by that.
`Mnemonic.highest` is the highest depth, as a function of the mnemonics alone
(`Assembly.peak_assembleLines`).

For shorthands it is known how the machine moves the stack (`Mnemonic.moves`), so the declared size
can be held against the depths that a program really goes through (`Stack.depths`).  Between two
lines the count is right.  Within a line it is not where `RETURN` pushes its operand, since only the
depth after the line is counted, and there the operand is gone again.  So a program may need one
place more than is declared, namely when it comes to a `RETURN` with the stack as high as declared.
-/

namespace BytecodeAssembler

/-- The depths at all points of a run of moves, from the depth at its start to that at its end. -/
def Stack.depths (depth : Int) : List Int → List Int
  | [] => [depth]
  | move :: moves => depth :: Stack.depths (depth + move) moves

namespace Mnemonic

/-! ## What the assembler counts -/

/-- The change of the depth over some mnemonics, as the assembler counts it. -/
def netChange (ms : List Mnemonic) : Int :=
  (ms.map depthChange).sum

/-- The highest depth that the assembler counts over some mnemonics, the first depth included. -/
def highest (depth : Int) : List Mnemonic → Int
  | [] => depth
  | m :: ms => max depth (highest (depth + m.depthChange) ms)

theorem netChange_cons (m : Mnemonic) (ms : List Mnemonic) :
    netChange (m :: ms) = m.depthChange + netChange ms := by
  simp [netChange]

theorem le_highest (depth : Int) (ms : List Mnemonic) : depth ≤ highest depth ms := by
  cases ms with
  | nil => exact Int.le_refl depth
  | cons m ms => exact Int.le_max_left _ _

/-- The highest depth is the maximum over all first parts of the mnemonics. -/
theorem highest_le_iff (depth bound : Int) (ms : List Mnemonic) :
    highest depth ms ≤ bound ↔ ∀ pre, pre <+: ms → depth + netChange pre ≤ bound := by
  induction ms generalizing depth with
  | nil => simp [highest, netChange]
  | cons m ms ih =>
    rw [highest, Int.max_le, ih]
    constructor
    · rintro ⟨hhead, htail⟩ pre hpre
      rcases List.prefix_cons_iff.mp hpre with rfl | ⟨pre, rfl, hrest⟩
      · simpa [netChange] using hhead
      · have h := htail pre hrest
        rw [netChange_cons]
        omega
    · intro h
      refine ⟨by simpa [netChange] using h [] List.nil_prefix, fun pre hpre => ?_⟩
      have hcons := h (m :: pre) (List.prefix_cons_iff.mpr (.inr ⟨pre, rfl, hpre⟩))
      rw [netChange_cons] at hcons
      omega

/-! ## What the machine does -/

/-- Whether a mnemonic is a shorthand, and not the name of an operation. -/
def isShorthand : Mnemonic → Bool
  | .operation _ _ => false
  | _ => true

/-- **The moves of the stack** at a shorthand, one after the other.  `RETURN` pushes its operand and
takes it off again.  Operations that are called by their names are left out. -/
def moves : Mnemonic → List Int
  | .load => [1]
  | .store | .println | .binary _ => [-1]
  | .ret => [1, -1]
  | .unary _ | .operation _ _ => []

theorem sum_moves {m : Mnemonic} (h : m.isShorthand = true) : m.moves.sum = m.depthChange := by
  cases m with
  | operation name number => cases h
  | _ => rfl

/-- Over whole lines the machine and the assembler agree. -/
theorem sum_flatMap_moves {ms : List Mnemonic} (h : ∀ m ∈ ms, m.isShorthand = true) :
    (ms.flatMap moves).sum = netChange ms := by
  induction ms with
  | nil => rfl
  | cons m ms ih =>
    obtain ⟨hm, hms⟩ := List.forall_mem_cons.mp h
    rw [List.flatMap_cons, List.sum_append, netChange_cons, sum_moves hm, ih hms]

/-- At every `RETURN` among some mnemonics the depth is below a bound. -/
def ReturnsBelow (bound depth : Int) (ms : List Mnemonic) : Prop :=
  ∀ pre post, ms = pre ++ .ret :: post → depth + netChange pre < bound

theorem returnsBelow_cons_iff (bound depth : Int) (m : Mnemonic) (ms : List Mnemonic) :
    ReturnsBelow bound depth (m :: ms) ↔
      (m = .ret → depth < bound) ∧ ReturnsBelow bound (depth + m.depthChange) ms := by
  constructor
  · intro h
    refine ⟨?_, fun pre post hms => ?_⟩
    · rintro rfl
      simpa [netChange] using h [] ms rfl
    · have hcons := h (m :: pre) post (by rw [hms, List.cons_append])
      rw [netChange_cons] at hcons
      omega
  · rintro ⟨hhead, htail⟩ pre post hms
    cases pre with
    | nil =>
      obtain ⟨hm, -⟩ := List.cons.inj hms
      simpa [netChange] using hhead hm
    | cons m' pre =>
      obtain ⟨rfl, hrest⟩ := List.cons.inj hms
      have h := htail pre post hrest
      rw [netChange_cons]
      omega

/-- **The depths of shorthands** stay within a bound when those that the assembler counts do, and
every `RETURN` has a place left for its operand. -/
theorem forall_depths_le_iff {ms : List Mnemonic} (h : ∀ m ∈ ms, m.isShorthand = true)
    (depth bound : Int) :
    (∀ d ∈ Stack.depths depth (ms.flatMap moves), d ≤ bound) ↔
      highest depth ms ≤ bound ∧ ReturnsBelow bound depth ms := by
  induction ms generalizing depth with
  | nil => simp [Stack.depths, highest, ReturnsBelow]
  | cons m ms ih =>
    obtain ⟨hm, hms⟩ := List.forall_mem_cons.mp h
    rw [returnsBelow_cons_iff, highest, Int.max_le]
    -- Each move gives one more point; then the rest goes on from the depth after the line.
    cases m with
    | operation name number => cases hm
    | ret =>
      have hrest := ih hms depth
      have hback : depth + 1 + -1 = depth := by omega
      simp only [List.flatMap_cons, moves, List.cons_append, List.nil_append, Stack.depths,
        List.forall_mem_cons, hback, hrest, depthChange, Int.add_zero, forall_const]
      constructor
      · rintro ⟨hhere, hpushed, hhigh, hret⟩
        exact ⟨⟨hhere, hhigh⟩, by omega, hret⟩
      · rintro ⟨⟨hhere, hhigh⟩, hbelow, hret⟩
        exact ⟨hhere, by omega, hhigh, hret⟩
    | unary number =>
      have hrest := ih hms depth
      have hle := le_highest depth ms
      simp only [List.flatMap_cons, moves, List.nil_append, hrest, depthChange, Int.add_zero,
        reduceCtorEq, false_implies, true_and]
      constructor
      · rintro ⟨hhigh, hret⟩
        exact ⟨⟨Int.le_trans hle hhigh, hhigh⟩, hret⟩
      · rintro ⟨⟨-, hhigh⟩, hret⟩
        exact ⟨hhigh, hret⟩
    | load =>
      have hrest := ih hms (depth + 1)
      simp only [List.flatMap_cons, moves, List.cons_append, List.nil_append, Stack.depths,
        List.forall_mem_cons, hrest, depthChange, reduceCtorEq, false_implies, true_and, and_assoc]
    | _ =>
      have hrest := ih hms (depth + -1)
      simp only [List.flatMap_cons, moves, List.cons_append, List.nil_append, Stack.depths,
        List.forall_mem_cons, hrest, depthChange, reduceCtorEq, false_implies, true_and, and_assoc]

end Mnemonic

/-! ## Runs of lines -/

namespace Assembly

/-- The mnemonic of the instruction on a line, if it holds one. -/
def mnemonic? (line : String) : Option Mnemonic :=
  (instruction? line).bind fun w => Mnemonic.ofWord? w.1

/-- What a line without a fault does to the counted depth and its peak. -/
theorem LineStep.counted {before : Nat} {line : String} {a a' : Assembly} {p p' : Progress}
    (h : LineStep before line a p (a', p', none)) (hp : p.depth ≤ p.peak) :
    match mnemonic? line with
    | none => p'.depth = p.depth ∧ p'.peak = p.peak
    | some m => p'.depth = p.depth + m.depthChange ∧ p'.peak = max p.peak p'.depth := by
  cases h with
  | gap hi => simp [mnemonic?, hi]
  | emits hi hm hr hl =>
    have hplaced : p.placed.depth ≤ p.placed.peak := hp
    simp only [mnemonic?, hi, hm, Option.bind_some]
    exact ⟨p.placed.count_depth _, Progress.count_peak hplaced _⟩

/-- The depth stays below the peak. -/
theorem LineStep.depth_le_peak {before : Nat} {line : String} {a a' : Assembly} {p p' : Progress}
    (h : LineStep before line a p (a', p', none)) (hp : p.depth ≤ p.peak) :
    p'.depth ≤ p'.peak := by
  cases h with
  | gap hi => exact hp
  | emits hi hm hr hl =>
    have hplaced : p.placed.depth ≤ p.placed.peak := hp
    exact Progress.count_depth_le_peak hplaced _

/-- **The peak of a run** is the highest depth counted over its mnemonics. -/
theorem peak_assembleLines {before : Nat} {lines : List String} {a a' : Assembly}
    {p p' : Progress} (h : assembleLines before lines a p = (a', p', none))
    (hp : p.depth ≤ p.peak) :
    p'.peak = max p.peak (Mnemonic.highest p.depth (lines.filterMap mnemonic?)) := by
  induction lines generalizing a p with
  | nil =>
    obtain ⟨-, rfl⟩ : a = a' ∧ p = p' := by simpa [assembleLines] using h
    exact (Int.max_eq_left hp).symm
  | cons line rest ih =>
    have hline := assembleLine_step before line a p
    rcases hr : a.assembleLine before line p with ⟨b, q, f⟩
    rw [hr] at hline
    simp only [assembleLines, hr] at h
    cases f with
    | some f => simp at h
    | none =>
      have hcount := hline.counted hp
      have hrest := ih h (hline.depth_le_peak hp)
      cases hm : mnemonic? line with
      | none =>
        rw [hm] at hcount
        obtain ⟨hdepth, hpeak⟩ := hcount
        rw [hrest, List.filterMap_cons_none hm, hdepth, hpeak]
      | some m =>
        rw [hm] at hcount
        obtain ⟨hdepth, hpeak⟩ := hcount
        have hle := Mnemonic.le_highest q.depth (rest.filterMap mnemonic?)
        rw [hrest, List.filterMap_cons_some hm, Mnemonic.highest, hpeak, ← hdepth]
        omega

theorem le_stackSizeFor (peak : Int) : peak ≤ stackSizeFor peak := by
  unfold stackSizeFor
  split <;> omega

end Assembly

/-- The mnemonics of the code of a listing, in the order of its lines. -/
def Listing.mnemonics (listing : Listing) : List Mnemonic :=
  listing.code.filterMap Assembly.mnemonic?

/-- The size of the stack that a session declares when its code is assembled. -/
theorem Session.stackSize_assemble (s : Session) (h : s.assemble.fault = none) :
    s.assemble.session.assembly.fields.stackSize
      = .int (Assembly.stackSizeFor (Mnemonic.highest 0 s.listing.mnemonics)) := by
  obtain ⟨b, p, hrun⟩ := s.assemble_ok_iff.mp h
  have hpeak : p.peak = Mnemonic.highest 0 s.listing.mnemonics := by
    rw [Assembly.peak_assembleLines hrun (Int.le_refl _)]
    exact Int.max_eq_right (Mnemonic.le_highest 0 _)
  show (s.assembly.assemble s.listing.linesBeforeCode s.listing.code).1.fields.stackSize = _
  rw [Assembly.assemble_of_ok hrun, hpeak]

/-- **How far the declared stack suffices.**  Let the code of a listing hold shorthands only, and be
assembled without a fault.  Between two lines the depth of the stack is at most the declared size,
and at no point is it more than one above it.  It is at most the declared size at every point just
when each `RETURN` is come to at a depth below that size. -/
theorem Session.depths_le_stackSize_iff (listing : Listing)
    (hasm : (Session.start listing).declare.session.assemble.fault = none)
    (hshort : ∀ m ∈ listing.mnemonics, m.isShorthand = true) :
    let done := (Session.start listing).declare.session.assemble.session.assembly
    let depths := Stack.depths 0 (listing.mnemonics.flatMap Mnemonic.moves)
    ∃ size, done.fields.stackSize = .int size ∧
      (∀ pre, pre <+: listing.mnemonics → (pre.flatMap Mnemonic.moves).sum ≤ size) ∧
      (∀ d ∈ depths, d ≤ size + 1) ∧
      ((∀ d ∈ depths, d ≤ size) ↔
        ∀ pre post, listing.mnemonics = pre ++ .ret :: post →
          (pre.flatMap Mnemonic.moves).sum < size) := by
  intro done depths
  let size := Assembly.stackSizeFor (Mnemonic.highest 0 listing.mnemonics)
  have hhigh : Mnemonic.highest 0 listing.mnemonics ≤ size := Assembly.le_stackSizeFor _
  have hcounted := (Mnemonic.highest_le_iff 0 size listing.mnemonics).mp hhigh
  -- Over whole lines the moves add up to what is counted.
  have hsum : ∀ pre, pre <+: listing.mnemonics →
      (pre.flatMap Mnemonic.moves).sum = Mnemonic.netChange pre := fun pre hpre =>
    Mnemonic.sum_flatMap_moves fun m hm => hshort m (hpre.subset hm)
  have hlines : ∀ pre, pre <+: listing.mnemonics → (pre.flatMap Mnemonic.moves).sum ≤ size := by
    intro pre hpre
    have h := hcounted pre hpre
    rw [hsum pre hpre]
    omega
  refine ⟨size, Session.stackSize_assemble _ hasm, hlines, ?_, ?_⟩
  · refine (Mnemonic.forall_depths_le_iff hshort 0 (size + 1)).mpr ⟨by omega, ?_⟩
    intro pre post hms
    have hpre : pre <+: listing.mnemonics := ⟨_, hms.symm⟩
    have h := hcounted pre hpre
    omega
  · rw [Mnemonic.forall_depths_le_iff hshort 0 size]
    constructor
    · rintro ⟨-, hret⟩ pre post hms
      have h := hret pre post hms
      rw [hsum pre ⟨_, hms.symm⟩]
      omega
    · intro hret
      refine ⟨hhigh, fun pre post hms => ?_⟩
      have h := hret pre post hms
      rw [hsum pre ⟨_, hms.symm⟩] at h
      omega

/-- Two numbers are added before a third is returned, so the stack is no more than as high as
declared. -/
theorem Session.depths_le_stackSize_iff_added :
    let listing : Listing := { name := "added", lines := ["load 1", "load 2", "add", "return 3"] }
    let s := (Session.start listing).declare.session
    s.assemble.fault = none ∧ (∀ m ∈ listing.mnemonics, m.isShorthand = true) ∧
      ∃ size, s.assemble.session.assembly.fields.stackSize = .int size ∧
        ∀ d ∈ Stack.depths 0 (listing.mnemonics.flatMap Mnemonic.moves), d ≤ size := by
  intro listing s
  have hlisted : listing.mnemonics = [.load, .load, .binary 23, .ret] := by decide +kernel
  have hasm : s.assemble.fault = none := Option.isNone_iff_eq_none.mp (by decide +kernel)
  have hshort : ∀ m ∈ listing.mnemonics, m.isShorthand = true := by
    rw [hlisted]
    decide
  obtain ⟨size, hsize, hlines, -, hiff⟩ := Session.depths_le_stackSize_iff listing hasm hshort
  refine ⟨hasm, hshort, size, hsize, hiff.mpr fun pre post hms => ?_⟩
  -- The only `RETURN` is the last line, and two numbers were there after the second.
  have htwo : (2 : Int) ≤ size := hlines [.load, .load] (by simp [hlisted])
  have hpre : pre = [.load, .load, .binary 23] := by
    rw [hlisted] at hms
    rcases pre with _ | ⟨a, _ | ⟨b, _ | ⟨c, _ | ⟨d, pre⟩⟩⟩⟩ <;> simp at hms
    obtain ⟨rfl, rfl, rfl, -⟩ := hms
    rfl
  have hone : (pre.flatMap Mnemonic.moves).sum = 1 := by
    rw [hpre]
    decide
  omega

/-- A number is on the stack when another is returned: the stack holds two, and one is declared. -/
theorem Session.depth_exceeds_stackSize :
    let listing : Listing := { name := "returning", lines := ["load 1", "return 2"] }
    let s := (Session.start listing).declare.session
    let depths := Stack.depths 0 (listing.mnemonics.flatMap Mnemonic.moves)
    (Session.start listing).declare.fault = none ∧ s.assemble.fault = none ∧
      (∀ m ∈ listing.mnemonics, m.isShorthand = true) ∧ (∀ d ∈ depths, 0 ≤ d) ∧
      s.assemble.session.assembly.fields.stackSize = .int 1 ∧ 2 ∈ depths := by
  intro listing s depths
  have hlisted : listing.mnemonics = [.load, .ret] := by decide +kernel
  have hdepths : depths = [0, 1, 2, 1] := by
    show Stack.depths 0 (listing.mnemonics.flatMap Mnemonic.moves) = _
    rw [hlisted]
    rfl
  have hasm : s.assemble.fault = none := Option.isNone_iff_eq_none.mp (by decide +kernel)
  have hsize : s.assemble.session.assembly.fields.stackSize = .int 1 := by
    have h := Session.stackSize_assemble s hasm
    rw [show s.listing.mnemonics = _ from hlisted] at h
    exact h
  rw [hlisted, hdepths]
  exact ⟨rfl, hasm, by decide, by decide, hsize, by decide⟩

end BytecodeAssembler
