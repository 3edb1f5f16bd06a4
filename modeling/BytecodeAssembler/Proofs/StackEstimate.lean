import BytecodeAssembler.Proofs.Mnemonics
import BytecodeAssembler.Proofs.StackDepth
import Mathlib.Data.List.Basic
import Mathlib.Data.List.Infix

/-!
# The size of the stack as a maximum

The size of the stack that the assembler declares depends on the names of the instructions and on
nothing else.  Each name has an effect on the depth (`Mnemonic.effectOf`): families of operations
push or pop by how their names begin, and shorthands by themselves.  The declared size is the
highest sum of effects over all first parts of the code, or five where no such sum is above zero
(`Session.stackSize_of_effects`).

The depth may fall below zero on the way, and the part with the highest sum can end anywhere.  The
peak is only raised where an instruction counts as a push, which is enough: no other instruction takes
the depth above what it was.
-/

namespace BytecodeAssembler

namespace Mnemonic

/-- How the names of operations begin that count as a push. -/
def pushFamilies : List String :=
  ["LOAD_", "DUP_", "UNPACK_"]

/-- How the names of operations begin that count as a pop. -/
def popFamilies : List String :=
  ["STORE_", "POP_", "BINARY_", "BUILD_", "PRINT_ITEM_"]

/-- The shorthands that count as a pop. -/
def popShorthands : List String :=
  ["STORE", "PRINTLN", "ADD", "SUBTRACT", "MULTIPLY", "DIVIDE", "POWER", "MODULO", "LSHIFT",
    "RSHIFT", "AND", "XOR", "OR", "SUBSCR"]

/-- Whether a name begins like one of some families. -/
def inFamilies (families : List String) (name : String) : Bool :=
  families.any fun stem => stem.toList.isPrefixOf name.toList

/-- **The effect of a name** on the depth of the stack. -/
def effectOf (name : String) : Int :=
  if (Opcode.number? name).isSome then
    if inFamilies pushFamilies name then 1
    else if inFamilies popFamilies name then -1
    else 0
  else if name = "LOAD" then 1
  else if name ∈ popShorthands then -1
  else 0

/-- What is counted for an operation only asks how its name begins: no operation is called by the
name of a family alone. -/
theorem depthChange_operations :
    ∀ e ∈ Opcode.table, depthChange (.operation e.1 e.2)
      = if inFamilies pushFamilies e.1 then 1 else if inFamilies popFamilies e.1 then -1 else 0 := by
  decide +kernel

theorem effectOf_operators :
    (∀ e ∈ binaryOperators, effectOf e.1 = -1) ∧ ∀ e ∈ unaryOperators, effectOf e.1 = 0 := by
  decide +kernel

/-- **What is counted for a mnemonic** is the effect of its name. -/
theorem Named.depthChange_eq {name : String} {m : Mnemonic} (h : Named name m) :
    m.depthChange = effectOf name := by
  cases h with
  | @operation number h =>
    rw [effectOf, if_pos (by simp [h])]
    exact depthChange_operations (name, number) (mem_of_lookup h)
  | println h => subst h; decide +kernel
  | store h => subst h; decide +kernel
  | ret h => subst h; decide +kernel
  | load h => subst h; decide +kernel
  | binary h => exact (effectOf_operators.1 _ h).symm
  | unary h => exact (effectOf_operators.2 _ h).symm

/-- The highest depth is reached by some first part of the mnemonics. -/
theorem exists_prefix_highest (depth : Int) (ms : List Mnemonic) :
    ∃ pre, pre <+: ms ∧ depth + netChange pre = highest depth ms := by
  by_contra hnone
  -- Otherwise every part stays below the highest depth, and so does their maximum.
  have hbelow : ∀ pre, pre <+: ms → depth + netChange pre ≤ highest depth ms - 1 := by
    intro pre hpre
    have hle := (highest_le_iff depth (highest depth ms) ms).mp (Int.le_refl _) pre hpre
    have hne : depth + netChange pre ≠ highest depth ms := fun heq => hnone ⟨pre, hpre, heq⟩
    omega
  have hless := (highest_le_iff depth (highest depth ms - 1) ms).mpr hbelow
  omega

end Mnemonic

namespace Assembly

/-- The effect of the instruction on a line, if it holds one. -/
def effect? (line : String) : Option Int :=
  (instruction? line).map fun w => Mnemonic.effectOf (Text.capitals w.1)

/-- A run without a fault takes a step without a fault at each of its lines. -/
theorem exists_step_of_mem {before : Nat} {lines : List String} {a a' : Assembly} {p p' : Progress}
    (h : assembleLines before lines a p = (a', p', none)) {line : String} (hline : line ∈ lines) :
    ∃ b q b' q', LineStep before line b q (b', q', none) := by
  obtain ⟨pre, post, rfl⟩ := List.append_of_mem hline
  obtain ⟨b, q, -, hrest⟩ := assembleLines_prefix h
  have hstep := assembleLine_step before line b q
  rcases hr : b.assembleLine before line q with ⟨b', q', f⟩
  rw [hr] at hstep
  simp only [assembleLines, hr] at hrest
  cases f with
  | some f => simp at hrest
  | none => exact ⟨b, q, b', q', hstep⟩

/-- A line without a fault has the effect that is counted for its mnemonic. -/
theorem LineStep.effect?_eq {before : Nat} {line : String} {a a' : Assembly} {p p' : Progress}
    (h : LineStep before line a p (a', p', none)) :
    effect? line = (mnemonic? line).map Mnemonic.depthChange := by
  cases h with
  | gap hi => simp [effect?, mnemonic?, hi]
  | emits hi hm hr hl =>
    have hnamed := Mnemonic.ofWord?_eq_some_iff.mp hm
    simp [effect?, mnemonic?, hi, hm, hnamed.depthChange_eq]

theorem effects_assembleLines {before : Nat} {lines : List String} {a a' : Assembly}
    {p p' : Progress} (h : assembleLines before lines a p = (a', p', none)) :
    lines.filterMap effect? = (lines.filterMap mnemonic?).map Mnemonic.depthChange := by
  rw [List.map_filterMap]
  apply List.filterMap_congr
  intro line hline
  obtain ⟨b, q, b', q', hstep⟩ := exists_step_of_mem h hline
  exact hstep.effect?_eq

end Assembly

/-- The effects of the instructions of a listing, in the order of its lines. -/
def Listing.effects (listing : Listing) : List Int :=
  listing.code.filterMap Assembly.effect?

/-- **The declared stack is the highest sum of effects.**  Let the code of a session be assembled
without a fault, whatever the session held before.  Among the sums of effects over all first parts
of the instructions, the empty one included, there is a highest; the size of the stack is then that
sum if it is above zero, and five otherwise. -/
theorem Session.stackSize_of_effects (s : Session) (h : s.assemble.fault = none) :
    ∃ most : Int,
      (∃ pre, pre <+: s.listing.effects ∧ pre.sum = most) ∧
      (∀ pre, pre <+: s.listing.effects → pre.sum ≤ most) ∧
      s.assemble.session.assembly.fields.stackSize = .int (if 0 < most then most else 5) := by
  obtain ⟨b, p, hrun⟩ := s.assemble_ok_iff.mp h
  have heffects : s.listing.effects = s.listing.mnemonics.map Mnemonic.depthChange :=
    Assembly.effects_assembleLines hrun
  refine ⟨Mnemonic.highest 0 s.listing.mnemonics, ?_, ?_, s.stackSize_assemble h⟩
  · obtain ⟨pre, hpre, hsum⟩ := Mnemonic.exists_prefix_highest 0 s.listing.mnemonics
    refine ⟨pre.map Mnemonic.depthChange, ?_, ?_⟩
    · rw [heffects]
      exact hpre.map _
    · rw [← hsum, Mnemonic.netChange, Int.zero_add]
  · intro pre hpre
    rw [heffects] at hpre
    obtain ⟨ms, hms, rfl⟩ := List.prefix_map_iff.mp hpre
    have hle := (Mnemonic.highest_le_iff 0 _ _).mp (Int.le_refl _) ms hms
    rw [Int.zero_add] at hle
    exact hle

/-- The depth first falls below zero, and is highest in the middle of the code; the size that a
directive had set is gone. -/
theorem Session.stackSize_of_effects_middle :
    let listing : Listing :=
      { name := "middle"
        lines := ["#define stacksize 99", "#defvar x, y", "pop_top", "load 1", "% two", "dup_top",
          "Load 2.5", "negative", "print_item", "add", "build_list 2", "store y", "load x",
          "return x"] }
    let s := (Session.start listing).declare.session
    s.assemble.fault = none ∧
      listing.effects = [-1, 1, 1, 1, 0, 0, -1, -1, -1, 1, 0] ∧
      s.assemble.session.assembly.fields.stackSize = .int 2 := by
  intro listing s
  have hasm : s.assemble.fault = none := Option.isNone_iff_eq_none.mp (by decide +kernel)
  have heffects : listing.effects = [-1, 1, 1, 1, 0, 0, -1, -1, -1, 1, 0] := by decide +kernel
  obtain ⟨most, ⟨pre, hpre, hsum⟩, hmost, hsize⟩ := Session.stackSize_of_effects s hasm
  change pre <+: listing.effects at hpre
  change ∀ pre, pre <+: listing.effects → _ at hmost
  rw [heffects] at hpre hmost
  have htwo : (2 : Int) ≤ most := by simpa using hmost [-1, 1, 1, 1] (by decide)
  have hle : pre.sum ≤ 2 := by
    have hall : ∀ part ∈ List.inits [-1, 1, 1, 1, 0, 0, -1, -1, -1, 1, 0],
        List.sum part ≤ (2 : Int) := by decide
    exact hall pre ((List.mem_inits _ _).mpr hpre)
  obtain rfl : most = 2 := by omega
  rw [if_pos (by decide)] at hsize
  exact ⟨hasm, heffects, hsize⟩

end BytecodeAssembler
