import BytecodeAssembler.Proofs.LineStep
import BytecodeAssembler.Session
import Mathlib.Data.List.Basic
import Mathlib.Data.List.TakeWhile

/-!
# Calls on a session

Declaring and assembling may be asked of a session any number of times and in any order; a call that
fails leaves what it had done, and the next call goes on from there.  `Session.calls` is the session
after a list of such calls, and the lemmas here say what one call is in terms of the runs over
directive lines and code lines.
-/

namespace BytecodeAssembler

inductive Call where
  | declare
  | assemble
deriving DecidableEq

namespace Session

/-- The session after a call, whether or not it failed. -/
def call (s : Session) : Call → Session
  | .declare => s.declare.session
  | .assemble => s.assemble.session

/-- The session after some calls. -/
def calls (s : Session) (cs : List Call) : Session :=
  cs.foldl call s

theorem assemble_fault (s : Session) :
    s.assemble.fault = (s.assembly.assemble s.listing.linesBeforeCode s.listing.code).2 := rfl

end Session

namespace Listing

/-- Those of some lines that belong to the code. -/
def codeOf (lines : List String) : List String :=
  lines.filter fun line => !isDirective line

theorem codeOf_append (xs ys : List String) : codeOf (xs ++ ys) = codeOf xs ++ codeOf ys := by
  simp [codeOf]

/-- A line is among the directives of its listing just when it is one. -/
theorem code_eq_codeOf (listing : Listing) : listing.code = codeOf listing.lines := by
  apply List.filter_congr
  intro line hline
  simp [directives, hline]

/-- The first line of the code is the first that is no directive, so no line like it stands before
it. -/
theorem idxOf_codeOf {lines rest : List String} {first : String}
    (h : codeOf lines = first :: rest) :
    lines.idxOf first = (lines.takeWhile isDirective).length := by
  have hfirst : isDirective first = false := by
    have hmem : first ∈ codeOf lines := by simp [h]
    simpa [codeOf] using (List.mem_filter.mp hmem).2
  induction lines with
  | nil => cases h
  | cons line lines ih =>
    cases hline : isDirective line with
    | true =>
      have hne : line ≠ first := by
        rintro rfl
        rw [hline] at hfirst
        cases hfirst
      have hrest : codeOf lines = first :: rest := by simpa [codeOf, hline] using h
      rw [List.idxOf_cons_ne _ hne, List.takeWhile_cons_of_pos hline, List.length_cons, ih hrest]
    | false =>
      obtain rfl : line = first := by simpa [codeOf, hline] using congrArg List.head? h
      rw [List.idxOf_cons_self, List.takeWhile_cons_of_neg (by simp [hline]), List.length_nil]

/-- The lines before the code are the directives at the beginning. -/
theorem linesBeforeCode_eq (listing : Listing) :
    listing.linesBeforeCode = (listing.lines.takeWhile isDirective).length := by
  rw [linesBeforeCode, code_eq_codeOf]
  cases hcode : codeOf listing.lines with
  | nil =>
    have hall : ∀ line ∈ listing.lines, isDirective line = true := by
      simpa [codeOf] using hcode
    rw [List.takeWhile_eq_self_iff.mpr hall]
  | cons first rest => exact idxOf_codeOf hcode

end Listing

/-- The state in which the code of a session is assembled up to the lines `pre` of its listing. -/
def Session.reaching (s : Session) (pre : List String) : Assembly :=
  (Assembly.assembleLines s.listing.linesBeforeCode (Listing.codeOf pre) s.assembly
    Progress.initial).1

namespace Assembly

/-- The fault of assembling is that of the run over the lines. -/
theorem assemble_snd (before : Nat) (code : List String) (a : Assembly) :
    (a.assemble before code).2 = (assembleLines before code a Progress.initial).2.2 := by
  unfold assemble
  rcases assembleLines before code a Progress.initial with ⟨b, p, f⟩
  cases f <;> rfl

/-- A run that succeeds leaves its state, with the stack size entered. -/
theorem assemble_of_ok {before : Nat} {code : List String} {a b : Assembly} {p : Progress}
    (h : assembleLines before code a Progress.initial = (b, p, none)) :
    (a.assemble before code).1
      = { b with fields := { b.fields with stackSize := .int (stackSizeFor p.peak) } } := by
  simp only [assemble, h]

/-- A run that fails leaves the state at its fault. -/
theorem assemble_of_fault {before : Nat} {code : List String} {a b : Assembly} {p : Progress}
    {f : Fault} (h : assembleLines before code a Progress.initial = (b, p, some f)) :
    (a.assemble before code).1 = b := by
  simp only [assemble, h]

end Assembly

/-- Assembling succeeds when the run over the lines of the code does. -/
theorem Session.assemble_ok_iff (s : Session) :
    s.assemble.fault = none ↔ ∃ b p,
      Assembly.assembleLines s.listing.linesBeforeCode s.listing.code s.assembly Progress.initial
        = (b, p, none) := by
  rw [Session.assemble_fault, Assembly.assemble_snd]
  rcases Assembly.assembleLines s.listing.linesBeforeCode s.listing.code s.assembly
    Progress.initial with ⟨b, p, f⟩
  simp

/-- A run without a fault comes to every line of the code: it goes through the lines before it, takes
its step, and goes on from there. -/
theorem Session.step_of_split {s : Session} {b : Assembly} {p : Progress}
    (hrun : Assembly.assembleLines s.listing.linesBeforeCode s.listing.code s.assembly
      Progress.initial = (b, p, none))
    {pre post : List String} {line : String} (hsplit : s.listing.lines = pre ++ line :: post)
    (hcode : Listing.isDirective line = false) :
    ∃ q c r,
      Assembly.assembleLines s.listing.linesBeforeCode (Listing.codeOf pre) s.assembly
        Progress.initial = (s.reaching pre, q, none) ∧
      Assembly.LineStep s.listing.linesBeforeCode line (s.reaching pre) q (c, r, none) ∧
      Assembly.assembleLines s.listing.linesBeforeCode (Listing.codeOf post) c r = (b, p, none) := by
  have hlines : s.listing.code = Listing.codeOf pre ++ line :: Listing.codeOf post := by
    rw [Listing.code_eq_codeOf, hsplit, Listing.codeOf_append]
    simp [Listing.codeOf, hcode]
  rw [hlines] at hrun
  obtain ⟨a, q, hpre, hrest⟩ := Assembly.assembleLines_prefix hrun
  have hreached : s.reaching pre = a := by rw [Session.reaching, hpre]
  have hstep := Assembly.assembleLine_step s.listing.linesBeforeCode line a q
  rcases hr : a.assembleLine s.listing.linesBeforeCode line q with ⟨c, r, f⟩
  rw [hr] at hstep
  simp only [Assembly.assembleLines, hr] at hrest
  rw [hreached]
  cases f with
  | some f => simp at hrest
  | none => exact ⟨q, c, r, hpre, hstep, hrest⟩

end BytecodeAssembler
