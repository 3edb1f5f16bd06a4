import BytecodeAssembler.Proofs.Acceptance
import BytecodeAssembler.Proofs.Atoms
import BytecodeAssembler.Proofs.FailedRuns

/-!
# Operands that are neither symbols nor numbers

`LOAD` and `RETURN` take an operand that is in none of their tables for a number, and read it as a
literal.  If it has another value, or is no expression at all, they report it and end.  But reading
can fail in other ways, and then its error ends the run without a report (`Literal.Reported` tells
the two apart).  The most common of them is a misspelt symbol: a name is an expression, and no
literal.

`Session.assemble_badOperand` says for every operand which of the two happens.
-/

namespace BytecodeAssembler

namespace Literal

/-- Whether an error of reading counts as a value that is no number. -/
def ReadError.isExpected : ReadError → Bool
  | .malformed | .indented | .unhashable => true
  | _ => false

/-- Words that are reported if they are no numbers: those that have a value, or that fail to have
one in an expected way. -/
def Reported (word : String) : Prop :=
  ∀ e, read word = .error e → e.isExpected = true

theorem not_reported_iff {word : String} :
    ¬ Reported word ↔ ∃ e, read word = .error e ∧ e.isExpected = false := by
  simp [Reported]

theorem IsName.not_isNumber {word : String} (h : IsName word) : ¬ Assembly.IsNumber word := by
  rintro ⟨v, hv, -⟩
  rw [read_name h] at hv
  cases hv

/-- A word that is reported, and no number, is read as no number. -/
theorem readNumber_of_reported {word : String} (h : Reported word)
    (hnumber : ¬ Assembly.IsNumber word) : ∃ v, readNumber word = .ok (v, false) := by
  unfold readNumber
  cases hread : read word with
  | ok v =>
    have hnot : v.isNumber = false := by
      rw [Bool.eq_false_iff]
      exact fun hv => hnumber ⟨v, hread, hv⟩
    refine ⟨v, ?_⟩
    show Except.ok (v, v.isNumber) = _
    rw [hnot]
  | error e =>
    have hexpected := h e hread
    cases e with
    | malformed => exact ⟨_, rfl⟩
    | indented => exact ⟨_, rfl⟩
    | unhashable => exact ⟨_, rfl⟩
    | _ => cases hexpected

/-- An error that is not expected stays one. -/
theorem readNumber_of_error {word : String} {e : ReadError} (hread : read word = .error e)
    (he : e.isExpected = false) : readNumber word = .error e := by
  unfold readNumber
  rw [hread]
  cases e with
  | malformed => cases he
  | indented => cases he
  | unhashable => cases he
  | _ => rfl

end Literal

namespace Assembly

/-- **Operands without a symbol**: the line is a `LOAD` or `RETURN`, as `name` says, and its operand
is in none of the tables that it is looked up in. -/
inductive Unnamed (a : Assembly) (line t : String) : String → Prop
  | load {rest : List String} (h : Spells line "LOAD" (t :: rest)) (hc : ¬ a.constantTable.Has t)
      (hl : ¬ a.localTable.Has t) (hg : ¬ a.globalTable.Has t) : Unnamed a line t "LOAD"
  | ret {rest : List String} (h : Spells line "RETURN" (t :: rest)) (hc : ¬ a.constantTable.Has t)
      (hl : ¬ a.localTable.Has t) : Unnamed a line t "RETURN"

/-- An operand without a symbol is a number, or the line fails as reading the number does. -/
theorem Unnamed.assembleLine {a : Assembly} {line t name : String} (h : Unnamed a line t name) :
    ∃ report : Report, report.message = "Unexpected value for " ++ name ++ " macro: " ++ t ∧
      ∀ f before p, a.loadNumber t report = .error f →
        (a.assembleLine before line p).2.2 = some f := by
  cases h with
  | load h hc hl hg =>
    rw [← SymbolTable.find?_eq_none_iff] at hc hl hg
    obtain ⟨word, hi, hword⟩ := h
    have hm := Mnemonic.ofWord?_eq_some_iff.mpr (.load hword)
    refine ⟨.badLoad t, rfl, fun f before p hf => assembleLine_of_error hi hm ?_ before p⟩
    simp only [resolve_load, loadForLoad, hc, hl, hg, hf]
    rfl
  | ret h hc hl =>
    rw [← SymbolTable.find?_eq_none_iff] at hc hl
    obtain ⟨word, hi, hword⟩ := h
    have hm := Mnemonic.ofWord?_eq_some_iff.mpr (.ret hword)
    refine ⟨.badReturn t, rfl, fun f before p hf => assembleLine_of_error hi hm ?_ before p⟩
    simp only [resolve_ret, loadForReturn, hc, hl, hf]
    rfl

/-- A run that comes to a line which fails ends with the fault of that line. -/
theorem assemble_snd_of_failing {before : Nat} {pre : List String} {line : String} {a b : Assembly}
    {q : Progress} {f : Fault} (hpre : assembleLines before pre a Progress.initial = (b, q, none))
    (hline : (b.assembleLine before line q).2.2 = some f) (post : List String) :
    (a.assemble before (pre ++ line :: post)).2 = some f := by
  rcases hr : b.assembleLine before line q with ⟨c, r, g⟩
  rw [hr] at hline
  obtain rfl : g = some f := hline
  rw [assemble_of_failing hpre hr]

end Assembly

namespace Session

open Assembly

theorem assemble_printed (s : Session) :
    s.assemble.printed = Text.ofString ((s.assemble.fault.map Fault.printed).getD "") :=
  rfl

/-- **Operands that are neither symbols nor numbers.**  Let a run come to a `LOAD` or `RETURN` whose
operand is in none of the tables that it is looked up in, and denotes no number.  If the operand has
a value, or is no expression or holds something that cannot be hashed, it is reported, and the run
ends with the exit code of a report.  Otherwise the error of reading it ends the run, and nothing is
printed.  This is so for every name. -/
theorem assemble_badOperand {s : Session} {pre post : List String} {line t name : String}
    {b : Assembly} {q : Progress} (hcode : s.listing.code = pre ++ line :: post)
    (hreached : assembleLines s.listing.linesBeforeCode pre s.assembly Progress.initial
      = (b, q, none))
    (hunnamed : b.Unnamed line t name) (hnumber : ¬ IsNumber t) :
    let done := s.assemble
    (Literal.Reported t →
      done.fault.map Fault.kind = some .exit ∧
      done.fault.bind Fault.message? = some (Text.ofString "-2") ∧
      done.printed = Text.ofString
        ("ERROR!\n\t" ++ ("Unexpected value for " ++ name ++ " macro: " ++ t) ++ "\n")) ∧
    (¬ Literal.Reported t → ∃ e, Literal.read t = .error e ∧ done.fault = some (.literal e) ∧
      (Fault.literal e).kind ∈ [.value, .overflow, .memory, .recursion] ∧ done.printed = []) ∧
    (Literal.IsName t → ¬ Literal.Reported t ∧ done.fault.map Fault.kind = some .value) := by
  intro done
  obtain ⟨report, hmessage, hline⟩ := hunnamed.assembleLine
  have hfault : ∀ f, b.loadNumber t report = .error f → done.fault = some f := by
    intro f hf
    show (s.assembly.assemble s.listing.linesBeforeCode s.listing.code).2 = some f
    rw [hcode]
    exact assemble_snd_of_failing hreached (hline f _ q hf) post
  -- Every other error of reading goes through as it is, that of a name among them.
  have herror : ∀ e, Literal.read t = .error e → e.isExpected = false →
      done.fault = some (.literal e) := by
    intro e hread he
    apply hfault
    rw [loadNumber, Literal.readNumber_of_error hread he]
  refine ⟨fun hreported => ?_, fun hnot => ?_, fun hname => ?_⟩
  · obtain ⟨v, hv⟩ := Literal.readNumber_of_reported hreported hnumber
    have hdone : done.fault = some (.report report) := by
      apply hfault
      rw [loadNumber, hv]
    rw [assemble_printed]
    change _ ∧ _ ∧ Text.ofString ((done.fault.map Fault.printed).getD "") = _
    rw [hdone, ← hmessage]
    exact ⟨rfl, rfl, rfl⟩
  · obtain ⟨e, hread, he⟩ := Literal.not_reported_iff.mp hnot
    have hdone := herror e hread he
    refine ⟨e, hread, hdone, ?_, ?_⟩
    · cases e with
      | malformed => cases he
      | indented => cases he
      | unhashable => cases he
      | _ => decide
    · rw [assemble_printed]
      change Text.ofString ((done.fault.map Fault.printed).getD "") = _
      rw [hdone]
      rfl
  · have hread := Literal.read_name hname
    refine ⟨Literal.not_reported_iff.mpr ⟨_, hread, rfl⟩, ?_⟩
    rw [herror _ hread rfl]
    rfl

/-- A list of numbers is reported where it is returned, after a line that succeeds; a name that is
loaded there is not. -/
theorem assemble_badOperand_returned :
    let lines : List String := ["#defn eggs", "#defvar x", "load x", "return [1] eggs"]
    let reported := (Listing.mk "reported" lines).declared.assemble
    let passed := (Listing.mk "passed" ["Load spam"]).declared.assemble
    reported.fault.map Fault.kind = some .exit ∧
      reported.printed
        = Text.ofString ("ERROR!\n\t" ++ "Unexpected value for RETURN macro: [1]" ++ "\n") ∧
      passed.fault.map Fault.kind = some .value := by
  intro lines reported passed
  let s := (Listing.mk "reported" lines).declared
  let run := assembleLines 2 ["load x"] s.assembly Progress.initial
  have hrun : run.2.2 = none := Option.isNone_iff_eq_none.mp (by decide +kernel)
  have hreached : run = (run.1, run.2.1, none) := Prod.ext rfl (Prod.ext rfl hrun)
  have hconstant : run.1.constantTable.find? (Text.ofString "[1]") = none := by decide +kernel
  have hlocal : run.1.localTable.find? (Text.ofString "[1]") = none := by decide +kernel
  have hspells : Spells "return [1] eggs" "RETURN" ["[1]", "eggs"] :=
    ⟨"return", by decide +kernel, by decide +kernel⟩
  have hreturn : run.1.Unnamed "return [1] eggs" "[1]" "RETURN" :=
    .ret hspells (SymbolTable.find?_eq_none_iff.mp hconstant)
      (SymbolTable.find?_eq_none_iff.mp hlocal)
  obtain ⟨v, hread, hv⟩ : ∃ v, Literal.read "[1]" = .ok v ∧ v.isNumber = false := by
    have hvalue : (Literal.read "[1]").toOption.map Value.isNumber = some false := by
      decide +kernel
    cases hread : Literal.read "[1]" with
    | error e =>
      rw [hread] at hvalue
      cases hvalue
    | ok v =>
      rw [hread] at hvalue
      exact ⟨v, rfl, Option.some.inj hvalue⟩
  have hnumber : ¬ IsNumber "[1]" := by
    rintro ⟨w, hw, hnumber⟩
    rw [hread] at hw
    obtain rfl := Except.ok.inj hw
    rw [hv] at hnumber
    cases hnumber
  have hlisted : Literal.Reported "[1]" := by
    intro e he
    rw [hread] at he
    cases he
  have hcode : s.listing.code = ["load x"] ++ "return [1] eggs" :: [] := by decide +kernel
  obtain ⟨hexit, -, -⟩ := assemble_badOperand hcode hreached hreturn hnumber
  obtain ⟨hkind, -, hprinted⟩ := hexit hlisted
  let s' := (Listing.mk "passed" ["Load spam"]).declared
  have hname : Literal.IsName "spam" := ⟨by decide +kernel, rfl⟩
  have hspells' : Spells "Load spam" "LOAD" ["spam"] :=
    ⟨"Load", by decide +kernel, by decide +kernel⟩
  have hconstant' : s'.assembly.constantTable.find? (Text.ofString "spam") = none := by
    decide +kernel
  have hload : s'.assembly.Unnamed "Load spam" "spam" "LOAD" :=
    .load hspells' (SymbolTable.find?_eq_none_iff.mp hconstant')
      (SymbolTable.find?_eq_none_iff.mp rfl) (SymbolTable.find?_eq_none_iff.mp rfl)
  have hcode' : s'.listing.code = [] ++ "Load spam" :: [] := by decide +kernel
  obtain ⟨-, -, hpassed⟩ := assemble_badOperand hcode' rfl hload hname.not_isNumber
  exact ⟨hkind, hprinted, (hpassed hname).2⟩

/-- A name that is in no table ends the run with an error of its value, and is not reported. -/
theorem name_not_reported :
    let listing : Listing := { name := "named", lines := ["load foo"] }
    let s := (Session.start listing).declare.session
    (Session.start listing).declare.fault = none ∧
      s.assembly.Unnamed "load foo" "foo" "LOAD" ∧ ¬ IsNumber "foo" ∧
      s.assemble.fault.map Fault.kind = some .value ∧ s.assemble.printed = [] := by
  intro listing s
  have hname : Literal.IsName "foo" := ⟨by decide +kernel, rfl⟩
  have hspells : Spells "load foo" "LOAD" ["foo"] :=
    ⟨"load", by decide +kernel, by decide +kernel⟩
  have hconstant : s.assembly.constantTable.find? (Text.ofString "foo") = none := by decide +kernel
  have hunnamed : s.assembly.Unnamed "load foo" "foo" "LOAD" :=
    .load hspells (SymbolTable.find?_eq_none_iff.mp hconstant)
      (SymbolTable.find?_eq_none_iff.mp rfl) (SymbolTable.find?_eq_none_iff.mp rfl)
  exact ⟨rfl, hunnamed, hname.not_isNumber, by decide +kernel, by decide +kernel⟩

end Session

end BytecodeAssembler
