import BytecodeAssembler.Proofs.CodeActions
import BytecodeAssembler.Proofs.ListedNames
import BytecodeAssembler.Proofs.Shorthands

/-!
# Directives action by action

A directive is carried out in actions too, each of which changes the state in one place at most.  To
set a field is one action, and the other directives take two:

* a constant first goes to the pool, unless it is there, and is then looked up for its index;
* a list of names first becomes a field, which is then numbered.

A directive that failed at its second action would leave a trace of its first.  It never does
(`Directive.perform_actions`): what can go wrong with the pool, whatever value stands in its place,
goes wrong before it grows, a pool that has grown holds what it has taken, and names are texts, which
can be numbered.  So directives are carried out as a whole or not at all, and
`Session.declare_stopped` says what that means for the directives of a listing.
-/

namespace BytecodeAssembler

/-! ## Forms -/

namespace Directive

/-- The words that directives open with. -/
def keywords : List String :=
  ["#define", "#const", "#defn", "#defvar"]

/-- What the four forms find on a line.  Each is tried, whatever the others have found. -/
def forms (line : String) : List Directive :=
  let cs := line.toList
  (((afterKeyword? "#define" cs).bind nameAndRest?).map fun r => .field r.1 r.2).toList ++
    (((afterKeyword? "#const" cs).bind nameAndRest?).map fun r => .constant r.1 r.2).toList ++
    (((afterKeyword? "#defn" cs).bind restOfLine?).map .globals).toList ++
    (((afterKeyword? "#defvar" cs).bind restOfLine?).map .locals).toList

/-- A line opens with one keyword at most: none of them begins with another. -/
theorem afterKeyword?_eq_none {keyword other : String} {cs rest : List Char}
    (hk : keyword ∈ keywords) (ho : other ∈ keywords) (hne : keyword ≠ other)
    (h : afterKeyword? keyword cs = some rest) : afterKeyword? other cs = none := by
  have hclash : ∀ k ∈ keywords, ∀ o ∈ keywords, k ≠ o → ¬ k.toList <+: o.toList := by
    decide +kernel
  have hopens : keyword.toList <+: cs := by
    unfold afterKeyword? at h
    split at h
    · rename_i hprefix
      exact List.isPrefixOf_iff_prefix.mp hprefix
    · cases h
  unfold afterKeyword?
  rw [if_neg]
  intro hother
  rcases List.prefix_or_prefix_of_prefix hopens (List.isPrefixOf_iff_prefix.mp hother) with hp | hp
  · exact hclash keyword hk other ho hne hp
  · exact hclash other ho keyword hk hne.symm hp

/-- **The forms exclude each other**: what they find together is the one directive on the line. -/
theorem forms_eq (line : String) : forms line = (ofLine? line).toList := by
  have hnone : ∀ {keyword : String} {rest : List Char} (other : String), keyword ∈ keywords →
      other ∈ keywords → keyword ≠ other → afterKeyword? keyword line.toList = some rest →
      afterKeyword? other line.toList = none := fun _ => afterKeyword?_eq_none
  unfold forms ofLine?
  dsimp only
  cases hdefine : afterKeyword? "#define" line.toList with
  | some rest =>
    have hconst := hnone "#const" (by decide) (by decide) (by decide) hdefine
    have hdefn := hnone "#defn" (by decide) (by decide) (by decide) hdefine
    have hdefvar := hnone "#defvar" (by decide) (by decide) (by decide) hdefine
    simp [hconst, hdefn, hdefvar]
  | none =>
    cases hconst : afterKeyword? "#const" line.toList with
    | some rest =>
      have hdefn := hnone "#defn" (by decide) (by decide) (by decide) hconst
      have hdefvar := hnone "#defvar" (by decide) (by decide) (by decide) hconst
      simp [hdefn, hdefvar]
    | none =>
      cases hdefn : afterKeyword? "#defn" line.toList with
      | some rest =>
        have hdefvar := hnone "#defvar" (by decide) (by decide) (by decide) hdefn
        simp [hdefvar]
      | none => cases afterKeyword? "#defvar" line.toList <;> simp

end Directive

/-! ## Actions -/

namespace Pool

/-- Whether a number is among bytes. -/
def holdsByte (n : Int) (bytes : List UInt8) : Except ActionFault Bool :=
  match indexOfByte? n bytes with
  | .ok place => .ok place.isSome
  | .error f => .error (.fault f)

/-- Whether a value is in the pool, where the kind of the pool allows to ask. -/
def holds (pool value : Value) : Except ActionFault Bool :=
  match pool with
  | .list items | .tuple items => .ok (items.any fun w => w.same value)
  | .str text =>
    match value with
    | .str part => .ok (indexOfPart? part text).isSome
    | _ => .error (.fault .unsearchable)
  | .bytes bytes =>
    match value with
    | .bytes part => .ok (indexOfPart? part bytes).isSome
    | .int n => holdsByte n bytes
    | .bool b => holdsByte (if b then 1 else 0) bytes
    | _ => .error (.fault .unsearchable)
  | .dict entries =>
    if value.isHashable then .ok (entries.any fun e => e.1.same value)
    else .error (.fault .unsearchable)
  | .set elements =>
    match value with
    | .set _ => .ok (elements.any fun w => w.same value)
    | _ =>
      if value.isHashable then .ok (elements.any fun w => w.same value)
      else .error (.fault .unsearchable)
  | _ => .error (.fault .unsearchable)

end Pool

namespace Assembly

/-- Put a constant into the pool, unless it is there. -/
def takeConstant (value : String) : Action Assembly := fun a =>
  match Literal.read value with
  | .error e => .error (.fault (.literal e))
  | .ok v =>
    match Pool.holds a.fields.constants v with
    | .error f => .error f
    | .ok true => .ok a
    | .ok false =>
      match Pool.grow a.fields.constants v with
      | .error f => .error f
      | .ok pool => .ok { a with fields := { a.fields with constants := pool } }

/-- Enter a name for a constant under the index that it has in the pool. -/
def enterConstant (name value : String) : Action Assembly := fun a =>
  match Literal.read value with
  | .error e => .error (.fault (.literal e))
  | .ok v =>
    match Pool.place a.fields.constants v with
    | .error f => .error f
    | .ok i => .ok { a with constantTable := a.constantTable.insert (Text.ofString name) i }

/-- Make a list of names the field of its kind. -/
def takeNames (kind : NameKind) (names : String) : Action Assembly := fun a =>
  match namesOf names with
  | .error f => .error (.fault f)
  | .ok vs => .ok { a with fields := a.fields.set kind.field (.tuple vs) }

/-- Number the names that stand in the field of a kind. -/
def numberNames (kind : NameKind) : Action Assembly := fun a =>
  match (a.fields.get kind.field).items with
  | .error f => .error (.fault f)
  | .ok vs =>
    if vs.all Value.isHashable then
      match kind with
      | .global => .ok { a with globalTable := tableOf vs }
      | .local => .ok { a with localTable := tableOf vs }
    else .error .unhashable

/-- Set a field. -/
def setField (word value : String) : Action Assembly := fun a =>
  (a.declareField word value).mapError .fault

end Assembly

/-- **The actions of a directive**, in order. -/
def Directive.actions : Directive → List (Action Assembly)
  | .field word value => [Assembly.setField word value]
  | .constant name value => [Assembly.takeConstant value, Assembly.enterConstant name value]
  | .globals names => [Assembly.takeNames .global names, Assembly.numberNames .global]
  | .locals names => [Assembly.takeNames .local names, Assembly.numberNames .local]

/-- The actions of all that is found on a line. -/
def Directive.lineActions (line : String) : List (Action Assembly) :=
  (forms line).flatMap actions

/-! ## The pool under two actions -/

namespace Pool

theorem holds_list (items : List Value) (value : Value) :
    holds (.list items) value = .ok (Value.indexIn? value items).isSome := by
  rw [Value.indexIn?, List.findIdx?_isSome]
  rfl

theorem holds_tuple (items : List Value) (value : Value) :
    holds (.tuple items) value = .ok (Value.indexIn? value items).isSome :=
  holds_list items value

/-- What declaring a constant does to the pool, in the order of the actions. -/
inductive Declared (pool value : Value) : Except Fault (Value × Nat) → Prop
  | there {i : Nat} (hholds : holds pool value = .ok true) (hplace : place pool value = .ok i) :
      Declared pool value (.ok (pool, i))
  | taken {pool' : Value} {i : Nat} (hholds : holds pool value = .ok false)
      (hgrow : grow pool value = .ok pool') (hplace : place pool' value = .ok i) :
      Declared pool value (.ok (pool', i))
  | unsearched {f : Fault} (hholds : holds pool value = .error (.fault f)) :
      Declared pool value (.error f)
  | refused {f : Fault} (hholds : holds pool value = .ok false)
      (hgrow : grow pool value = .error (.fault f)) : Declared pool value (.error f)
  | unplaced {f : Fault} (hholds : holds pool value = .ok true)
      (hplace : place pool value = .error (.fault f)) : Declared pool value (.error f)

/-- Where a kind of pool neither grows nor gives indices, a constant is refused in any case. -/
theorem declared_poolFixed {pool value : Value} {b : Bool} (hholds : holds pool value = .ok b)
    (hgrow : grow pool value = .error (.fault .poolFixed))
    (hplace : place pool value = .error (.fault .poolFixed)) :
    Declared pool value (.error .poolFixed) := by
  cases b with
  | true => exact .unplaced hholds hplace
  | false => exact .refused hholds hgrow

/-- Where a kind of pool gives indices and does not grow, it takes only what it holds. -/
theorem declared_found {pool value : Value} (place? : Option Nat) :
    holds pool value = .ok place?.isSome → grow pool value = .error (.fault .poolFixed) →
      place pool value = found place? → Declared pool value
        (match place? with
          | some i => .ok (pool, i)
          | none => .error .poolFixed) := by
  intro hholds hgrow hplace
  cases place? with
  | some i => exact .there hholds hplace
  | none => exact .refused hholds hgrow

theorem declared_byte {bytes : List UInt8} {value : Value} (n : Int)
    (hholds : holds (.bytes bytes) value = holdsByte n bytes)
    (hplace : place (.bytes bytes) value = placeOfByte n bytes) :
    Declared (.bytes bytes) value
      (do
        let place ← indexOfByte? n bytes
        match place with
        | some i => .ok (.bytes bytes, i)
        | none => .error .poolFixed) := by
  unfold holdsByte at hholds
  unfold placeOfByte at hplace
  cases hbyte : indexOfByte? n bytes with
  | error f =>
    rw [hbyte] at hholds
    exact .unsearched hholds
  | ok place? =>
    rw [hbyte] at hholds hplace
    exact declared_found place? hholds rfl hplace

/-- **Declaring a constant is its two actions.**  If it fails, the pool has not grown: it could not
be searched, it does not grow, or it has the constant and no index for it. -/
theorem declared_declare (pool value : Value) : Declared pool value (declare pool value) := by
  cases pool with
  | list items =>
    cases hi : Value.indexIn? value items with
    | some i =>
      simp only [declare, hi]
      exact .there (by simp [holds_list, hi]) (by simp [place, hi, found])
    | none =>
      obtain ⟨i, hdeclare, hplace⟩ := declare_insertElement items value
      have hinsert : Value.insertElement items value = items ++ [value] := by
        simp [Value.insertElement, hi]
      rw [hinsert] at hdeclare hplace
      rw [hdeclare]
      exact .taken (by simp [holds_list, hi]) rfl (by simp [place, hplace, found])
  | tuple items =>
    exact declared_found (Value.indexIn? value items) (holds_tuple items value) rfl rfl
  | str text =>
    cases value with
    | str part => exact declared_found (indexOfPart? part text) rfl rfl rfl
    | _ => exact .unsearched rfl
  | bytes bytes =>
    cases value with
    | bytes part => exact declared_found (indexOfPart? part bytes) rfl rfl rfl
    | int n => exact declared_byte n rfl rfl
    | bool b => exact declared_byte (if b then 1 else 0) rfl rfl
    | _ => exact .unsearched rfl
  | dict entries =>
    cases hhash : value.isHashable with
    | true =>
      simp only [declare, hhash, if_true]
      exact declared_poolFixed (by simp only [holds, hhash, if_true]; rfl) rfl rfl
    | false =>
      simp only [declare, hhash]
      exact .unsearched (by simp [holds, hhash])
  | set elements =>
    cases value with
    | set vs => exact declared_poolFixed rfl rfl rfl
    | list vs => exact .unsearched rfl
    | dict es => exact .unsearched rfl
    | tuple vs =>
      cases hhash : (Value.tuple vs).isHashable with
      | true =>
        simp only [declare, hhash, if_true]
        exact declared_poolFixed (by simp only [holds, hhash, if_true]; rfl) rfl rfl
      | false =>
        simp only [declare, hhash]
        exact .unsearched (by simp [holds, hhash])
    | _ => exact declared_poolFixed rfl rfl rfl
  | _ => exact .unsearched rfl

end Pool

/-! ## Directives as a whole -/

namespace Assembly

/-- What a directive leaves when it is carried out as a whole or not at all. -/
def whole (a : Assembly) : Except Fault Assembly → Assembly × Option ActionFault
  | .ok a' => (a', none)
  | .error f => (a, some (.fault f))

theorem perform_constant (name value : String) (a : Assembly) :
    Action.perform [takeConstant value, enterConstant name value] a
      = a.whole (a.declareConstant name value) := by
  unfold declareConstant
  cases hv : Literal.read value with
  | error e => simp only [Action.perform, takeConstant, hv, whole]
  | ok v =>
    have hdeclared := Pool.declared_declare a.fields.constants v
    dsimp only
    generalize Pool.declare a.fields.constants v = r at hdeclared ⊢
    cases hdeclared with
    | there hholds hplace =>
      simp only [Action.perform, takeConstant, enterConstant, hv, hholds, hplace, whole]
    | taken hholds hgrow hplace =>
      simp only [Action.perform, takeConstant, enterConstant, hv, hholds, hgrow, hplace, whole]
    | unsearched hholds => simp only [Action.perform, takeConstant, hv, hholds, whole]
    | refused hholds hgrow => simp only [Action.perform, takeConstant, hv, hholds, hgrow, whole]
    | unplaced hholds hplace =>
      simp only [Action.perform, takeConstant, enterConstant, hv, hholds, hplace, whole]

/-- Names that were listed can be numbered, since they are texts. -/
theorem all_isHashable_of_namesOf {names : String} {vs : List Value} (h : namesOf names = .ok vs) :
    vs.all Value.isHashable = true := by
  rw [List.all_eq_true]
  intro v hv
  obtain ⟨t, rfl⟩ := texts_of_namesOf h v hv
  rfl

theorem perform_names (kind : NameKind) (names : String) (a : Assembly) :
    Action.perform [takeNames kind names, numberNames kind] a
      = a.whole (a.declare (match kind with
        | .global => .globals names
        | .local => .locals names)) := by
  cases hn : namesOf names with
  | error f =>
    cases kind <;>
      simp only [Action.perform, takeNames, hn, declare, declareGlobals, declareLocals, whole]
  | ok vs =>
    have hhash := all_isHashable_of_namesOf hn
    have hfield : ((a.fields.set kind.field (.tuple vs)).get kind.field).items = .ok vs := by
      rw [Fields.get_set, if_pos rfl]
      rfl
    simp only [Action.perform, takeNames, numberNames, hn, hfield, hhash, if_true]
    cases kind <;> simp only [declare, declareGlobals, declareLocals, hn, whole] <;> rfl

end Assembly

/-- **A directive is carried out as a whole or not at all**, though its actions are carried out one
by one. -/
theorem Directive.perform_actions (directive : Directive) (a : Assembly) :
    Action.perform directive.actions a = a.whole (a.declare directive) := by
  cases directive with
  | field word value =>
    simp only [actions, Action.perform, Assembly.setField, Assembly.declare]
    cases a.declareField word value <;> rfl
  | constant name value => exact Assembly.perform_constant name value a
  | globals names => exact Assembly.perform_names .global names a
  | locals names => exact Assembly.perform_names .local names a

namespace Assembly

theorem perform_lineActions (line : String) (a : Assembly) :
    Action.perform (Directive.lineActions line) a = a.whole (a.declareLine line) := by
  rw [Directive.lineActions, Directive.forms_eq, declareLine]
  cases Directive.ofLine? line with
  | none => rfl
  | some directive => simpa using directive.perform_actions a

/-- **A run of directives, action by action**, leaves what it leaves directive by directive. -/
theorem perform_lines (lines : List String) (a : Assembly) :
    Action.perform (lines.flatMap Directive.lineActions) a
      = ((declareLines lines a).1, (declareLines lines a).2.map .fault) := by
  induction lines generalizing a with
  | nil => rfl
  | cons line rest ih =>
    rw [List.flatMap_cons, Action.perform_append, perform_lineActions, declareLines]
    cases a.declareLine line with
    | error f => rfl
    | ok a' => exact ih a'

/-! ## The failing directive -/

/-- How many directive lines are carried out before the first that fails, if one does. -/
def failingDirective? : List String → Assembly → Option Nat
  | [], _ => none
  | line :: rest, a =>
    match a.declareLine line with
    | .ok a' => (failingDirective? rest a').map (· + 1)
    | .error _ => some 0

theorem failingDirective?_eq_none_iff (lines : List String) (a : Assembly) :
    failingDirective? lines a = none ↔ (declareLines lines a).2 = none := by
  induction lines generalizing a with
  | nil => simp [failingDirective?, declareLines]
  | cons line rest ih =>
    simp only [failingDirective?, declareLines]
    cases a.declareLine line with
    | error f => simp
    | ok a' => simpa using ih a'

/-- The lines before the failing one are carried out.  It leaves what they left, and nothing after
it is looked at. -/
theorem declareLines_of_failingDirective? {lines : List String} {a : Assembly} {i : Nat}
    (h : failingDirective? lines a = some i) :
    ∃ b f, i < lines.length ∧ declareLines (lines.take i) a = (b, none) ∧
      ∀ more, declareLines (lines.take (i + 1) ++ more) a = (b, some f) := by
  induction lines generalizing a i with
  | nil => cases h
  | cons line rest ih =>
    simp only [failingDirective?] at h
    cases hl : a.declareLine line with
    | error f =>
      rw [hl] at h
      obtain rfl := Option.some.inj h
      exact ⟨a, f, by simp, rfl, fun more => by simp [declareLines, hl]⟩
    | ok a' =>
      rw [hl] at h
      obtain ⟨j, hj, rfl⟩ := Option.map_eq_some_iff.mp h
      obtain ⟨b, f, hlt, hbefore, hafter⟩ := ih hj
      refine ⟨b, f, by simpa using hlt, ?_, fun more => ?_⟩
      · rw [List.take_succ_cons, declareLines, hl]
        exact hbefore
      · rw [List.take_succ_cons, List.cons_append, declareLines, hl]
        exact hafter more

end Assembly

namespace Session

open Assembly

/-- The same session over other lines. -/
def onLines (s : Session) (lines : List String) : Session :=
  { s with listing := { s.listing with lines := lines } }

/-- The place among the directives of the one at which declaring fails, if it does. -/
def failingDirective? (s : Session) : Option Nat :=
  Assembly.failingDirective? s.listing.directives s.assembly

/-- Over directives of a listing alone, all lines are directives. -/
theorem directives_onLines_take (s : Session) (i : Nat) (more : List String) :
    (s.onLines (s.listing.directives.take i ++ more)).listing.directives
      = s.listing.directives.take i ++ more.filter Listing.isDirective := by
  show (s.listing.directives.take i ++ more).filter Listing.isDirective = _
  rw [List.filter_append, List.filter_eq_self.mpr]
  intro line hline
  exact (List.mem_filter.mp (List.mem_of_mem_take hline)).2

theorem declare_agrees_of_run {s s' : Session}
    (h : declareLines s'.listing.directives s'.assembly
      = declareLines s.listing.directives s.assembly) : s.declare.Agrees s'.declare := by
  unfold Session.declare
  rw [h]
  exact ⟨rfl, rfl, rfl, rfl, rfl⟩

/-- **Directives are atomic.**  Declaring comes to the same when the directives are carried out
action by action, with all that the actions before a fault have changed; no fault arises but those
of the directives as a whole.  Declaring either succeeds or fails at some directive.  If it fails at
the directive with index `i`, declaring only the `i` directives before it from the same state
succeeds, and leaves the state that the failed run leaves.  What follows the failing directive does
not matter: with any other lines in its place the state, the printed text and the fault are the
same. -/
theorem declare_stopped (s : Session) :
    Action.perform (s.listing.directives.flatMap Directive.lineActions) s.assembly
        = (s.declare.session.assembly, s.declare.fault.map .fault) ∧
      (s.failingDirective? = none ↔ s.declare.fault = none) ∧
      ∀ i, s.failingDirective? = some i → i < s.listing.directives.length ∧
        let short := (s.onLines (s.listing.directives.take i)).declare
        short.fault = none ∧ short.session.assembly = s.declare.session.assembly ∧
        ∀ more,
          s.declare.Agrees (s.onLines (s.listing.directives.take (i + 1) ++ more)).declare := by
  refine ⟨perform_lines _ _, failingDirective?_eq_none_iff _ _, fun i hi => ?_⟩
  obtain ⟨b, f, hlt, hbefore, hafter⟩ := declareLines_of_failingDirective? hi
  have hfailed : declareLines s.listing.directives s.assembly = (b, some f) := by
    have h := hafter (s.listing.directives.drop (i + 1))
    rwa [List.take_append_drop] at h
  have hshort : declareLines (s.onLines (s.listing.directives.take i)).listing.directives s.assembly
      = (b, none) := by
    have hdirectives := directives_onLines_take s i []
    rw [List.append_nil, List.filter_nil, List.append_nil] at hdirectives
    rw [hdirectives]
    exact hbefore
  refine ⟨hlt, ?_, ?_, fun more => ?_⟩
  · exact congrArg Prod.snd hshort
  · exact (congrArg Prod.fst hshort).trans (congrArg Prod.fst hfailed).symm
  · apply declare_agrees_of_run
    rw [directives_onLines_take, hfailed]
    exact hafter _

/-- A tuple in the place of the pool takes the first constant, which it holds, and refuses the
second, also in a session that has been through this before. -/
theorem declare_stopped_fixed :
    let listing : Listing :=
      ⟨"p", ["#define consts (None, 1)", "#const one 1", "#defn f g", "load one", "#const two 2",
        "#defvar x", "load x"]⟩
    let s := (start listing).calls [.declare, .assemble]
    s.failingDirective? = some 3 ∧
      (s.onLines ["#define consts (None, 1)", "#const one 1", "#defn f g"]).declare.session.assembly
        = s.declare.session.assembly ∧
      s.declare.Agrees (s.onLines ["#define consts (None, 1)", "#const one 1", "#defn f g",
        "#const two 2", "#define nowhere"]).declare := by
  intro listing s
  have hfails : s.failingDirective? = some 3 := by decide +kernel
  obtain ⟨-, -, hstopped⟩ := declare_stopped s
  obtain ⟨-, -, hshort, hmore⟩ := hstopped 3 hfails
  exact ⟨hfails, hshort, hmore ["#define nowhere"]⟩

end Session

end BytecodeAssembler
