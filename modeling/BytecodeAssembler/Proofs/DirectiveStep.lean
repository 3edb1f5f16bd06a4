import BytecodeAssembler.Proofs.Equality
import BytecodeAssembler.Session

/-!
# What one directive does

`DirectiveStep` lists what a directive line can do when it succeeds: nothing, set one field, declare
one constant, or list the global or the local names.  From it follow the frame facts that runs of
directives need: they emit no code, and a field that no directive names stays as it is, the three
that have directives of their own apart.

`Listing.defines` tells whether a listing sets a field by its word; the hypotheses of most results
about whole sessions are of the form `listing.defines "consts" = false`.
-/

namespace BytecodeAssembler

/-- The word by which a directive calls a field. -/
def Field.word : Field → String
  | .argumentCount => "argcount"
  | .stackSize => "stacksize"
  | .flags => "flags"
  | .constants => "consts"
  | .globalNames => "names"
  | .localNames => "varnames"
  | .name => "name"
  | .firstLine => "firstlineno"
  | .lineTable => "lnotab"
  | .freeNames => "freevars"
  | .cellNames => "cellvars"

/-- Fields and their words determine each other. -/
theorem Field.ofWord?_eq_some_iff (word : String) (field : Field) :
    Field.ofWord? word = some field ↔ word = field.word := by
  constructor
  · intro h
    unfold Field.ofWord? at h
    split at h <;> cases h <;> rfl
  · rintro rfl
    cases field <;> rfl

/-- Whether a line sets the field that is called by a word. -/
def Directive.definesOn (word line : String) : Bool :=
  match Directive.ofLine? line with
  | some (.field word' _) => word' == word
  | _ => false

/-- Whether a listing sets the field that is called by a word. -/
def Listing.defines (listing : Listing) (word : String) : Bool :=
  listing.directives.any (Directive.definesOn word)

theorem Listing.definesOn_of_defines {listing : Listing} {word line : String}
    (h : listing.defines word = false) (hl : line ∈ listing.directives) :
    Directive.definesOn word line = false := by
  simpa using List.any_eq_false.mp h line hl

namespace Assembly

/-- **What a directive line can do** when it succeeds. -/
inductive DirectiveStep (line : String) (a : Assembly) : Assembly → Prop
  | skip (hd : Directive.ofLine? line = none) : DirectiveStep line a a
  | field {field : Field} {value : String} {v : Value}
      (hd : Directive.ofLine? line = some (.field field.word value))
      (hv : Literal.read value = .ok v) :
      DirectiveStep line a { a with fields := a.fields.set field v }
  | constant {name value : String} {v pool : Value} {index : Nat}
      (hd : Directive.ofLine? line = some (.constant name value)) (hv : Literal.read value = .ok v)
      (hp : Pool.declare a.fields.constants v = .ok (pool, index)) :
      DirectiveStep line a
        { a with
          fields := { a.fields with constants := pool }
          constantTable := a.constantTable.insert (Text.ofString name) index }
  | globals {names : String} {vs : List Value}
      (hd : Directive.ofLine? line = some (.globals names)) (hn : namesOf names = .ok vs) :
      DirectiveStep line a
        { a with fields := { a.fields with globalNames := .tuple vs }, globalTable := tableOf vs }
  | locals {names : String} {vs : List Value}
      (hd : Directive.ofLine? line = some (.locals names)) (hn : namesOf names = .ok vs) :
      DirectiveStep line a
        { a with fields := { a.fields with localNames := .tuple vs }, localTable := tableOf vs }

theorem declareLine_step {line : String} {a a' : Assembly} (h : a.declareLine line = .ok a') :
    DirectiveStep line a a' := by
  unfold declareLine at h
  cases hd : Directive.ofLine? line with
  | none =>
    simp only [hd, Except.ok.injEq] at h
    subst h
    exact .skip hd
  | some directive =>
    simp only [hd, declare] at h
    cases directive with
    | field word value =>
      simp only [declareField] at h
      cases hf : Field.ofWord? word with
      | none => simp [hf] at h
      | some field =>
        cases hv : Literal.read value with
        | error e => simp [hf, hv] at h
        | ok v =>
          simp only [hf, hv, Except.ok.injEq] at h
          subst h
          rw [(Field.ofWord?_eq_some_iff word field).mp hf] at hd
          exact .field hd hv
    | constant name value =>
      simp only [declareConstant] at h
      cases hv : Literal.read value with
      | error e => simp [hv] at h
      | ok v =>
        rcases hp : Pool.declare a.fields.constants v with f | ⟨pool, index⟩
        · simp [hv, hp] at h
        · simp only [hv, hp, Except.ok.injEq] at h
          subst h
          exact .constant hd hv hp
    | globals names =>
      simp only [declareGlobals] at h
      cases hn : namesOf names with
      | error f => simp [hn] at h
      | ok vs =>
        simp only [hn, Except.ok.injEq] at h
        subst h
        exact .globals hd hn
    | locals names =>
      simp only [declareLocals] at h
      cases hn : namesOf names with
      | error f => simp [hn] at h
      | ok vs =>
        simp only [hn, Except.ok.injEq] at h
        subst h
        exact .locals hd hn

/-- What holds before a run of directives, and is kept by every directive that succeeds, holds after
it. -/
theorem declareLines_invariant {P : Assembly → Prop} {lines : List String} {a : Assembly}
    (hstep : ∀ line ∈ lines, ∀ a a', P a → DirectiveStep line a a' → P a') (hinv : P a) :
    P (declareLines lines a).1 := by
  induction lines generalizing a with
  | nil => exact hinv
  | cons line rest ih =>
    simp only [declareLines]
    cases hl : a.declareLine line with
    | error f => exact hinv
    | ok a' =>
      exact ih (fun l hm => hstep l (List.mem_cons_of_mem _ hm))
        (hstep line List.mem_cons_self a a' hinv (declareLine_step hl))

/-- What every directive keeps up with the things found on the lines so far, a run without a fault
keeps up with the things found on all of its lines. -/
theorem declareLines_collect {α : Type} {f : String → Option α} {P : List α → Assembly → Prop}
    {lines : List String} {found : List α} {a a' : Assembly}
    (hstep : ∀ line ∈ lines, ∀ found a a', P found a → DirectiveStep line a a' →
      P (found ++ (f line).toList) a')
    (h : declareLines lines a = (a', none)) (hstart : P found a) :
    P (found ++ lines.filterMap f) a' := by
  induction lines generalizing a found with
  | nil =>
    obtain ⟨rfl, -⟩ := Prod.mk.inj h
    simpa using hstart
  | cons line rest ih =>
    rw [declareLines] at h
    cases hl : a.declareLine line with
    | error g => simp [hl] at h
    | ok b =>
      rw [hl] at h
      have hb := hstep line List.mem_cons_self found a b hstart (declareLine_step hl)
      have hrest := ih (fun l hm => hstep l (List.mem_cons_of_mem _ hm)) h hb
      cases hf : f line with
      | none => simpa [hf, List.filterMap_cons] using hrest
      | some x => simpa [hf, List.filterMap_cons] using hrest

/-- Directives emit no code. -/
theorem declareLines_code (lines : List String) (a : Assembly) :
    (declareLines lines a).1.code = a.code := by
  apply declareLines_invariant (P := fun b => b.code = a.code) _ rfl
  intro line _ b b' hb hs
  cases hs <;> exact hb

/-- A field that no directive sets stays as it is, unless it has a directive of its own. -/
theorem declareLines_field (field : Field) {lines : List String} (a : Assembly)
    (hown : field ≠ .constants ∧ field ≠ .globalNames ∧ field ≠ .localNames)
    (hno : ∀ line ∈ lines, Directive.definesOn field.word line = false) :
    (declareLines lines a).1.fields.get field = a.fields.get field := by
  apply declareLines_invariant (P := fun b => b.fields.get field = a.fields.get field) _ rfl
  intro line hline b b' hb hs
  cases hs with
  | skip => exact hb
  | @field field' value v hd hv =>
    rw [Fields.get_set, if_neg, hb]
    rintro rfl
    simpa [Directive.definesOn, hd] using hno line hline
  | @constant name value v pool index hd hv hp =>
    show (b.fields.set .constants pool).get field = _
    rw [Fields.get_set, if_neg hown.1, hb]
  | @globals names vs hd hn =>
    show (b.fields.set .globalNames (.tuple vs)).get field = _
    rw [Fields.get_set, if_neg hown.2.1, hb]
  | @locals names vs hd hn =>
    show (b.fields.set .localNames (.tuple vs)).get field = _
    rw [Fields.get_set, if_neg hown.2.2, hb]

/-- A pool that is a list grows at its end, where no directive sets it as a field. -/
theorem declareLines_constants {lines : List String} {a : Assembly} {items : List Value}
    (hno : ∀ line ∈ lines, Directive.definesOn "consts" line = false)
    (ha : a.fields.constants = .list items) :
    ∃ more, (declareLines lines a).1.fields.constants = .list (items ++ more) := by
  apply declareLines_invariant (P := fun b => ∃ more, b.fields.constants = .list (items ++ more))
  · rintro line hline b b' ⟨more, hb⟩ hs
    cases hs with
    | skip => exact ⟨more, hb⟩
    | @field field value v hd hv =>
      refine ⟨more, ?_⟩
      show (b.fields.set field v).get .constants = _
      rw [Fields.get_set, if_neg]
      · exact hb
      · rintro rfl
        simpa [Directive.definesOn, hd, Field.word] using hno line hline
    | @constant name value v pool index hd hv hp =>
      obtain ⟨more', i, -, hgrown, -⟩ := Pool.declare_list (items ++ more) v
      rw [hb, hgrown] at hp
      obtain ⟨rfl, -⟩ := Prod.mk.inj (Except.ok.inj hp)
      exact ⟨more ++ more', by rw [← List.append_assoc]⟩
    | globals hd hn => exact ⟨more, hb⟩
    | locals hd hn => exact ⟨more, hb⟩
  · exact ⟨[], by rw [ha, List.append_nil]⟩

end Assembly

end BytecodeAssembler
