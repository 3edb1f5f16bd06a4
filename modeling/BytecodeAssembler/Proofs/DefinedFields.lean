import BytecodeAssembler.Proofs.Layout
import BytecodeAssembler.Proofs.LineTable
import BytecodeAssembler.Proofs.OutputImage
import BytecodeAssembler.Proofs.Regrouping

/-!
# Definitions that count

A directive may set any field, and the last one that sets a field counts (`declareLines_definition`).
Of the fields, code changes only the pool, the line table, the first line and the stack size.  So all
others that a code object takes as they are have the values of their last definitions, whatever the
code is.

Two definitions never count.  Assembling enters the stack size at its end, and the first instruction
fixes the first line.  Two listings that differ only in the literals of such definitions go through
states that differ only in these fields (`Assembly.SameBut`), until assembling has made them equal
again; and their code objects are the same.
-/

namespace BytecodeAssembler

/-! ## The last definition -/

/-- A value after some things were written to it in turn: the last of them gives it, and where there
are none it stays. -/
def LastGives {α β : Type} (Gives : β → α → Prop) (written : List β) (before after : α) : Prop :=
  match written.getLast? with
  | some x => Gives x after
  | none => after = before

theorem lastGives_concat_iff {α β : Type} {Gives : β → α → Prop} {written : List β} {x : β}
    {before after : α} : LastGives Gives (written ++ [x]) before after ↔ Gives x after := by
  simp [LastGives]

/-- What directives write to a place in turn, one at a time, is there at the end of a run. -/
theorem Assembly.declareLines_lastGives {α β : Type} {Gives : β → α → Prop} {f : String → Option β}
    (place : Assembly → α) {lines : List String} {a b : Assembly}
    (hwrite : ∀ {line x a a'}, f line = some x → DirectiveStep line a a' → Gives x (place a'))
    (hkeep : ∀ {line a a'}, f line = none → DirectiveStep line a a' → place a' = place a)
    (h : declareLines lines a = (b, none)) :
    LastGives Gives (lines.filterMap f) (place a) (place b) := by
  have hstart : LastGives Gives [] (place a) (place a) := rfl
  apply declareLines_collect (P := fun written c => LastGives Gives written (place a) (place c)) _ h
    hstart
  intro line _ written c c' hc hs
  cases hf : f line with
  | some x => exact lastGives_concat_iff.mpr (hwrite hf hs)
  | none =>
    rw [hkeep hf hs]
    simpa using hc

namespace Directive

/-- The directive on a line, if it is about a field. -/
def about? (field : Field) (line : String) : Option Directive :=
  (ofLine? line).filter fun directive => directive.group == field.word

theorem about?_eq_some_iff {field : Field} {line : String} {directive : Directive} :
    about? field line = some directive
      ↔ ofLine? line = some directive ∧ directive.group = field.word := by
  simp [about?, Option.filter_eq_some_iff]

theorem inGroup_of_about?_eq_none {field : Field} {line : String} (h : about? field line = none) :
    inGroup field.word line = false := by
  cases hd : ofLine? line with
  | none => exact inGroup_of_none hd _
  | some directive => simpa [inGroup_of_some hd, about?, hd] using h

/-- The value that a directive gives to the field that it is about.  What a constant makes of the pool
depends on what is there, so it gives none. -/
def Gives : Directive → Value → Prop
  | .field _ text, v => Literal.read text = .ok v
  | .constant _ _, _ => False
  | .globals names, v => ∃ vs, Assembly.namesOf names = .ok vs ∧ v = .tuple vs
  | .locals names, v => ∃ vs, Assembly.namesOf names = .ok vs ∧ v = .tuple vs

/-- The literal to which a line sets the field that is called by a word. -/
def definition? (word line : String) : Option String :=
  match ofLine? line with
  | some (.field word' text) => if word' = word then some text else none
  | _ => none

/-- Only definitions are about a field that has no directive of its own. -/
theorem about?_eq_map {field : Field}
    (hown : field ≠ .constants ∧ field ≠ .globalNames ∧ field ≠ .localNames) (line : String) :
    about? field line = (definition? field.word line).map (Directive.field field.word) := by
  obtain ⟨hconstants, hglobals, hlocals⟩ := hown
  have hother : ∀ {other : Field}, field ≠ other → other.word ≠ field.word :=
    fun hne hword => hne (Field.eq_of_word_eq hword.symm)
  unfold about? definition?
  cases ofLine? line with
  | none => rfl
  | some directive =>
    cases directive with
    | field word text =>
      by_cases hword : word = field.word
      · subst hword
        simp [Option.filter, group]
      · simp [Option.filter, group, hword]
    | constant name text => simp [Option.filter, group, hother hconstants]
    | globals names => simp [Option.filter, group, hother hglobals]
    | locals names => simp [Option.filter, group, hother hlocals]

end Directive

/-- **The last directive about a field counts**, unless it is the pool of constants. -/
theorem Assembly.declareLines_about {field : Field} (hfield : field ≠ .constants)
    {lines : List String} {a b : Assembly} (h : declareLines lines a = (b, none)) :
    LastGives Directive.Gives (lines.filterMap (Directive.about? field)) (a.fields.get field)
      (b.fields.get field) := by
  apply declareLines_lastGives (fun c => c.fields.get field) _ _ h
  · intro line directive c c' hf hs
    obtain ⟨hline, hgroup⟩ := Directive.about?_eq_some_iff.mp hf
    cases hs with
    | skip hd => simp [hline] at hd
    | @field field' text v hd hv =>
      obtain rfl := Option.some.inj (hline.symm.trans hd)
      obtain rfl := Field.eq_of_word_eq hgroup
      show _ = Except.ok ((c.fields.set field' v).get field')
      rw [Fields.get_set, if_pos rfl, hv]
    | constant hd hv hp =>
      obtain rfl := Option.some.inj (hline.symm.trans hd)
      have hpool : Field.constants = field := Field.eq_of_word_eq hgroup
      exact absurd hpool.symm hfield
    | @globals names vs hd hn =>
      obtain rfl := Option.some.inj (hline.symm.trans hd)
      obtain rfl : Field.globalNames = field := Field.eq_of_word_eq hgroup
      exact ⟨vs, hn, rfl⟩
    | @locals names vs hd hn =>
      obtain rfl := Option.some.inj (hline.symm.trans hd)
      obtain rfl : Field.localNames = field := Field.eq_of_word_eq hgroup
      exact ⟨vs, hn, rfl⟩
  · intro line c c' hf hs
    have hsame := hs.frame (Directive.inGroup_of_about?_eq_none hf)
    exact congrArg Prod.fst (hsame field rfl)

/-- **The last definition of a field counts**, where the field has no directive of its own. -/
theorem Assembly.declareLines_definition {field : Field}
    (hown : field ≠ .constants ∧ field ≠ .globalNames ∧ field ≠ .localNames) {lines : List String}
    {a b : Assembly} (h : declareLines lines a = (b, none)) :
    LastGives (fun text v => Literal.read text = .ok v)
      (lines.filterMap (Directive.definition? field.word)) (a.fields.get field)
      (b.fields.get field) := by
  have hlast := declareLines_about hown.1 h
  have hlines : lines.filterMap (Directive.about? field)
      = (lines.filterMap (Directive.definition? field.word)).map (.field field.word) := by
    rw [List.map_filterMap]
    exact List.filterMap_congr fun line _ => Directive.about?_eq_map hown line
  unfold LastGives at hlast ⊢
  rw [hlines, List.getLast?_map] at hlast
  cases hd : (lines.filterMap (Directive.definition? field.word)).getLast? with
  | none =>
    rw [hd] at hlast
    exact hlast
  | some text =>
    rw [hd] at hlast
    exact hlast

/-- The value that the last definition in a listing gives to a field; without one it is that of the
start. -/
def Listing.Gives (listing : Listing) (field : Field) (v : Value) : Prop :=
  LastGives (fun text v => Literal.read text = .ok v)
    (listing.directives.filterMap (Directive.definition? field.word)) (Fields.initial.get field) v

/-! ## From the fields to the code object -/

/-- What a code object takes from an assembly as it is, and how many locals it counts. -/
theorem CodeObject.build_fields {fileName : String} {a : Assembly} {order : SetOrder}
    {object : CodeObject} (h : CodeObject.build fileName a order = .ok object) :
    object.argumentCount = a.fields.argumentCount ∧ object.flags = a.fields.flags ∧
      object.name = a.fields.name ∧ object.freeNames = a.fields.freeNames ∧
      object.cellNames = a.fields.cellNames ∧ object.localCount = object.localNames.length := by
  unfold CodeObject.build at h
  obtain ⟨localNames, -, h⟩ := Literal.bind_eq_ok h
  obtain ⟨code, -, h⟩ := Literal.bind_eq_ok h
  obtain ⟨constants, -, h⟩ := Literal.bind_eq_ok h
  obtain ⟨globalNames, -, h⟩ := Literal.bind_eq_ok h
  obtain ⟨entries, -, h⟩ := Literal.bind_eq_ok h
  obtain ⟨lineTable, -, h⟩ := Literal.bind_eq_ok h
  obtain rfl := Except.ok.inj h
  exact ⟨rfl, rfl, rfl, rfl, rfl, rfl⟩

/-- The fields that assembling never changes. -/
theorem Assembly.assemble_field (field : Field) {before : Nat} {code : List String} {a : Assembly}
    (hfield : field ≠ .constants ∧ field ≠ .lineTable ∧ field ≠ .firstLine)
    (hsize : field ≠ .stackSize) :
    (a.assemble before code).1.fields.get field = a.fields.get field := by
  rcases hrun : assembleLines before code a Progress.initial with ⟨b, p, f⟩
  have hkept := assembleLines_field field hrun hfield
  cases f with
  | none =>
    rw [assemble_of_ok hrun]
    show (b.fields.set .stackSize _).get field = _
    rw [Fields.get_set, if_neg hsize, hkept]
  | some f => rw [assemble_of_fault hrun, hkept]

/-! ## Definitions that are overridden -/

/-- Two lines that set the same field, the second one to a literal that can be read. -/
def Directive.Redefines (field : Field) (line line' : String) : Prop :=
  (∃ text, Directive.ofLine? line = some (.field field.word text)) ∧
    ∃ text v, Directive.ofLine? line' = some (.field field.word text) ∧ Literal.read text = .ok v

/-- The fields that assembling the code of a listing sets, whatever they were. -/
def Listing.overrides (listing : Listing) : Field → Bool
  | .stackSize => true
  | .firstLine => listing.lines.any Listing.isInstruction
  | _ => false

/-- A line that is left as it is, or sets one of some fields to another literal. -/
def Directive.MayRedefine (overridden : Field → Bool) (line line' : String) : Prop :=
  line' = line ∨ ∃ field, overridden field = true ∧ Directive.Redefines field line line'

/-- The second listing is the first with other literals in some definitions of fields that its code
overrides. -/
def Listing.Redefined (listing listing' : Listing) : Prop :=
  listing'.name = listing.name ∧
    List.Forall₂ (Directive.MayRedefine listing.overrides) listing.lines listing'.lines

theorem Directive.isDirective_of_afterKeyword? {keyword line : String} {rest : List Char}
    (hkeyword : Listing.isDirective keyword = true)
    (h : Directive.afterKeyword? keyword line.toList = some rest) :
    Listing.isDirective line = true := by
  unfold Directive.afterKeyword? at h
  split at h
  case isFalse => cases h
  case isTrue hprefix =>
    obtain ⟨more, hmore⟩ := List.isPrefixOf_iff_prefix.mp hprefix
    unfold Listing.isDirective at hkeyword ⊢
    split at hkeyword
    · next c cs heq =>
      rw [heq] at hmore
      rw [← hmore]
      rfl
    · cases hkeyword

/-- A line that holds a directive is a directive line. -/
theorem Directive.isDirective_of_ofLine? {line : String} {directive : Directive}
    (h : Directive.ofLine? line = some directive) : Listing.isDirective line = true := by
  unfold Directive.ofLine? at h
  cases hdefine : afterKeyword? "#define" line.toList with
  | some rest => exact isDirective_of_afterKeyword? (by decide +kernel) hdefine
  | none =>
    cases hconst : afterKeyword? "#const" line.toList with
    | some rest => exact isDirective_of_afterKeyword? (by decide +kernel) hconst
    | none =>
      cases hdefn : afterKeyword? "#defn" line.toList with
      | some rest => exact isDirective_of_afterKeyword? (by decide +kernel) hdefn
      | none =>
        cases hdefvar : afterKeyword? "#defvar" line.toList with
        | some rest => exact isDirective_of_afterKeyword? (by decide +kernel) hdefvar
        | none => simp [hdefine, hconst, hdefn, hdefvar] at h

namespace Directive.MayRedefine

variable {overridden : Field → Bool}

theorem isDirective_eq {line line' : String} (h : MayRedefine overridden line line') :
    Listing.isDirective line' = Listing.isDirective line := by
  rcases h with rfl | ⟨field, -, ⟨text, hline⟩, text', v, hline', -⟩
  · rfl
  · rw [isDirective_of_ofLine? hline, isDirective_of_ofLine? hline']

/-- Lines of the code are left as they are. -/
theorem eq_of_code {line line' : String} (h : MayRedefine overridden line line')
    (hcode : Listing.isDirective line = false) : line' = line := by
  rcases h with rfl | ⟨field, -, ⟨text, hline⟩, -⟩
  · rfl
  · rw [isDirective_of_ofLine? hline] at hcode
    cases hcode

variable {lines lines' : List String}

theorem directives (h : List.Forall₂ (MayRedefine overridden) lines lines') :
    List.Forall₂ (MayRedefine overridden) (lines.filter Listing.isDirective)
      (lines'.filter Listing.isDirective) := by
  induction h with
  | nil => exact .nil
  | @cons line line' rest rest' hline hrest ih =>
    rw [List.filter_cons, List.filter_cons, hline.isDirective_eq]
    split
    · exact .cons hline ih
    · exact ih

theorem codeOf (h : List.Forall₂ (MayRedefine overridden) lines lines') :
    Listing.codeOf lines' = Listing.codeOf lines := by
  induction h with
  | nil => rfl
  | @cons line line' rest rest' hline hrest ih =>
    simp only [Listing.codeOf, List.filter_cons, hline.isDirective_eq] at ih ⊢
    cases hcode : Listing.isDirective line with
    | true => simpa using ih
    | false => simpa [hline.eq_of_code hcode] using ih

theorem linesBefore (h : List.Forall₂ (MayRedefine overridden) lines lines') :
    (lines'.takeWhile Listing.isDirective).length
      = (lines.takeWhile Listing.isDirective).length := by
  induction h with
  | nil => rfl
  | @cons line line' rest rest' hline hrest ih =>
    rw [List.takeWhile_cons, List.takeWhile_cons, hline.isDirective_eq]
    split
    · rw [List.length_cons, List.length_cons, ih]
    · rfl

end Directive.MayRedefine

namespace Assembly

open Directive

/-- The same code, and the same parts for all fields but some. -/
structure SameBut (overridden : Field → Bool) (a b : Assembly) : Prop where
  code : b.code = a.code
  parts : ∀ field, overridden field = false → b.part field = a.part field

/-- Only the two fields that assembling can set are among the given ones. -/
def OnlySizeAndFirst (overridden : Field → Bool) : Prop :=
  ∀ field, field ≠ .stackSize → field ≠ .firstLine → overridden field = false

section SameBut

variable {overridden : Field → Bool}

theorem SameBut.set {a b : Assembly} (h : SameBut overridden a b) {field : Field} {v v' : Value}
    (hv : overridden field = false → v' = v) :
    SameBut overridden { a with fields := a.fields.set field v }
      { b with fields := b.fields.set field v' } where
  code := h.code
  parts := by
    intro other hother
    have hpart := h.parts other hother
    have hbeside : b.beside other = a.beside other := congrArg Prod.snd hpart
    refine Prod.ext ?_ hbeside
    show (b.fields.set field v').get other = (a.fields.set field v).get other
    rw [Fields.get_set, Fields.get_set]
    split
    · next heq => exact hv (heq ▸ hother)
    · exact congrArg Prod.fst hpart

/-- **One directive**, and one that may redefine an overridden field in its place. -/
theorem SameBut.directive {line line' : String} {a a' b : Assembly} (h : SameBut overridden a b)
    (honly : OnlySizeAndFirst overridden) (hline : MayRedefine overridden line line')
    (hs : DirectiveStep line a a') :
    ∃ b', DirectiveStep line' b b' ∧ SameBut overridden a' b' := by
  rcases hline with rfl | ⟨field, hfield, ⟨text, hd⟩, text', v', hd', hv'⟩
  · cases hs with
    | skip hd => exact ⟨b, .skip hd, h⟩
    | field hd hv => exact ⟨_, .field hd hv, h.set fun _ => rfl⟩
    | @constant name text v pool index hd hv hp =>
      have hpart := h.parts .constants (honly _ (by decide) (by decide))
      have hpool : b.fields.constants = a.fields.constants := congrArg Prod.fst hpart
      have htable : b.constantTable = a.constantTable := Option.some.inj (congrArg Prod.snd hpart)
      refine ⟨_, .constant hd hv (hpool ▸ hp), h.code, fun other hother => ?_⟩
      cases other with
      | constants =>
        show (pool, some (b.constantTable.insert _ index))
          = (pool, some (a.constantTable.insert _ index))
        rw [htable]
      | _ => exact h.parts _ hother
    | globals hd hn =>
      refine ⟨_, .globals hd hn, h.code, fun other hother => ?_⟩
      cases other with
      | globalNames => rfl
      | _ => exact h.parts _ hother
    | locals hd hn =>
      refine ⟨_, .locals hd hn, h.code, fun other hother => ?_⟩
      cases other with
      | localNames => rfl
      | _ => exact h.parts _ hother
  · -- The line sets the field in both listings, and what to does not matter.
    cases hs with
    | @field field' text'' v hd'' hv =>
      simp only [hd, Option.some.injEq, Directive.field.injEq] at hd''
      obtain rfl := Field.eq_of_word_eq hd''.1
      refine ⟨_, .field hd' hv', h.set fun hkept => ?_⟩
      rw [hfield] at hkept
      cases hkept
    | skip hd'' => simp [hd] at hd''
    | constant hd'' => simp [hd] at hd''
    | globals hd'' => simp [hd] at hd''
    | locals hd'' => simp [hd] at hd''

/-- **A run of directives.** -/
theorem SameBut.directives {lines lines' : List String} {a b c : Assembly}
    (h : SameBut overridden a b) (honly : OnlySizeAndFirst overridden)
    (hlines : List.Forall₂ (MayRedefine overridden) lines lines')
    (hrun : declareLines lines a = (c, none)) :
    ∃ d, declareLines lines' b = (d, none) ∧ SameBut overridden c d := by
  induction hlines generalizing a b with
  | nil =>
    obtain ⟨rfl, -⟩ := Prod.mk.inj hrun
    exact ⟨b, rfl, h⟩
  | @cons line line' rest rest' hline hrest ih =>
    obtain ⟨a', hs, hrun⟩ := declareLines_cons_ok_iff.mp hrun
    obtain ⟨b', hs', h'⟩ := h.directive honly hline hs
    obtain ⟨d, hrun', hd⟩ := ih h' hrun
    exact ⟨d, declareLines_cons_ok_iff.mpr ⟨b', hs', hrun'⟩, hd⟩

end SameBut

/-! ## Assembling overrides -/

/-- The same state with another first line. -/
def withFirst (a : Assembly) (first : Value) : Assembly :=
  { a with fields := { a.fields with firstLine := first } }

/-- Code neither reads nor changes the stack size on its way. -/
theorem LineStep.withSize {before : Nat} {line : String} {a a' : Assembly} {p p' : Progress}
    (hs : LineStep before line a p (a', p', none)) (size : Value) :
    (a.withSize size).assembleLine before line p = (a'.withSize size, p', none) := by
  cases hs with
  | gap hi => simp only [assembleLine, hi]
  | @emits word operands mnemonic items b entries hi hm hr hl =>
    have hresolve : (a.withSize size).resolve mnemonic operands = .ok (items, b.withSize size) := by
      have hmap := resolve_mapFields (fun fields => { fields with stackSize := size })
        ⟨fun _ => rfl, fun _ _ => rfl⟩ a mnemonic operands
      rw [hr] at hmap
      exact hmap
    exact assembleLine_of_ok hi hm hresolve hl before p

theorem assembleLines_withSize {before : Nat} {lines : List String} {a b : Assembly}
    {p q : Progress} (h : assembleLines before lines a p = (b, q, none)) (size : Value) :
    assembleLines before lines (a.withSize size) p = (b.withSize size, q, none) := by
  induction lines generalizing a p with
  | nil =>
    simp only [assembleLines, Prod.mk.injEq] at h
    obtain ⟨rfl, rfl, -⟩ := h
    rfl
  | cons line rest ih =>
    have hline := assembleLine_step before line a p
    rcases hr : a.assembleLine before line p with ⟨a', p', g⟩
    rw [hr] at hline
    simp only [assembleLines, hr] at h
    cases g with
    | some g => simp at h
    | none =>
      simp only [assembleLines, hline.withSize size]
      exact ih h

/-- The first instruction sets the first line, and nothing before it reads that. -/
theorem assembleLines_withFirst {before : Nat} {lines : List String} (a : Assembly) {p : Progress}
    (hp : p.started = false) (hany : lines.any holdsInstruction = true) (first : Value) :
    assembleLines before lines (a.withFirst first) p = assembleLines before lines a p := by
  induction lines generalizing p with
  | nil => cases hany
  | cons line rest ih =>
    cases hi : instruction? line with
    | none =>
      simp only [assembleLines, assembleLine, hi]
      refine ih hp ?_
      simpa [holdsInstruction, hi] using hany
    | some w =>
      have hline : (a.withFirst first).assembleLine before line p
          = a.assembleLine before line p := by
        simp only [assembleLine, hi, placeInstruction, hp]
        rfl
      simp only [assembleLines, hline]

/-- States that are the same but for overridden fields differ in these two at most. -/
theorem SameBut.eq_changed {overridden : Field → Bool} {a b : Assembly}
    (h : SameBut overridden a b) (honly : OnlySizeAndFirst overridden) :
    b = (a.withSize b.fields.stackSize).withFirst b.fields.firstLine := by
  refine eq_of_parts h.code fun field => ?_
  cases field with
  | stackSize => rfl
  | firstLine => rfl
  | _ => exact h.parts _ (honly _ (by decide) (by decide))

/-- **Assembling overrides.**  It leaves the same state from two that differ only in overridden
fields, where an instruction is there to set the first line if that is among them. -/
theorem SameBut.assemble {overridden : Field → Bool} {before : Nat} {code : List String}
    {a b : Assembly} (h : SameBut overridden a b) (honly : OnlySizeAndFirst overridden)
    (hfirst : overridden .firstLine = true → code.any holdsInstruction = true)
    (hok : (a.assemble before code).2 = none) :
    b.assemble before code = a.assemble before code := by
  have hrun : assembleLines before code b Progress.initial
      = assembleLines before code (a.withSize b.fields.stackSize) Progress.initial := by
    rw [h.eq_changed honly]
    cases hi : overridden .firstLine with
    | true => exact assembleLines_withFirst _ rfl (hfirst hi) _
    | false =>
      have hsame : b.fields.firstLine = a.fields.firstLine :=
        congrArg Prod.fst (h.parts .firstLine hi)
      rw [hsame]
      rfl
  rw [assemble_snd] at hok
  rcases hdone : assembleLines before code a Progress.initial with ⟨c, q, f⟩
  rw [hdone] at hok
  obtain rfl : f = none := hok
  rw [assembleLines_withSize hdone] at hrun
  simp only [Assembly.assemble, hrun, hdone]
  rfl

end Assembly

namespace Session

open Assembly

/-- A session whose assembly gives a code object builds it. -/
theorem build_of_ok {s : Session} {order : SetOrder} {object : CodeObject}
    (h : CodeObject.build s.listing.name s.assembly order = .ok object) :
    (s.build order).fault = none ∧ (s.build order).session.object = some object := by
  simp [build, h, ended]

/-- Code overrides no fields but the two. -/
theorem onlySizeAndFirst_overrides (listing : Listing) : OnlySizeAndFirst listing.overrides := by
  intro field hsize hfirst
  cases field with
  | stackSize => exact absurd rfl hsize
  | firstLine => exact absurd rfl hfirst
  | _ => rfl

/-- The code of a listing has an instruction where the listing has. -/
theorem any_code_of_overrides {listing : Listing} (h : listing.overrides .firstLine = true) :
    listing.code.any holdsInstruction = true := by
  obtain ⟨line, hmem, hline⟩ := List.any_eq_true.mp h
  simp only [Listing.isInstruction, Bool.and_eq_true] at hline
  rw [Listing.code_eq_codeOf]
  exact List.any_eq_true.mpr ⟨line, List.mem_filter.mpr ⟨hmem, hline.1⟩, hline.2⟩

/-- A redefined listing is declared and assembled to the same state. -/
theorem assemble_redefined {listing listing' : Listing} (h : listing.Redefined listing')
    (hdeclare : (start listing).declare.fault = none)
    (hassemble : (start listing).declare.session.assemble.fault = none) :
    (start listing').declare.fault = none ∧
      (start listing').declare.session.assemble.fault = none ∧
      (start listing').declare.session.assemble.session.assembly
        = (start listing).declare.session.assemble.session.assembly := by
  have honly := onlySizeAndFirst_overrides listing
  obtain ⟨b, hdeclare', hsame⟩ := SameBut.directives ⟨rfl, fun _ _ => rfl⟩ honly
    (Directive.MayRedefine.directives h.2)
    (show declareLines listing.directives Assembly.initial = (_, none) from Prod.ext rfl hdeclare)
  have hcode : listing'.code = listing.code := by
    rw [Listing.code_eq_codeOf, Listing.code_eq_codeOf]
    exact Directive.MayRedefine.codeOf h.2
  have hbefore : listing'.linesBeforeCode = listing.linesBeforeCode := by
    rw [Listing.linesBeforeCode_eq, Listing.linesBeforeCode_eq]
    exact Directive.MayRedefine.linesBefore h.2
  change declareLines listing'.directives Assembly.initial = (b, none) at hdeclare'
  have hstate : (start listing').declare.session.assembly = b := congrArg Prod.fst hdeclare'
  have hassemble' := hsame.assemble honly any_code_of_overrides hassemble
  have hrun : (start listing').declare.session.assembly.assemble listing'.linesBeforeCode
      listing'.code = (start listing).declare.session.assembly.assemble listing.linesBeforeCode
        listing.code := by
    rw [hstate, hcode, hbefore]
    exact hassemble'
  exact ⟨congrArg Prod.snd hdeclare', (congrArg Prod.snd hrun).trans hassemble,
    congrArg Prod.fst hrun⟩

/-- **Which definitions reach the code object.**  Let a listing be declared, assembled and built on a
fresh session without a fault.

* The number of arguments, the flags, the name and the free and cell names of the object are what
  their last definitions give, or the values of the start.
* The number of locals is that of the local names.
* Definitions of fields that the code overrides, the stack size and, if there is an instruction, the
  first line, may have any other literals: all steps succeed as well, and the object is the same. -/
theorem build_of_definitions (listing : Listing) (order : SetOrder)
    (hready : (start listing).Ready order) :
    ∃ object,
      ((start listing).declare.session.assemble.session.build order).session.object
        = some object ∧
      (listing.Gives .argumentCount object.argumentCount ∧ listing.Gives .flags object.flags ∧
        listing.Gives .name object.name ∧ listing.Gives .freeNames object.freeNames ∧
        listing.Gives .cellNames object.cellNames) ∧
      object.localCount = object.localNames.length ∧
      ∀ listing', listing.Redefined listing' → (start listing').Ready order ∧
        ((start listing').declare.session.assemble.session.build order).session.object
          = some object := by
  obtain ⟨object, hobject, -⟩ := hready.exists_object
  obtain ⟨hcount, hflags, hname, hfree, hcell, hlocals⟩ := CodeObject.build_fields hobject
  -- What a field is given by the directives is still there once the code is assembled.
  have hgives : ∀ field : Field,
      (field ≠ .constants ∧ field ≠ .globalNames ∧ field ≠ .localNames) →
      (field ≠ .constants ∧ field ≠ .lineTable ∧ field ≠ .firstLine) → field ≠ .stackSize →
      listing.Gives field
        ((start listing).declare.session.assemble.session.assembly.fields.get field) := by
    intro field hown hcode hsize
    have hfield : (start listing).declare.session.assemble.session.assembly.fields.get field
        = (start listing).declare.session.assembly.fields.get field :=
      assemble_field field hcode hsize
    rw [hfield]
    exact declareLines_definition hown (Prod.ext rfl hready.declared)
  refine ⟨object, (build_of_ok hobject).2, ⟨?_, ?_, ?_, ?_, ?_⟩, hlocals, fun listing' h => ?_⟩
  · rw [hcount]
    exact hgives .argumentCount (by decide) (by decide) (by decide)
  · rw [hflags]
    exact hgives .flags (by decide) (by decide) (by decide)
  · rw [hname]
    exact hgives .name (by decide) (by decide) (by decide)
  · rw [hfree]
    exact hgives .freeNames (by decide) (by decide) (by decide)
  · rw [hcell]
    exact hgives .cellNames (by decide) (by decide) (by decide)
  · obtain ⟨hdeclare', hassemble', hassembly⟩ :=
      assemble_redefined h hready.declared hready.assembled
    have hobject' : CodeObject.build listing'.name
        (start listing').declare.session.assemble.session.assembly order = .ok object := by
      rw [h.1, hassembly]
      exact hobject
    obtain ⟨hbuild', hsome⟩ := build_of_ok (s := (start listing').declare.session.assemble.session)
      hobject'
    exact ⟨⟨hdeclare', hassemble', hbuild'⟩, hsome⟩

/-- Two definitions of the flags, of which the second counts, and two of overridden fields, which the
second listing sets to literals that are not even numbers. -/
theorem build_of_definitions_redefined :
    let listing : Listing :=
      { name := "fields"
        lines := ["#define flags 1", "#define stacksize 99", "#define firstlineno 50",
          "#defvar x, y", "load 1", "#define flags 67", "store x", "return x"] }
    let listing' : Listing :=
      { name := "fields"
        lines := ["#define flags 1", "#define stacksize 'much'", "#define  firstlineno []",
          "#defvar x, y", "load 1", "#define flags 67", "store x", "return x"] }
    (start listing).Ready .written ∧ listing.Redefined listing' ∧
      ∃ object,
        (start listing).declare.session.assemble.session.build.session.object = some object ∧
        (start listing').declare.session.assemble.session.build.session.object = some object ∧
        Literal.read "67" = .ok object.flags ∧ object.freeNames = .tuple [] ∧
        object.localCount = object.localNames.length := by
  intro listing listing'
  have hready : (start listing).Ready .written :=
    ⟨Option.isNone_iff_eq_none.mp (by decide +kernel),
      Option.isNone_iff_eq_none.mp (by decide +kernel),
      Option.isNone_iff_eq_none.mp (by decide +kernel)⟩
  have hredefines : ∀ {field : Field} {line line' : String} (text text' : String),
      Directive.ofLine? line = some (.field field.word text) →
      Directive.ofLine? line' = some (.field field.word text') →
      (Literal.read text').toOption.isSome = true → Directive.Redefines field line line' := by
    intro field line line' text text' hline hline' hsome
    cases hread : Literal.read text' with
    | ok v => exact ⟨⟨text, hline⟩, text', v, hline', hread⟩
    | error e =>
      rw [hread] at hsome
      cases hsome
  have hsize : Directive.Redefines .stackSize "#define stacksize 99" "#define stacksize 'much'" :=
    hredefines "99" "'much'" (by decide +kernel) (by decide +kernel) (by decide +kernel)
  have hfirst : Directive.Redefines .firstLine "#define firstlineno 50" "#define  firstlineno []" :=
    hredefines "50" "[]" (by decide +kernel) (by decide +kernel) (by decide +kernel)
  have hredefined : listing.Redefined listing' := by
    refine ⟨rfl, .cons (.inl rfl) (.cons (.inr ⟨_, rfl, hsize⟩)
      (.cons (.inr ⟨_, by decide +kernel, hfirst⟩) ?_))⟩
    exact List.forall₂_same.mpr fun _ _ => .inl rfl
  have hflags : listing.directives.filterMap (Directive.definition? Field.flags.word)
      = ["1"] ++ ["67"] := by decide +kernel
  have hfree : listing.directives.filterMap (Directive.definition? Field.freeNames.word) = [] := by
    decide +kernel
  obtain ⟨object, hobject, ⟨-, hgives, -, hkept, -⟩, hlocals, hsame⟩ :=
    build_of_definitions listing .written hready
  rw [Listing.Gives, hflags, lastGives_concat_iff] at hgives
  rw [Listing.Gives, hfree] at hkept
  exact ⟨hready, hredefined, object, hobject, (hsame listing' hredefined).2, hgives, hkept, hlocals⟩

end Session

end BytecodeAssembler
