import BytecodeAssembler.Proofs.LoadedConstants
import BytecodeAssembler.Proofs.QuotedNames

/-!
# Names and the tables that number them

A directive that lists names sets the field that holds them and the table that numbers them, and
leaves the two in step: the names in the table are exactly those of the field, each under a place
where it stands (`Assembly.Mirrors`).  The directive that sets any field sets the field alone.  So the
two are in step after a run of directives where every line that sets the field is followed by one
that lists names of the same kind, and need not be otherwise.
-/

namespace BytecodeAssembler

/-- The kinds of names that directives list. -/
inductive NameKind where
  | global
  | local
deriving DecidableEq

namespace NameKind

def operand : NameKind → OperandKind
  | .global => .global
  | .local => .local

/-- The field that holds the names of a kind. -/
def field : NameKind → Field
  | .global => .globalNames
  | .local => .localNames

/-- The directive that lists names of a kind. -/
def directive (kind : NameKind) (names : String) : Directive :=
  match kind with
  | .global => .globals names
  | .local => .locals names

/-- Whether a line lists names of a kind. -/
def listedOn (kind : NameKind) (line : String) : Bool :=
  match kind, Directive.ofLine? line with
  | .global, some (.globals _) => true
  | .local, some (.locals _) => true
  | _, _ => false

/-- Whether every line that sets the names of a kind as a field is followed by one that lists such
names. -/
def relisted (kind : NameKind) : List String → Bool
  | [] => true
  | line :: rest =>
    (!Directive.definesOn kind.field.word line || rest.any kind.listedOn) && relisted kind rest

end NameKind

/-! ## Tables of names -/

/-- A name that has a number keeps one. -/
theorem SymbolTable.exists_addNames_of_find? {names : List (Option Text)} {table : SymbolTable}
    {start i : Nat} {name : Text} (h : table.find? name = some i) :
    ∃ j, (table.addNames start names).find? name = some j := by
  induction names generalizing table start i with
  | nil => exact ⟨i, h⟩
  | cons place names ih =>
    cases place with
    | none => exact ih h
    | some other =>
      by_cases hsame : other = name
      · exact ih (i := start) (by rw [SymbolTable.find?_insert, if_pos hsame])
      · exact ih (i := i) (by rw [SymbolTable.find?_insert, if_neg hsame, h])

/-- Every name is numbered. -/
theorem SymbolTable.exists_addNames_of_mem {names : List (Option Text)} {table : SymbolTable}
    {start : Nat} {name : Text} (hmem : some name ∈ names) :
    ∃ i, (table.addNames start names).find? name = some i := by
  induction names generalizing table start with
  | nil => cases hmem
  | cons place names ih =>
    cases place with
    | none => exact ih (by simpa using hmem)
    | some other =>
      by_cases hsame : other = name
      · have hfirst : (table.insert other start).find? name = some start := by
          rw [SymbolTable.find?_insert, if_pos hsame]
        show ∃ i, ((table.insert other start).addNames (start + 1) names).find? name = some i
        exact exists_addNames_of_find? hfirst
      · exact ih (by simpa [Ne.symm hsame] using hmem)

namespace Assembly

/-- The names in a table are those that it numbers. -/
theorem mem_iff_tableOf (vs : List Value) (t : Text) :
    .str t ∈ vs ↔ ∃ i, (tableOf vs).find? t = some i := by
  constructor
  · intro hmem
    exact SymbolTable.exists_addNames_of_mem (List.mem_map.mpr ⟨.str t, hmem, rfl⟩)
  · rintro ⟨i, hi⟩
    exact List.mem_of_getElem? (getElem?_of_tableOf hi)

/-- **The table of a kind mirrors its field**: the names in the table are exactly the items of the
field, and each stands at its index. -/
structure Mirrors (kind : NameKind) (a : Assembly) : Prop where
  names : ∃ vs, (a.fields.get kind.field).items? = some vs ∧
    ∀ v, v ∈ vs ↔ ∃ t i, v = .str t ∧ (a.table kind.operand).find? t = some i
  places : ∀ t i, (a.table kind.operand).find? t = some i →
    a.entryAt? kind.operand i = some (.str t)

theorem pool_operand (kind : NameKind) (a : Assembly) :
    a.pool kind.operand = a.fields.get kind.field := by
  cases kind <;> rfl

theorem mirrors_initial (kind : NameKind) : Mirrors kind initial := by
  have hfield : (initial.fields.get kind.field).items? = some [] := by cases kind <;> rfl
  have htable : initial.table kind.operand = .empty := by cases kind <;> rfl
  constructor
  · refine ⟨[], hfield, fun v => ⟨fun hv => absurd hv List.not_mem_nil, ?_⟩⟩
    rintro ⟨t, i, -, hi⟩
    rw [htable] at hi
    cases hi
  · intro t i hi
    rw [htable] at hi
    cases hi

/-- Only the field and the table count. -/
theorem Mirrors.congr {kind : NameKind} {a b : Assembly} (h : Mirrors kind a)
    (hf : b.fields.get kind.field = a.fields.get kind.field)
    (ht : b.table kind.operand = a.table kind.operand) : Mirrors kind b := by
  have hp : b.pool kind.operand = a.pool kind.operand := by rw [pool_operand, pool_operand, hf]
  constructor
  · rw [hf, ht]
    exact h.names
  · rw [ht, entryAt?_congr hp]
    exact h.places

/-- **Listing names** puts the table and the field in step. -/
theorem mirrors_of_listed {kind : NameKind} {a : Assembly} {names : String} {vs : List Value}
    (hn : namesOf names = .ok vs) (hf : a.fields.get kind.field = .tuple vs)
    (ht : a.table kind.operand = tableOf vs) : Mirrors kind a := by
  have htexts := texts_of_namesOf hn
  constructor
  · refine ⟨vs, by rw [hf]; rfl, fun v => ?_⟩
    rw [ht]
    constructor
    · intro hv
      obtain ⟨t, rfl⟩ := htexts v hv
      obtain ⟨i, hi⟩ := (mem_iff_tableOf vs t).mp hv
      exact ⟨t, i, rfl, hi⟩
    · rintro ⟨t, i, rfl, hi⟩
      exact (mem_iff_tableOf vs t).mpr ⟨i, hi⟩
  · intro t i hi
    rw [ht] at hi
    rw [entryAt?, pool_operand, hf]
    exact getElem?_of_tableOf hi

/-! ## Directives -/

/-- **A directive that lists names** leaves the two in step, whatever was before. -/
theorem mirrors_of_step {kind : NameKind} {line : String} {a a' : Assembly}
    (hs : DirectiveStep line a a') (hl : kind.listedOn line = true) : Mirrors kind a' := by
  cases hs with
  | skip hd => cases kind <;> simp [NameKind.listedOn, hd] at hl
  | field hd hv => cases kind <;> simp [NameKind.listedOn, hd] at hl
  | constant hd hv hp => cases kind <;> simp [NameKind.listedOn, hd] at hl
  | globals hd hn =>
    cases kind with
    | global => exact mirrors_of_listed hn rfl rfl
    | «local» => simp [NameKind.listedOn, hd] at hl
  | locals hd hn =>
    cases kind with
    | global => simp [NameKind.listedOn, hd] at hl
    | «local» => exact mirrors_of_listed hn rfl rfl

/-- A directive that neither lists names nor sets their field leaves the field and the table. -/
theorem DirectiveStep.keepsNames {kind : NameKind} {line : String} {a a' : Assembly}
    (hs : DirectiveStep line a a') (hl : kind.listedOn line = false)
    (hdef : Directive.definesOn kind.field.word line = false) :
    a'.fields.get kind.field = a.fields.get kind.field ∧
      a'.table kind.operand = a.table kind.operand := by
  cases hs with
  | skip hd => exact ⟨rfl, rfl⟩
  | @field field value v hd hv =>
    refine ⟨?_, by cases kind <;> rfl⟩
    show (a.fields.set field v).get kind.field = _
    rw [Fields.get_set, if_neg]
    rintro rfl
    simp [Directive.definesOn, hd] at hdef
  | constant hd hv hp => cases kind <;> exact ⟨rfl, rfl⟩
  | globals hd hn =>
    cases kind with
    | global => simp [NameKind.listedOn, hd] at hl
    | «local» => exact ⟨rfl, rfl⟩
  | locals hd hn =>
    cases kind with
    | global => exact ⟨rfl, rfl⟩
    | «local» => simp [NameKind.listedOn, hd] at hl

/-- **A directive that neither lists names nor sets their field** leaves the two as they were. -/
theorem Mirrors.step {kind : NameKind} {line : String} {a a' : Assembly} (h : Mirrors kind a)
    (hs : DirectiveStep line a a') (hl : kind.listedOn line = false)
    (hdef : Directive.definesOn kind.field.word line = false) : Mirrors kind a' := by
  obtain ⟨hfield, htable⟩ := hs.keepsNames hl hdef
  exact h.congr hfield htable

/-- **A run of directives** without a fault leaves the two in step, where every line that sets the
field is followed by one that lists names. -/
theorem mirrors_of_relisted {kind : NameKind} {lines : List String} {a a' : Assembly}
    (hrelisted : kind.relisted lines = true) (hrun : declareLines lines a = (a', none))
    -- The two are in step already, or a line to come puts them in step.
    (h : Mirrors kind a ∨ lines.any kind.listedOn = true) : Mirrors kind a' := by
  induction lines generalizing a with
  | nil =>
    obtain ⟨rfl, -⟩ := Prod.mk.inj hrun
    simpa using h
  | cons line rest ih =>
    rw [NameKind.relisted, Bool.and_eq_true] at hrelisted
    rw [declareLines] at hrun
    cases hline : a.declareLine line with
    | error f => simp [hline] at hrun
    | ok b =>
      rw [hline] at hrun
      have hs := declareLine_step hline
      apply ih hrelisted.2 hrun
      cases hl : kind.listedOn line with
      | true => exact .inl (mirrors_of_step hs hl)
      | false =>
        cases hdef : Directive.definesOn kind.field.word line with
        | true => exact .inr (by simpa [hdef] using hrelisted.1)
        | false =>
          rcases h with h | h
          · exact .inl (h.step hs hl hdef)
          · exact .inr (by simpa [hl] using h)

end Assembly

namespace Session

open Assembly

/-- **Tables and fields in step.** Let the directives of a listing be carried out without a fault on
a fresh session.  The names of a kind and their table mirror each other, unless some line sets the
names as a field and none after it lists names of that kind.  Every index that a constant has is one
of the pool, unless some line sets the pool as a field. -/
theorem tables_mirror (listing : Listing)
    (hdeclare : (Session.start listing).declare.fault = none) :
    let a := (Session.start listing).declare.session.assembly
    (∀ kind : NameKind, kind.relisted listing.directives = true → Mirrors kind a) ∧
      (listing.defines "consts" = false → ∀ t i, a.constantTable.find? t = some i →
        ∃ e, a.entryAt? .constant i = some e) := by
  intro a
  have hlines : declareLines listing.directives initial = (a, none) := Prod.ext rfl hdeclare
  constructor
  · intro kind hrelisted
    exact mirrors_of_relisted hrelisted hlines (.inl (mirrors_initial kind))
  · intro hconsts t i hi
    obtain ⟨word, v, e, -, -, -, he⟩ := (holds_declared hconsts hdeclare).entries t i hi
    exact ⟨e, he⟩

/-- Both kinds of names are set as fields and then listed, the global ones twice; one name comes
twice in its list. -/
theorem tables_mirror_relisted :
    let listing : Listing :=
      { name := "relisted"
        lines := ["#defn f, g", "#define names 7", "#define varnames ('x',)", "#const one 1",
          "#defvar x, y, x", "#defn h", "#const yes True"] }
    let a := (Session.start listing).declare.session.assembly
    (Session.start listing).declare.fault = none ∧ Mirrors .global a ∧ Mirrors .local a ∧
      a.constantTable.entries.length = 3 ∧
      ∀ t i, a.constantTable.find? t = some i → ∃ e, a.entryAt? .constant i = some e := by
  intro listing a
  have hdeclare : (Session.start listing).declare.fault = none :=
    Option.isNone_iff_eq_none.mp (by decide +kernel)
  obtain ⟨hmirrors, hconstants⟩ := tables_mirror listing hdeclare
  exact ⟨hdeclare, hmirrors .global (by decide +kernel), hmirrors .local (by decide +kernel),
    by decide +kernel, hconstants (by decide +kernel)⟩

/-- A name that is set as a field has no number. -/
theorem defined_names_unlisted :
    let listing : Listing := { name := "defined", lines := ["#define names ('a',)"] }
    (Session.start listing).declare.fault.isNone = true ∧
      ¬ Mirrors .global (Session.start listing).declare.session.assembly := by
  intro listing
  refine ⟨by decide +kernel, fun hmirrors => ?_⟩
  have htable : (Session.start listing).declare.session.assembly.globalTable = .empty := by
    decide +kernel
  have hcount : ((Session.start listing).declare.session.assembly.fields.globalNames.items?.map
      List.length) = some 1 := by decide +kernel
  obtain ⟨vs, hvs, hnames⟩ := hmirrors.names
  change (Session.start listing).declare.session.assembly.fields.globalNames.items? = _ at hvs
  rw [hvs, Option.map_some, Option.some.injEq] at hcount
  obtain ⟨v, rfl⟩ := List.length_eq_one_iff.mp hcount
  obtain ⟨t, i, -, hi⟩ := (hnames v).mp List.mem_cons_self
  change (Session.start listing).declare.session.assembly.globalTable.find? t = _ at hi
  rw [htable] at hi
  cases hi

end Session

end BytecodeAssembler
