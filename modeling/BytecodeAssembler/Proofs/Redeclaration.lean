import BytecodeAssembler.Proofs.DefinedFields
import BytecodeAssembler.Proofs.Operands

/-!
# Declaring again

The directives of a listing may be carried out again, also after its code was assembled.  Fields and
tables of names are given by the last directives about them, whatever was there before, so they come
out the same (`LastGives.again`).  It is the constants that need an argument: the pool is searched
before it grows, and a name that is declared more than once changes its index more than once.

Once the directives were carried out, the pool holds every declared literal, and every name has the
index of its last one (`Assembly.Settled`).  The pool only ever grows at its end and its values keep
their indices, so calls on a session keep it settled.  From a settled state nothing is added to the
pool; and names that are entered again, the last time with the indices they had, leave the table as
it was (`SymbolTable.insertAll_eq_self`).
-/

namespace BytecodeAssembler

/-! ## Entering names again -/

namespace SymbolTable

theorem insertEntry_insertEntry_same (name : Text) (i j : Nat) (entries : List (Text × Nat)) :
    insertEntry name j (insertEntry name i entries) = insertEntry name j entries := by
  induction entries with
  | nil => simp [insertEntry]
  | cons e rest ih =>
    obtain ⟨n, k⟩ := e
    by_cases hn : n = name
    · simp [insertEntry, hn]
    · simp [insertEntry, hn, ih]

/-- Entering a name again takes the place of entering it. -/
theorem insert_insert_same (table : SymbolTable) (name : Text) (i j : Nat) :
    (table.insert name i).insert name j = table.insert name j :=
  congrArg SymbolTable.mk (insertEntry_insertEntry_same name i j table.entries)

theorem insertEntry_of_indexIn? {name : Text} {i : Nat} {entries : List (Text × Nat)}
    (h : indexIn? name entries = some i) : insertEntry name i entries = entries := by
  induction entries with
  | nil => cases h
  | cons e rest ih =>
    obtain ⟨n, k⟩ := e
    by_cases hn : n = name
    · simp only [indexIn?, hn, if_true, Option.some.injEq] at h
      simp [insertEntry, hn, h]
    · simp only [indexIn?, hn, if_false] at h
      simp [insertEntry, hn, ih h]

/-- Entering a name with the index that it has changes nothing. -/
theorem insert_of_find? {table : SymbolTable} {name : Text} {i : Nat}
    (h : table.find? name = some i) : table.insert name i = table :=
  congrArg SymbolTable.mk (insertEntry_of_indexIn? h)

theorem insertEntry_comm {name other : Text} (hne : name ≠ other) {k : Nat} (i j : Nat)
    {entries : List (Text × Nat)} (h : indexIn? name entries = some k) :
    insertEntry other j (insertEntry name i entries)
      = insertEntry name i (insertEntry other j entries) := by
  induction entries with
  | nil => cases h
  | cons e rest ih =>
    obtain ⟨n, l⟩ := e
    by_cases hn : n = name
    · subst hn
      simp [insertEntry, hne]
    · simp only [indexIn?, hn, if_false] at h
      by_cases ho : n = other
      · subst ho
        simp [insertEntry, hn]
      · simp [insertEntry, hn, ho, ih h]

/-- A name that is there has its place, so another may be entered before or after it. -/
theorem insert_comm {table : SymbolTable} {name other : Text} (hne : name ≠ other) {k : Nat}
    (i j : Nat) (h : table.find? name = some k) :
    (table.insert name i).insert other j = (table.insert other j).insert name i :=
  congrArg SymbolTable.mk (insertEntry_comm hne i j h)

/-- Enter names one after the other. -/
def insertAll (table : SymbolTable) (entries : List (Text × Nat)) : SymbolTable :=
  entries.foldl (fun t e => t.insert e.1 e.2) table

/-- An index does not matter that a name gets before it is entered again. -/
theorem insertAll_insert_of_mem {table : SymbolTable} {name : Text} {k : Nat}
    (h : table.find? name = some k) (i : Nat) {entries : List (Text × Nat)}
    (hmem : name ∈ entries.map Prod.fst) :
    (table.insert name i).insertAll entries = table.insertAll entries := by
  induction entries generalizing table k with
  | nil => cases hmem
  | cons e rest ih =>
    obtain ⟨other, j⟩ := e
    show ((table.insert name i).insert other j).insertAll rest
      = (table.insert other j).insertAll rest
    by_cases hsame : name = other
    · subst hsame
      rw [insert_insert_same]
    · have hrest : name ∈ rest.map Prod.fst := by simpa [hsame] using hmem
      have hfind : (table.insert other j).find? name = some k := by
        rw [find?_insert, if_neg (Ne.symm hsame), h]
      rw [insert_comm hsame i j h]
      exact ih hfind hrest

/-- **Entering names again.**  If each name of some entries has the index of its last one, entering
them all changes nothing, though on the way names may have had other indices. -/
theorem insertAll_eq_self {table : SymbolTable} {entries : List (Text × Nat)}
    (h : ∀ name i, entries.reverse.lookup name = some i → table.find? name = some i) :
    table.insertAll entries = table := by
  induction entries with
  | nil => rfl
  | cons e rest ih =>
    obtain ⟨name, i⟩ := e
    -- The last entry of a name is also its last one in the whole list.
    have hrest : ∀ other j, rest.reverse.lookup other = some j → table.find? other = some j := by
      intro other j hj
      refine h other j ?_
      rw [List.reverse_cons, List.lookup_append, hj, Option.some_or]
    show (table.insert name i).insertAll rest = table
    cases hlast : rest.reverse.lookup name with
    | none =>
      have hfirst : table.find? name = some i := by
        refine h name i ?_
        rw [List.reverse_cons, List.lookup_append, hlast]
        simp
      rw [insert_of_find? hfirst]
      exact ih hrest
    | some j =>
      have hmem : name ∈ rest.map Prod.fst := by
        obtain ⟨pre, post, hsplit, -⟩ := List.lookup_eq_some_iff.mp hlast
        have hentry : (name, j) ∈ rest.reverse := by simp [hsplit]
        exact List.mem_map.mpr ⟨_, List.mem_reverse.mp hentry, rfl⟩
      rw [insertAll_insert_of_mem (hrest name j hlast) i hmem]
      exact ih hrest

end SymbolTable

/-- What is written again gives the same again. -/
theorem LastGives.again {α β : Type} {Gives : β → α → Prop} {written : List β} {x y z : α}
    (hunique : ∀ w u v, Gives w u → Gives w v → u = v) (h : LastGives Gives written x y)
    (h' : LastGives Gives written y z) : z = y := by
  unfold LastGives at h h'
  cases hlast : written.getLast? with
  | none =>
    rw [hlast] at h'
    exact h'
  | some w =>
    rw [hlast] at h h'
    exact hunique w z y h' h

theorem Directive.Gives.unique {directive : Directive} {u v : Value} (hu : directive.Gives u)
    (hv : directive.Gives v) : u = v := by
  cases directive with
  | field word text => exact Except.ok.inj (hu.symm.trans hv)
  | constant name text => exact hu.elim
  | globals names =>
    obtain ⟨vs, hvs, rfl⟩ := hu
    obtain ⟨ws, hws, rfl⟩ := hv
    rw [Except.ok.inj (hvs.symm.trans hws)]
  | locals names =>
    obtain ⟨vs, hvs, rfl⟩ := hu
    obtain ⟨ws, hws, rfl⟩ := hv
    rw [Except.ok.inj (hvs.symm.trans hws)]

namespace NameKind

/-- The names of a kind that a line lists. -/
def names? (kind : NameKind) (line : String) : Option String :=
  match kind, Directive.ofLine? line with
  | .global, some (.globals names) => some names
  | .local, some (.locals names) => some names
  | _, _ => none

theorem names?_eq_some_iff {kind : NameKind} {line names : String} :
    kind.names? line = some names ↔ Directive.ofLine? line = some (kind.directive names) := by
  unfold names?
  cases kind <;>
    rcases Directive.ofLine? line with _ | ⟨word, text⟩ | ⟨name, text⟩ | list | list <;>
    simp [directive]

end NameKind

namespace Assembly

open Directive

/-- The last names that are listed make up the table of their kind. -/
theorem declareLines_table (kind : NameKind) {lines : List String} {a b : Assembly}
    (h : declareLines lines a = (b, none)) :
    LastGives (fun names t => ∃ vs, namesOf names = .ok vs ∧ t = tableOf vs)
      (lines.filterMap kind.names?) (a.table kind.operand) (b.table kind.operand) := by
  apply declareLines_lastGives (fun c => c.table kind.operand) _ _ h
  · intro line names c c' hf hs
    have hline := NameKind.names?_eq_some_iff.mp hf
    cases hs with
    | skip hd => cases hline.symm.trans hd
    | field hd hv => cases kind <;> cases hline.symm.trans hd
    | constant hd hv hp => cases kind <;> cases hline.symm.trans hd
    | @globals names' vs hd hn =>
      cases kind with
      | global =>
        obtain rfl := Directive.globals.inj (Option.some.inj (hline.symm.trans hd))
        exact ⟨vs, hn, rfl⟩
      | «local» => cases hline.symm.trans hd
    | @locals names' vs hd hn =>
      cases kind with
      | global => cases hline.symm.trans hd
      | «local» =>
        obtain rfl := Directive.locals.inj (Option.some.inj (hline.symm.trans hd))
        exact ⟨vs, hn, rfl⟩
  · intro line c c' hf hs
    cases hs with
    | skip hd => rfl
    | field hd hv => cases kind <;> rfl
    | constant hd hv hp => cases kind <;> rfl
    | globals hd hn =>
      cases kind with
      | global => simp [NameKind.names?, hd] at hf
      | «local» => rfl
    | locals hd hn =>
      cases kind with
      | global => rfl
      | «local» => simp [NameKind.names?, hd] at hf

/-! ## Success does not depend on the state -/

/-- A directive that succeeds does so in every state whose pool is a list. -/
theorem DirectiveStep.exists_of_list {line : String} {a a' b : Assembly} {items : List Value}
    (hs : DirectiveStep line a a') (hb : b.pool .constant = .list items) :
    ∃ b', DirectiveStep line b b' := by
  cases hs with
  | skip hd => exact ⟨b, .skip hd⟩
  | field hd hv => exact ⟨_, .field hd hv⟩
  | @constant name value v pool index hd hv hp =>
    obtain ⟨more, i, -, hdeclare, -⟩ := Pool.declare_list items v
    rw [← hb] at hdeclare
    exact ⟨_, .constant hd hv hdeclare⟩
  | globals hd hn => exact ⟨_, .globals hd hn⟩
  | locals hd hn => exact ⟨_, .locals hd hn⟩

/-! ## Settled constants -/

/-- **The constants are settled** for some declared names and literals: the pool, a list of `items`,
holds every literal, and every name has the index of its last one. -/
structure Settled (declared : List (String × Value)) (items : List Value) (a : Assembly) :
    Prop where
  pool : a.pool .constant = .list items
  found : ∀ c ∈ declared, ∃ i, Value.indexIn? c.2 items = some i
  names : LastIndexed declared a.constantTable items

theorem settled_nil {a : Assembly} {items : List Value} (h : a.pool .constant = .list items) :
    Settled [] items a where
  pool := h
  found := by simp
  names := fun _ _ hv => nomatch hv

section Settled

variable {declared : List (String × Value)} {items : List Value} {a b : Assembly}

theorem Settled.congr (h : Settled declared items a) (hp : b.pool .constant = a.pool .constant)
    (ht : b.constantTable = a.constantTable) : Settled declared items b :=
  ⟨hp.trans h.pool, h.found, ht ▸ h.names⟩

/-- A pool that grows at its end stays settled, as long as names keep their indices. -/
theorem Settled.grow (h : Settled declared items a) (hgrows : Grows a b) (hnames : KeepsNames a b) :
    ∃ items', Settled declared items' b := by
  obtain ⟨first, more, ha, hb⟩ := hgrows.constants
  obtain rfl : first = items := Value.list.inj (ha.symm.trans h.pool)
  refine ⟨first ++ more, hb, fun c hc => ?_, fun name v hv => ?_⟩
  · obtain ⟨i, hi⟩ := h.found c hc
    exact ⟨i, Value.indexIn?_append_of_some hi more⟩
  · obtain ⟨i, hfind, hi⟩ := h.names name v hv
    exact ⟨i, hnames.constants _ i hfind, Value.indexIn?_append_of_some hi more⟩

/-- One directive: what it declares is settled as well. -/
theorem Settled.directive {line : String} (h : Settled declared items a)
    (hline : definesOn "consts" line = false) (hs : DirectiveStep line a b) :
    ∃ items', Settled (declared ++ (Directive.constant? line).toList) items' b := by
  rcases hs.constants_cases hline with ⟨hnone, hp, ht⟩ | ⟨name, v, index, hconstant, hp, ht⟩
  · rw [hnone, Option.toList_none, List.append_nil]
    exact ⟨items, h.congr hp ht⟩
  · obtain ⟨i, hgrown, hi⟩ := Pool.declare_insertElement items v
    rw [h.pool, hgrown] at hp
    obtain ⟨hpool, rfl⟩ := Prod.mk.inj (Except.ok.inj hp)
    have hkeep : ∀ {u k}, Value.indexIn? u items = some k →
        Value.indexIn? u (Value.insertElement items v) = some k :=
      fun hk => Value.indexIn?_insertElement_of_some hk v
    rw [hconstant]
    refine ⟨Value.insertElement items v, hpool.symm, fun c hc => ?_, ht ▸ h.names.insert hkeep hi⟩
    rcases List.mem_append.mp hc with hc | hc
    · obtain ⟨k, hk⟩ := h.found c hc
      exact ⟨k, hkeep hk⟩
    · obtain rfl := List.mem_singleton.mp hc
      exact ⟨i, hi⟩

variable {lines : List String}

/-- **Directives settle the constants**, whatever they were. -/
theorem settled_declareLines (hlines : ∀ line ∈ lines, definesOn "consts" line = false)
    (ha : a.pool .constant = .list items) (h : declareLines lines a = (b, none)) :
    ∃ items', Settled (lines.filterMap Directive.constant?) items' b := by
  have hstart : ∃ items', Settled [] items' a := ⟨items, settled_nil ha⟩
  apply declareLines_collect (P := fun declared c => ∃ items', Settled declared items' c) _ h hstart
  rintro line hline declared c c' ⟨items', hc⟩ hs
  exact hc.directive (hlines line hline) hs

/-- Directives that succeed from some state succeed from every state whose pool is a list. -/
theorem declareLines_ok_of_list {a' : Assembly}
    (hlines : ∀ line ∈ lines, definesOn "consts" line = false)
    (h : declareLines lines a = (a', none)) (hb : b.pool .constant = .list items) :
    ∃ b', declareLines lines b = (b', none) := by
  induction lines generalizing a b items with
  | nil => exact ⟨b, rfl⟩
  | cons line rest ih =>
    obtain ⟨c, hs, hrest⟩ := declareLines_cons_ok_iff.mp h
    obtain ⟨d, hs'⟩ := hs.exists_of_list hb
    obtain ⟨items', hd⟩ := (settled_nil hb).directive (hlines line List.mem_cons_self) hs'
    obtain ⟨b', hb'⟩ := ih (fun l hl => hlines l (List.mem_cons_of_mem _ hl)) hrest hd.pool
    exact ⟨b', declareLines_cons_ok_iff.mpr ⟨d, hs', hb'⟩⟩

/-- The entry that a declared constant makes in a table, for a pool that holds it. -/
def entryIn (items : List Value) (c : String × Value) : Text × Nat :=
  (Text.ofString c.1, (Value.indexIn? c.2 items).getD 0)

/-- Where the pool holds all literals, directives enter names and leave the pool. -/
theorem declareLines_entries (hlines : ∀ line ∈ lines, definesOn "consts" line = false)
    (ha : a.pool .constant = .list items)
    (hfound : ∀ c ∈ lines.filterMap Directive.constant?, ∃ i, Value.indexIn? c.2 items = some i)
    (h : declareLines lines a = (b, none)) :
    b.pool .constant = .list items ∧ b.constantTable =
      a.constantTable.insertAll ((lines.filterMap Directive.constant?).map (entryIn items)) := by
  have hstart : a.pool .constant = .list items ∧
      a.constantTable = a.constantTable.insertAll (([] : List (String × Value)).map (entryIn items)) :=
    ⟨ha, rfl⟩
  apply declareLines_collect (P := fun declared c => c.pool .constant = .list items ∧
    c.constantTable = a.constantTable.insertAll (declared.map (entryIn items))) _ h hstart
  rintro line hline declared c c' ⟨hc, htable⟩ hs
  rcases hs.constants_cases (hlines line hline) with
    ⟨hnone, hp, ht⟩ | ⟨name, v, index, hconstant, hp, ht⟩
  · rw [hnone, Option.toList_none, List.append_nil]
    exact ⟨hp.trans hc, ht.trans htable⟩
  · obtain ⟨i, hi⟩ := hfound (name, v) (List.mem_filterMap.mpr ⟨line, hline, hconstant⟩)
    simp only [hc, Pool.declare, hi, Except.ok.injEq, Prod.mk.injEq] at hp
    obtain ⟨hpool, rfl⟩ := hp
    refine ⟨hpool.symm, ?_⟩
    rw [ht, htable, hconstant, Option.toList_some, List.map_append, SymbolTable.insertAll,
      SymbolTable.insertAll, List.foldl_append]
    simp [entryIn, hi]

/-- The index that is entered last for a name is that of its last literal. -/
theorem exists_of_lookup_entries {constants : List (String × Value)} {t : Text} {i : Nat}
    (h : (constants.map (entryIn items)).lookup t = some i) :
    ∃ name v, Text.ofString name = t ∧ constants.lookup name = some v ∧
      (Value.indexIn? v items).getD 0 = i := by
  induction constants with
  | nil => cases h
  | cons c rest ih =>
    obtain ⟨name, v⟩ := c
    rw [List.map_cons, entryIn, List.lookup_cons] at h
    by_cases ht : t = Text.ofString name
    · rw [ht, BEq.rfl] at h
      exact ⟨name, v, ht.symm, by rw [List.lookup_cons, BEq.rfl], Option.some.inj h⟩
    · rw [beq_false_of_ne ht] at h
      obtain ⟨word, u, hword, hlookup, hindex⟩ := ih h
      have hne : word ≠ name := by
        rintro rfl
        exact ht hword.symm
      exact ⟨word, u, hword, by rw [List.lookup_cons, beq_false_of_ne hne, hlookup], hindex⟩

/-- **From a settled state directives leave the constants as they are.** -/
theorem Settled.declareLines (hlines : ∀ line ∈ lines, definesOn "consts" line = false)
    (hsettled : Settled (lines.filterMap Directive.constant?) items a)
    (h : declareLines lines a = (b, none)) :
    b.pool .constant = a.pool .constant ∧ b.constantTable = a.constantTable := by
  obtain ⟨hpool, htable⟩ := declareLines_entries hlines hsettled.pool hsettled.found h
  refine ⟨hpool.trans hsettled.pool.symm, htable.trans (SymbolTable.insertAll_eq_self ?_)⟩
  intro t i hi
  rw [← List.map_reverse] at hi
  obtain ⟨name, v, rfl, hlast, rfl⟩ := exists_of_lookup_entries hi
  obtain ⟨k, hfind, hk⟩ := hsettled.names name v hlast
  rw [hfind, hk, Option.getD_some]

/-- Code keeps the constants settled, whether or not it is assembled to its end. -/
theorem Settled.assemble (h : Settled declared items a) (before : Nat) (code : List String) :
    ∃ items', Settled declared items' (a.assemble before code).1 := by
  rcases hrun : assembleLines before code a Progress.initial with ⟨c, q, f⟩
  obtain ⟨items', hc⟩ := h.grow (grows_assembleLines h.pool hrun) (keepsNames_assembleLines hrun)
  cases f with
  | none =>
    rw [assemble_of_ok hrun]
    exact ⟨items', hc.congr rfl rfl⟩
  | some f =>
    rw [assemble_of_fault hrun]
    exact ⟨items', hc⟩

/-- **Directives that were carried out change nothing when they are carried out again.** -/
theorem declareLines_again (hlines : ∀ line ∈ lines, definesOn "consts" line = false)
    (ha : a.pool .constant = .list items) (h : declareLines lines a = (b, none)) :
    Assembly.declareLines lines b = (b, none) := by
  obtain ⟨items', hsettled⟩ := settled_declareLines hlines ha h
  obtain ⟨c, hc⟩ := declareLines_ok_of_list hlines h hsettled.pool
  obtain ⟨hpool, hconstants⟩ := hsettled.declareLines hlines hc
  have htable : ∀ kind : NameKind, c.table kind.operand = b.table kind.operand := by
    intro kind
    refine (declareLines_table kind h).again ?_ (declareLines_table kind hc)
    rintro names t u ⟨vs, hvs, rfl⟩ ⟨ws, hws, rfl⟩
    rw [Except.ok.inj (hvs.symm.trans hws)]
  obtain rfl : c = b := by
    refine eq_of_parts ?_ fun field => Prod.ext ?_ ?_
    · have hcode := declareLines_code lines b
      rw [hc] at hcode
      exact hcode
    · by_cases hfield : field = .constants
      · subst hfield
        exact hpool
      · refine (declareLines_about hfield h).again ?_ (declareLines_about hfield hc)
        exact fun directive u v hu hv => hu.unique hv
    · cases field with
      | constants => exact congrArg some hconstants
      | globalNames => exact congrArg some (htable .global)
      | localNames => exact congrArg some (htable .local)
      | _ => rfl
  exact hc

end Settled

end Assembly

/-! ## Calls -/

namespace Session

open Assembly

/-- What every call keeps, any calls keep. -/
theorem calls_invariant {P : Session → Prop} (hstep : ∀ s c, P s → P (s.call c)) {s : Session}
    (h : P s) (cs : List Call) : P (s.calls cs) := by
  induction cs generalizing s with
  | nil => exact h
  | cons c cs ih => exact ih (hstep s c h)

/-- Declaring leaves what the directives leave. -/
theorem declare_of_ok {s : Session} {a : Assembly}
    (h : declareLines s.listing.directives s.assembly = (a, none)) :
    s.declare.fault = none ∧ s.declare.session = { s with assembly := a } := by
  refine ⟨congrArg Prod.snd h, ?_⟩
  show ({ s with assembly := (s.assembly.declareLines s.listing.directives).1 } : Session) = _
  rw [h]

section Calls

variable {listing : Listing} (hconsts : listing.defines "consts" = false)

include hconsts

/-- Calls on a fresh session leave a pool that is a list, whether or not they fail. -/
theorem exists_pool_calls (cs : List Call) :
    ((start listing).calls cs).listing = listing ∧
      ∃ items, ((start listing).calls cs).assembly.pool .constant = .list items := by
  apply calls_invariant (P := fun s => s.listing = listing ∧
    ∃ items, s.assembly.pool .constant = .list items)
  · rintro s c ⟨rfl, items, hitems⟩
    refine ⟨call_listing s c, ?_⟩
    cases c with
    | declare =>
      obtain ⟨more, hmore⟩ := declareLines_constants
        (fun line hline => Listing.definesOn_of_defines hconsts hline) hitems
      exact ⟨items ++ more, hmore⟩
    | assemble =>
      obtain ⟨items', hsettled⟩ := (settled_nil hitems).assemble s.listing.linesBeforeCode
        s.listing.code
      exact ⟨items', hsettled.pool⟩
  · exact ⟨rfl, [.none], rfl⟩

/-- Calls on a session keep its constants settled. -/
theorem settled_calls {s : Session} {items : List Value} (hlisting : s.listing = listing)
    (hsettled : Settled listing.declaredConstants items s.assembly) {a b : Assembly}
    (hok : declareLines listing.directives a = (b, none)) (cs : List Call) :
    (s.calls cs).listing = listing ∧
      ∃ items', Settled listing.declaredConstants items' (s.calls cs).assembly := by
  have hlines : ∀ line ∈ listing.directives, Directive.definesOn "consts" line = false :=
    fun line hline => Listing.definesOn_of_defines hconsts hline
  apply calls_invariant (P := fun s => s.listing = listing ∧
    ∃ items', Settled listing.declaredConstants items' s.assembly) _ ⟨hlisting, items, hsettled⟩
  rintro t c ⟨rfl, items', ht⟩
  refine ⟨call_listing t c, ?_⟩
  cases c with
  | declare =>
    obtain ⟨d, hd⟩ := declareLines_ok_of_list hlines hok ht.pool
    obtain ⟨hpool, htable⟩ := ht.declareLines hlines hd
    have hstate : (t.call .declare).assembly = d := congrArg Prod.fst hd
    rw [hstate]
    exact ⟨items', ht.congr hpool htable⟩
  | assemble => exact ht.assemble t.listing.linesBeforeCode t.listing.code

end Calls

/-- **Declaring again.**  Let no directive of a listing set the pool as a field, and let any calls
have been made on a fresh session, some of which may have failed.  If declaring succeeds then,
declaring once more succeeds as well and leaves the whole session as it is.  After any further calls,
such as assembling the code, declaring still succeeds, and leaves the pool of constants and their
table as it finds them. -/
theorem declare_again (listing : Listing) (hconsts : listing.defines "consts" = false)
    (cs : List Call) (hok : ((start listing).calls cs).declare.fault = none) :
    let s := ((start listing).calls cs).declare.session
    (s.declare.fault = none ∧ s.declare.session = s) ∧
      ∀ later : List Call,
        let t := s.calls later
        t.declare.fault = none ∧
          t.declare.session.assembly.fields.constants = t.assembly.fields.constants ∧
          t.declare.session.assembly.constantTable = t.assembly.constantTable := by
  intro s
  have hlines : ∀ line ∈ listing.directives, Directive.definesOn "consts" line = false :=
    fun line hline => Listing.definesOn_of_defines hconsts hline
  obtain ⟨hlisting, items, hitems⟩ := exists_pool_calls hconsts cs
  have hslisting : s.listing = listing := hlisting
  have hrun : declareLines ((start listing).calls cs).listing.directives
      ((start listing).calls cs).assembly = (s.assembly, none) := Prod.ext rfl hok
  rw [hlisting] at hrun
  constructor
  · have hagain : declareLines s.listing.directives s.assembly = (s.assembly, none) := by
      rw [hslisting]
      exact declareLines_again hlines hitems hrun
    exact declare_of_ok hagain
  · intro later t
    obtain ⟨items', hsettled⟩ := settled_declareLines hlines hitems hrun
    obtain ⟨htlisting, items'', ht⟩ := settled_calls hconsts hslisting hsettled hrun later
    obtain ⟨d, hd⟩ := declareLines_ok_of_list hlines hrun ht.pool
    obtain ⟨hpool, htable⟩ := ht.declareLines hlines hd
    have hdeclare : declareLines t.listing.directives t.assembly = (d, none) := by
      rw [htlisting]
      exact hd
    obtain ⟨hfault, hsession⟩ := declare_of_ok hdeclare
    rw [hsession]
    exact ⟨hfault, hpool, htable⟩

/-- A name is declared twice with different literals, the code is assembled in part before the
directives are first carried out, and it makes constants of numbers afterwards. -/
theorem declare_again_assembled :
    let listing : Listing :=
      { name := "again"
        lines := ["#const k 1", "#defn f, g", "#const k 2.5", "load 7", "load k", "#const j 7.0",
          "#define flags 64", "return 1.0"] }
    let s := ((start listing).calls [.assemble]).declare.session
    let t := s.calls [.assemble]
    listing.defines "consts" = false ∧
      ((start listing).calls [.assemble]).declare.fault = none ∧
      ((start listing).calls [.assemble]).assembly.code ≠ [] ∧ s.declare.session = s ∧
      t.assembly.constantTable ≠ s.assembly.constantTable ∧ t.declare.fault = none ∧
      t.declare.session.assembly.fields.constants = t.assembly.fields.constants ∧
      t.declare.session.assembly.constantTable = t.assembly.constantTable := by
  intro listing
  have hconsts : listing.defines "consts" = false := by decide +kernel
  have hok : ((start listing).calls [.assemble]).declare.fault = none :=
    Option.isNone_iff_eq_none.mp (by decide +kernel)
  have hcode : ((start listing).calls [.assemble]).assembly.code ≠ [] := by decide +kernel
  have hnew : (((start listing).calls [.assemble]).declare.session.calls
        [.assemble]).assembly.constantTable
      ≠ ((start listing).calls [.assemble]).declare.session.assembly.constantTable := by
    decide +kernel
  have hagain := declare_again listing hconsts [.assemble] hok
  -- From here on it does not matter which session this is.
  generalize (start listing).calls [.assemble] = r at hok hcode hnew hagain ⊢
  obtain ⟨⟨-, hsame⟩, hlater⟩ := hagain
  exact ⟨hconsts, hok, hcode, hsame, hnew, hlater [.assemble]⟩

end Session

end BytecodeAssembler
