import BytecodeAssembler.Proofs.LoadedConstants

/-!
# The contents of the pool

Two rules meet in the pool of constants.

* A directive keeps its literal only where no constant of the pool equals it.  So what directives
  leave is a list of distinct values (`Value.distinct`), and a name has the index of the one constant
  that equals its last literal.
* A line of code puts the number that it loads at the end of the pool, whether or not a constant
  equals it, and makes the spelling of the number a name.  A spelling that is a name already is not a
  number any more, so each comes into the pool at its first use and never again.

`Assembly.Declares` and `Assembly.Extends` are the two rules as invariants of runs.  Which operands
code takes for numbers is told by the tables that the directives leave: of the operands that are no
names there (`Assembly.newOperand?`), each counts once.
-/

namespace BytecodeAssembler

namespace Value

/-! ## Distinct values -/

/-- Those of some values that equal none kept before them, in order. -/
def distinct (vs : List Value) : List Value :=
  vs.foldl insertElement []

theorem distinct_concat (vs : List Value) (v : Value) :
    distinct (vs ++ [v]) = insertElement (distinct vs) v := by
  rw [distinct, List.foldl_append]
  rfl

theorem not_same_of_indexIn? {v : Value} {items : List Value} (h : indexIn? v items = Option.none) :
    ∀ w ∈ items, w.same v = false := by
  simpa using List.findIdx?_eq_none_iff.mp h

/-- What has an index keeps it when more values follow. -/
theorem indexIn?_append_of_some {v : Value} {xs : List Value} {i : Nat}
    (h : indexIn? v xs = some i) (ys : List Value) : indexIn? v (xs ++ ys) = some i := by
  unfold indexIn? at h ⊢
  rw [List.findIdx?_append, h, Option.some_or]

/-- The last value has an index: it equals itself. -/
theorem exists_indexIn?_append_self (v : Value) (xs : List Value) :
    ∃ i, indexIn? v (xs ++ [v]) = some i := by
  rw [← Option.isSome_iff_exists, indexIn?, List.findIdx?_isSome]
  simp [same_self]

theorem indexIn?_insertElement_of_some {v : Value} {items : List Value} {i : Nat}
    (h : indexIn? v items = some i) (w : Value) : indexIn? v (insertElement items w) = some i := by
  unfold insertElement
  split
  · exact h
  · exact indexIn?_append_of_some h [w]

theorem pairwise_insertElement {items : List Value}
    (h : items.Pairwise fun v w => v.same w = false) (v : Value) :
    (insertElement items v).Pairwise fun v w => v.same w = false := by
  unfold insertElement
  cases hv : indexIn? v items with
  | some i => exact h
  | none =>
    show (items ++ [v]).Pairwise _
    rw [List.pairwise_append]
    refine ⟨h, List.pairwise_singleton _ _, ?_⟩
    intro w hw u hu
    obtain rfl := List.mem_singleton.mp hu
    exact not_same_of_indexIn? hv w hw

/-- No two of the values that are kept are equal. -/
theorem pairwise_distinct (vs : List Value) :
    (distinct vs).Pairwise fun v w => v.same w = false :=
  List.foldlRecOn vs insertElement List.Pairwise.nil fun _ h v _ => pairwise_insertElement h v

/-- The values that equal `v` are one, and it stands at the place `i`. -/
def OnlyAt (v : Value) (items : List Value) (i : Nat) : Prop :=
  ∀ j, (∃ e, items[j]? = some e ∧ e.same v = true) ↔ j = i

/-- Where no two values are equal, the first that equals a value is the only one. -/
theorem onlyAt_of_indexIn? {v : Value} {items : List Value} {i : Nat}
    (hd : items.Pairwise fun v w => v.same w = false) (hi : indexIn? v items = some i) :
    OnlyAt v items i := by
  obtain ⟨hlt, hsame, hbefore⟩ := List.findIdx?_eq_some_iff_getElem.mp hi
  intro j
  constructor
  · rintro ⟨e, hj, he⟩
    obtain ⟨hjlt, rfl⟩ := List.getElem?_eq_some_iff.mp hj
    rcases Nat.lt_trichotomy j i with hji | hji | hij
    · exact absurd he (hbefore j hji)
    · exact hji
    · have hne := List.pairwise_iff_getElem.mp hd i j hlt hjlt hij
      have heq := same_trans _ v _ hsame (same_symm _ v he)
      rw [hne] at heq
      cases heq
  · rintro rfl
    exact ⟨items[j], List.getElem?_eq_getElem hlt, hsame⟩

end Value

/-- A list takes every constant that is declared, as a set takes an element. -/
theorem Pool.declare_insertElement (items : List Value) (v : Value) :
    ∃ i, Pool.declare (.list items) v = .ok (.list (Value.insertElement items v), i) ∧
      Value.indexIn? v (Value.insertElement items v) = some i := by
  unfold Value.insertElement
  cases hi : Value.indexIn? v items with
  | some i => exact ⟨i, by simp [Pool.declare, hi], hi⟩
  | none =>
    refine ⟨items.length, by simp [Pool.declare, hi], ?_⟩
    show Value.indexIn? v (items ++ [v]) = _
    unfold Value.indexIn? at hi ⊢
    rw [List.findIdx?_append, hi]
    simp [v.same_self]

namespace Assembly

/-! ## Directives -/

/-- Each name that was declared has the index of the first value that equals its last literal. -/
def LastIndexed (declared : List (String × Value)) (table : SymbolTable) (items : List Value) :
    Prop :=
  ∀ name v, declared.reverse.lookup name = some v → ∃ i,
    table.find? (Text.ofString name) = some i ∧ Value.indexIn? v items = some i

/-- One more name is declared, and values keep the indices that they have. -/
theorem LastIndexed.insert {declared : List (String × Value)} {table : SymbolTable}
    {items items' : List Value} {name : String} {v : Value} {i : Nat}
    (h : LastIndexed declared table items)
    (hkeep : ∀ {u k}, Value.indexIn? u items = some k → Value.indexIn? u items' = some k)
    (hi : Value.indexIn? v items' = some i) :
    LastIndexed (declared ++ [(name, v)]) (table.insert (Text.ofString name) i) items' := by
  intro word u hu
  rw [SymbolTable.find?_insert]
  rw [List.reverse_concat, List.lookup_cons] at hu
  by_cases hword : word = name
  · subst hword
    simp only [BEq.rfl, Option.some.injEq] at hu
    subst hu
    exact ⟨i, if_pos rfl, hi⟩
  · rw [beq_false_of_ne hword] at hu
    obtain ⟨k, hk, hindex⟩ := h word u hu
    have hne : Text.ofString name ≠ Text.ofString word :=
      fun heq => hword (Text.ofString_injective heq).symm
    exact ⟨k, by rw [if_neg hne, hk], hkeep hindex⟩

/-- **The constants that directives leave**, which declared the given names and literals. -/
structure Declares (declared : List (String × Value)) (a : Assembly) : Prop where
  pool : a.pool .constant = .list (Value.distinct (.none :: declared.map Prod.snd))
  names : ∀ name v, declared.reverse.lookup name = some v → ∃ i,
    a.constantTable.find? (Text.ofString name) = some i ∧
      Value.indexIn? v (Value.distinct (.none :: declared.map Prod.snd)) = some i
  others : ∀ t, (∀ c ∈ declared, Text.ofString c.1 ≠ t) →
    a.constantTable.find? t = initial.constantTable.find? t

theorem declares_initial : Declares [] initial where
  pool := rfl
  names := fun _ _ h => nomatch h
  others := fun _ _ => rfl

/-- A constant is declared. -/
theorem Declares.insert {declared : List (String × Value)} {a b : Assembly} {name : String}
    {v : Value} {i : Nat} (h : Declares declared a)
    (hp : Pool.declare (a.pool .constant) v = .ok (b.pool .constant, i))
    (ht : b.constantTable = a.constantTable.insert (Text.ofString name) i) :
    Declares (declared ++ [(name, v)]) b := by
  have hpool : Value.distinct (.none :: (declared ++ [(name, v)]).map Prod.snd)
      = Value.insertElement (Value.distinct (.none :: declared.map Prod.snd)) v := by
    rw [List.map_append, ← List.cons_append]
    exact Value.distinct_concat _ v
  obtain ⟨i', hgrown, hi⟩ :=
    Pool.declare_insertElement (Value.distinct (.none :: declared.map Prod.snd)) v
  rw [h.pool, hgrown] at hp
  obtain ⟨hb, rfl⟩ := Prod.mk.inj (Except.ok.inj hp)
  refine ⟨by rw [hpool, hb], ?_, ?_⟩
  · have hnames : LastIndexed declared a.constantTable _ := h.names
    rw [hpool, ht]
    exact hnames.insert (fun hk => Value.indexIn?_insertElement_of_some hk v) hi
  · intro t hne
    rw [ht, SymbolTable.find?_insert, if_neg (hne (name, v) (by simp))]
    exact h.others t fun c hc => hne c (List.mem_append_left _ hc)

/-- **One directive.** -/
theorem Declares.directive {declared : List (String × Value)} {a a' : Assembly} {line : String}
    (h : Declares declared a) (hline : Directive.definesOn "consts" line = false)
    (hs : DirectiveStep line a a') :
    Declares (declared ++ (Directive.constant? line).toList) a' := by
  rcases hs.constants_cases hline with ⟨hnone, hp, ht⟩ | ⟨name, v, i, hconstant, hp, ht⟩
  · rw [hnone, Option.toList_none, List.append_nil]
    exact ⟨hp ▸ h.pool, ht ▸ h.names, ht ▸ h.others⟩
  · rw [hconstant]
    exact h.insert hp ht

/-! ## Code lines -/

/-- **The constants that code leaves** where it began in the state `start` with the pool `first`, and
its operands `used` were no names there: it added numbers under their spellings. -/
structure Extends (start : Assembly) (first : List Value) (used : List String)
    (added : List (String × Value)) (a : Assembly) : Prop where
  pool : a.pool .constant = .list (first ++ added.map Prod.snd)
  spellings : added.map Prod.fst = used.eraseDups
  numbers : ∀ c ∈ added, DenotesNumber c.1 c.2
  indices : ∀ c ∈ added, ∃ i, a.constantTable.find? (Text.ofString c.1) = some i ∧
    Value.indexIn? c.2 (first ++ added.map Prod.snd) = some i
  fresh : ∀ word ∈ used, ¬ start.constantTable.Has word
  others : ∀ t, (∀ word ∈ used, Text.ofString word ≠ t) →
    a.constantTable.find? t = start.constantTable.find? t

section Code

variable {start : Assembly} {first : List Value} {used : List String}
  {added : List (String × Value)}

theorem extends_start (h : start.pool .constant = .list first) :
    Extends start first [] [] start where
  pool := by rw [h, List.map_nil, List.append_nil]
  spellings := rfl
  numbers := fun _ hc => nomatch hc
  indices := fun _ hc => nomatch hc
  fresh := fun _ hw => nomatch hw
  others := fun _ _ => rfl

theorem Extends.congr {a b : Assembly} (h : Extends start first used added a)
    (hp : b.pool .constant = a.pool .constant) (ht : b.constantTable = a.constantTable) :
    Extends start first used added b where
  pool := hp ▸ h.pool
  spellings := h.spellings
  numbers := h.numbers
  indices := ht ▸ h.indices
  fresh := h.fresh
  others := ht ▸ h.others

theorem Extends.mem_used_iff {a : Assembly} (h : Extends start first used added a) {t : String} :
    t ∈ used ↔ ∃ v, (t, v) ∈ added := by
  rw [← List.mem_eraseDups, ← h.spellings]
  simp

/-- The names are those of the start and the spellings. -/
theorem Extends.has_iff {a : Assembly} (h : Extends start first used added a) {t : String} :
    a.constantTable.Has t ↔ start.constantTable.Has t ∨ t ∈ used := by
  by_cases hused : t ∈ used
  · obtain ⟨v, hv⟩ := h.mem_used_iff.mp hused
    obtain ⟨i, hi, -⟩ := h.indices (t, v) hv
    exact ⟨fun _ => .inr hused, fun _ => ⟨i, hi⟩⟩
  · have hsame : a.constantTable.find? (Text.ofString t)
        = start.constantTable.find? (Text.ofString t) := by
      apply h.others
      intro word hword heq
      exact hused (Text.ofString_injective heq ▸ hword)
    unfold SymbolTable.Has
    simp [hsame, hused]

/-- A spelling that is new comes to the end. -/
theorem Extends.insert {a : Assembly} {t : String} {v : Value}
    (h : Extends start first used added a) (hnew : ¬ a.constantTable.Has t)
    (hv : DenotesNumber t v) :
    Extends start first (used ++ [t]) (added ++ [(t, v)])
      (a.pooled t v (first ++ added.map Prod.snd)) := by
  have hstart : ¬ start.constantTable.Has t := fun hhas => hnew (h.has_iff.mpr (.inl hhas))
  have hused : t ∉ used := fun hmem => hnew (h.has_iff.mpr (.inr hmem))
  have hpool : first ++ (added ++ [(t, v)]).map Prod.snd = first ++ added.map Prod.snd ++ [v] := by
    simp
  constructor
  · rw [hpool]
    rfl
  · rw [List.map_append, h.spellings, List.eraseDups_append]
    simp [List.removeAll, hused, List.eraseDups_cons]
  · intro c hc
    rcases List.mem_append.mp hc with hc | hc
    · exact h.numbers c hc
    · obtain rfl := List.mem_singleton.mp hc
      exact hv
  · intro c hc
    rw [hpool]
    rcases List.mem_append.mp hc with hc | hc
    · obtain ⟨i, hi, hindex⟩ := h.indices c hc
      refine ⟨i, ?_, Value.indexIn?_append_of_some hindex [v]⟩
      have hne : Text.ofString t ≠ Text.ofString c.1 := by
        intro heq
        rw [← heq] at hi
        exact hnew ⟨i, hi⟩
      show (a.constantTable.insert _ _).find? _ = _
      rw [SymbolTable.find?_insert, if_neg hne, hi]
    · obtain rfl := List.mem_singleton.mp hc
      obtain ⟨i, hi⟩ := Value.exists_indexIn?_append_self v (first ++ added.map Prod.snd)
      refine ⟨i, ?_, hi⟩
      show (a.constantTable.insert _ _).find? _ = _
      rw [SymbolTable.find?_insert, if_pos rfl, hi, Option.getD_some]
  · intro word hword
    rcases List.mem_append.mp hword with hword | hword
    · exact h.fresh word hword
    · obtain rfl := List.mem_singleton.mp hword
      exact hstart
  · intro u hne
    show (a.constantTable.insert _ _).find? _ = _
    rw [SymbolTable.find?_insert, if_neg (hne t (by simp))]
    exact h.others u fun word hword => hne word (List.mem_append_left _ hword)

/-- A spelling that was used before leaves the constants as they are. -/
theorem Extends.again {a : Assembly} {t : String} (h : Extends start first used added a)
    (hused : t ∈ used) : Extends start first (used ++ [t]) added a where
  pool := h.pool
  spellings := by
    rw [List.eraseDups_append, h.spellings]
    simp [List.removeAll, hused]
  numbers := h.numbers
  indices := h.indices
  fresh := by
    intro word hword
    rcases List.mem_append.mp hword with hword | hword
    · exact h.fresh word hword
    · obtain rfl := List.mem_singleton.mp hword
      exact h.fresh word hused
  others := fun u hne => h.others u fun word hword => hne word (List.mem_append_left _ hword)

/-- **One line of code.**  What it uses is told by the names of the start. -/
theorem Extends.line {before : Nat} {line : String} {a a' : Assembly} {p p' : Progress}
    (h : Extends start first used added a) (hnames : KeepsNames start a)
    (hs : LineStep before line a p (a', p', none)) :
    ∃ added', Extends start first (used ++ (start.newOperand? line).toList) added' a' := by
  cases hs with
  | gap hi =>
    have hnone : start.newOperand? line = none := by simp [newOperand?, hi]
    exact ⟨added, by simpa [hnone] using h⟩
  | @emits word operands mnemonic items b entries hi hm hr hl =>
    suffices hb : ∃ added', Extends start first (used ++ (start.newOperand? line).toList) added' b by
      obtain ⟨added', hb⟩ := hb
      exact ⟨added', hb.congr rfl rfl⟩
    cases hnew : a.newOperand? line with
    | some t =>
      obtain ⟨v, pool, hv, hpool, rfl⟩ := resolve_of_new hnew hi hm hr
      obtain rfl := Value.list.inj (hpool.symm.trans h.pool)
      rw [(hnames.newOperand?_eq_some_iff.mp hnew).1]
      exact ⟨_, h.insert (not_has_of_new hnew) hv⟩
    | none =>
      obtain rfl := resolve_of_known hnew hi hm hr
      cases hfirst : start.newOperand? line with
      | none => exact ⟨added, by simpa using h⟩
      | some t =>
        -- The operand has become a name since, so it was used before.
        have hused := h.has_iff.mp (hnames.has_of_known hfirst hnew)
        exact ⟨added, h.again (hused.resolve_left (not_has_of_new hfirst))⟩

/-- **A run over code lines** without a fault. -/
theorem extends_assembleLines {before : Nat} {lines : List String} {a : Assembly} {p p' : Progress}
    (hpool : start.pool .constant = .list first)
    (hrun : assembleLines before lines start p = (a, p', none)) :
    ∃ added, Extends start first (lines.filterMap start.newOperand?) added a := by
  have hkept := assembleLines_collect
    (P := fun used b => (∃ added, Extends start first used added b) ∧ KeepsNames start b)
    (fun _ _ _ _ _ _ ⟨⟨_, h⟩, hnames⟩ hs =>
      ⟨h.line hnames hs, hnames.trans (keepsNames_of_step hs)⟩)
    hrun ⟨⟨[], extends_start hpool⟩, KeepsNames.refl start⟩
  exact hkept.1

/-- A number has the index that it had in the pool when it was added. -/
theorem Extends.index_of_split {a : Assembly} (h : Extends start first used added a)
    {pre post : List (String × Value)} {c : String × Value} (hsplit : added = pre ++ c :: post) :
    ∃ i, a.constantTable.find? (Text.ofString c.1) = some i ∧
      Value.indexIn? c.2 (first ++ (pre ++ [c]).map Prod.snd) = some i := by
  obtain ⟨i, hi, hindex⟩ := h.indices c (by simp [hsplit])
  obtain ⟨k, hk⟩ := Value.exists_indexIn?_append_self c.2 (first ++ pre.map Prod.snd)
  have hall : first ++ added.map Prod.snd
      = first ++ pre.map Prod.snd ++ [c.2] ++ post.map Prod.snd := by
    simp [hsplit]
  rw [hall, Value.indexIn?_append_of_some hk, Option.some.injEq] at hindex
  subst hindex
  exact ⟨k, hi, by simpa using hk⟩

end Code

end Assembly

namespace Session

open Assembly

theorem declares_declared {listing : Listing} (hconsts : listing.defines "consts" = false)
    (hdeclare : (Session.start listing).declare.fault = none) :
    Declares listing.declaredConstants (Session.start listing).declare.session.assembly := by
  have hlines : declareLines listing.directives initial
      = ((Session.start listing).declare.session.assembly, none) :=
    Prod.ext rfl hdeclare
  exact declareLines_collect (P := Declares)
    (fun _ hm _ _ _ h hs => h.directive (Listing.definesOn_of_defines hconsts hm) hs)
    hlines declares_initial

/-- **The pool holds the distinct literals of the directives, and then every new number of the code
once.**  Let a listing be declared and assembled without a fault, and let no directive set the pool
as a field.

* The directives leave `None` and their literals in order, without those that equal one kept before,
  so that no two constants are equal.  A name that they declare has the index of the one constant that
  equals its last literal, and otherwise the table of the constants is as it was.
* A line uses the operand of its `LOAD` or `RETURN` as a new number if the operand is in none of the
  tables that are searched for it when the line is reached.  That is so just when it is in none of
  them after the directives either, and no line before used it so.
* The code adds the numbers that these operands denote, each spelling once and in the order of first
  use.  The table of the constants gains the spellings, each with the first index at which the pool,
  as far as it had grown with the number, holds a constant that equals it; otherwise the table
  stays. -/
theorem pool_contents (listing : Listing) (hconsts : listing.defines "consts" = false)
    (hdeclare : (Session.start listing).declare.fault = none)
    (hassemble : (Session.start listing).declare.session.assemble.fault = none) :
    let declared := (Session.start listing).declare.session
    let done := declared.assemble.session.assembly
    let first := Value.distinct (.none :: listing.declaredConstants.map Prod.snd)
    let used := fun lines => (Listing.codeOf lines).filterMap declared.assembly.newOperand?
    (declared.assembly.fields.constants = .list first ∧
      first.Pairwise (fun v w => v.same w = false) ∧
      (∀ name v, listing.declaredConstants.reverse.lookup name = some v → ∃ i,
        declared.assembly.constantTable.find? (Text.ofString name) = some i ∧
          v.OnlyAt first i) ∧
      ∀ t, (∀ c ∈ listing.declaredConstants, Text.ofString c.1 ≠ t) →
        declared.assembly.constantTable.find? t = Assembly.initial.constantTable.find? t) ∧
    (∀ pre line post, listing.lines = pre ++ line :: post → Listing.isDirective line = false →
      ∀ t, (declared.reaching pre).newOperand? line = some t ↔
        declared.assembly.newOperand? line = some t ∧ t ∉ used pre) ∧
    ∃ added : List (String × Value),
      added.map Prod.fst = (used listing.lines).eraseDups ∧
      (∀ c ∈ added, DenotesNumber c.1 c.2) ∧
      done.fields.constants = .list (first ++ added.map Prod.snd) ∧
      (∀ pre c post, added = pre ++ c :: post →
        declared.assembly.constantTable.find? (Text.ofString c.1) = none ∧
        ∃ i, done.constantTable.find? (Text.ofString c.1) = some i ∧
          Value.indexIn? c.2 (first ++ (pre ++ [c]).map Prod.snd) = some i) ∧
      ∀ t, (∀ c ∈ added, Text.ofString c.1 ≠ t) →
        done.constantTable.find? t = declared.assembly.constantTable.find? t := by
  intro declared done first used
  have hdeclares := declares_declared hconsts hdeclare
  obtain ⟨b, p, hrun⟩ := declared.assemble_ok_iff.mp hassemble
  refine ⟨⟨hdeclares.pool, Value.pairwise_distinct _, ?_, hdeclares.others⟩, ?_, ?_⟩
  · intro name v hname
    obtain ⟨i, hfound, hi⟩ := hdeclares.names name v hname
    exact ⟨i, hfound, Value.onlyAt_of_indexIn? (Value.pairwise_distinct _) hi⟩
  · intro pre line post hsplit hcode t
    obtain ⟨q, c, r, hpre, -, -⟩ := step_of_split hrun hsplit hcode
    obtain ⟨added, hextends⟩ := extends_assembleLines hdeclares.pool hpre
    rw [(keepsNames_assembleLines hpre).newOperand?_eq_some_iff, hextends.has_iff, not_or]
    exact ⟨fun h => ⟨h.1, h.2.2⟩, fun h => ⟨h.1, not_has_of_new h.1, h.2⟩⟩
  · obtain ⟨added, hb⟩ := extends_assembleLines hdeclares.pool hrun
    have hdone : done
        = { b with fields := { b.fields with stackSize := .int (stackSizeFor p.peak) } } :=
      assemble_of_ok hrun
    have hextends : Extends declared.assembly first (used listing.lines) added done := by
      rw [Listing.code_eq_codeOf] at hb
      rw [hdone]
      exact hb.congr rfl rfl
    refine ⟨added, hextends.spellings, hextends.numbers, hextends.pool, ?_, ?_⟩
    · intro pre c post hsplit
      have hmem : c.1 ∈ used listing.lines := hextends.mem_used_iff.mpr ⟨c.2, by simp [hsplit]⟩
      exact ⟨SymbolTable.find?_eq_none_iff.mpr (hextends.fresh c.1 hmem),
        hextends.index_of_split hsplit⟩
    · intro t hne
      apply hextends.others
      intro word hword
      obtain ⟨v, hv⟩ := hextends.mem_used_iff.mp hword
      exact hne (word, v) hv

/-- A name is declared twice, a truth value equals a whole number, and a number of the code equals a
declared one.  The operand `7` is the name of a global, which `LOAD` finds and `RETURN` does not; from
then on it is the name of a constant, and those come first. -/
theorem pool_contents_shared :
    let listing : Listing :=
      { name := "shared"
        lines := ["#const one 1", "#const yes True", "load 2", "#const one 2.0", "#defn 7", "load 7",
          "return 7", "load 2", "load 7", "return 3"] }
    let s := (Session.start listing).declare.session
    let first := Value.distinct (.none :: listing.declaredConstants.map Prod.snd)
    listing.defines "consts" = false ∧ (Session.start listing).declare.fault = none ∧
      s.assemble.fault = none ∧
      (∃ v i, listing.declaredConstants.reverse.lookup "one" = some v ∧
        s.assembly.constantTable.find? (Text.ofString "one") = some i ∧ v.OnlyAt first i) ∧
      (s.reaching (listing.lines.take 6)).newOperand? "return 7" = some "7" ∧
      ∃ added : List (String × Value), added.map Prod.fst = ["2", "7", "3"] ∧
        s.assemble.session.assembly.fields.constants = .list (first ++ added.map Prod.snd) := by
  intro listing s first
  have hconsts : listing.defines "consts" = false := by decide +kernel
  have hdeclare : (Session.start listing).declare.fault = none :=
    Option.isNone_iff_eq_none.mp (by decide +kernel)
  have hassemble : s.assemble.fault = none := Option.isNone_iff_eq_none.mp (by decide +kernel)
  obtain ⟨⟨-, -, hnames, -⟩, hnew, added, hspelled, -, hpool, -, -⟩ :=
    pool_contents listing hconsts hdeclare hassemble
  refine ⟨hconsts, hdeclare, hassemble, ?_, ?_, added, ?_, hpool⟩
  · have hdeclared : (listing.declaredConstants.reverse.lookup "one").isSome = true := by
      decide +kernel
    obtain ⟨v, hv⟩ := Option.isSome_iff_exists.mp hdeclared
    obtain ⟨i, hi, honly⟩ := hnames "one" v hv
    exact ⟨v, i, hv, hi, honly⟩
  · apply (hnew (listing.lines.take 6) "return 7" (listing.lines.drop 7) rfl (by decide +kernel) _).mpr
    decide +kernel
  · rw [hspelled]
    decide +kernel

end Session

end BytecodeAssembler
