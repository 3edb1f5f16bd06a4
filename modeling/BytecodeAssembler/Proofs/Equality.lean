import BytecodeAssembler.Assembly.Pool

/-!
# Equality of the language, and the pool

Equality is reflexive, symmetric and transitive (`Value.same_self`, `Value.same_symm`,
`Value.same_trans`).  So whether a constant is already in the pool or goes to its end, what stands at
the index given out for it is the first constant of the pool that equals it, and a constant that
equals an earlier one is never found.
-/

namespace BytecodeAssembler

namespace Value

/-! ## Collections, item by item -/

theorem allIn_iff (vs ws : List Value) :
    allIn vs ws = true ↔ ∀ v ∈ vs, ∃ w ∈ ws, v.same w = true := by
  induction vs with
  | nil => simp [allIn]
  | cons v vs ih => simp [allIn, ih]

theorem existsIn_iff (vs : List Value) (w : Value) :
    existsIn vs w = true ↔ ∃ v ∈ vs, v.same w = true := by
  induction vs with
  | nil => simp [existsIn]
  | cons v vs ih => simp [existsIn, ih]

theorem allEntriesIn_iff (es fs : List (Value × Value)) :
    allEntriesIn es fs = true ↔ ∀ e ∈ es, ∃ f ∈ fs, sameEntry e f = true := by
  induction es with
  | nil => simp [allEntriesIn]
  | cons e es ih => simp [allEntriesIn, ih]

theorem existsEntryIn_iff (es : List (Value × Value)) (f : Value × Value) :
    existsEntryIn es f = true ↔ ∃ e ∈ es, sameEntry e f = true := by
  induction es with
  | nil => simp [existsEntryIn]
  | cons e es ih => simp [existsEntryIn, ih]

/-- Each of the first items has an equal one among the second, and each of the second one among the
first. -/
def Matched {α : Type} (eq : α → α → Bool) (xs ys : List α) : Prop :=
  (∀ x ∈ xs, ∃ y ∈ ys, eq x y = true) ∧ ∀ y ∈ ys, ∃ x ∈ xs, eq x y = true

theorem same_set_iff (vs ws : List Value) :
    (Value.set vs).same (.set ws) = true ↔ Matched same vs ws := by
  rw [same, Bool.and_eq_true, allIn_iff, List.all_eq_true]
  simp only [existsIn_iff, Matched]

theorem same_dict_iff (es fs : List (Value × Value)) :
    (Value.dict es).same (.dict fs) = true ↔ Matched sameEntry es fs := by
  rw [same, Bool.and_eq_true, allEntriesIn_iff, List.all_eq_true]
  simp only [existsEntryIn_iff, Matched]

theorem Matched.refl {α : Type} {eq : α → α → Bool} {xs : List α} (h : ∀ x ∈ xs, eq x x = true) :
    Matched eq xs xs :=
  ⟨fun x hx => ⟨x, hx, h x hx⟩, fun x hx => ⟨x, hx, h x hx⟩⟩

theorem Matched.trans {α : Type} {eq : α → α → Bool} {xs ys zs : List α}
    (h : ∀ x ∈ xs, ∀ y z, eq x y = true → eq y z = true → eq x z = true)
    (hxy : Matched eq xs ys) (hyz : Matched eq ys zs) : Matched eq xs zs := by
  constructor
  · intro x hx
    obtain ⟨y, hy, hexy⟩ := hxy.1 x hx
    obtain ⟨z, hz, heyz⟩ := hyz.1 y hy
    exact ⟨z, hz, h x hx y z hexy heyz⟩
  · intro z hz
    obtain ⟨y, hy, heyz⟩ := hyz.2 z hz
    obtain ⟨x, hx, hexy⟩ := hxy.2 y hy
    exact ⟨x, hx, h x hx y z hexy heyz⟩

theorem sameItems_self {vs : List Value} (h : ∀ v ∈ vs, v.same v = true) :
    sameItems vs vs = true := by
  induction vs with
  | nil => rfl
  | cons v vs ih =>
    rw [sameItems, h v List.mem_cons_self, ih fun w hw => h w (List.mem_cons_of_mem _ hw)]
    rfl

/-! ## Every value equals itself -/

mutual

/-- **Every value equals itself.** -/
theorem same_self : (v : Value) → v.same v = true
  | .list vs => by
    rw [same]
    exact sameItems_self (items_same_self vs)
  | .tuple vs => by
    rw [same]
    exact sameItems_self (items_same_self vs)
  | .set vs => (same_set_iff vs vs).mpr (Matched.refl (items_same_self vs))
  | .dict es => (same_dict_iff es es).mpr (Matched.refl (entries_same_self es))
  | .none => rfl
  | .ellipsis => rfl
  | .bool b => by simp [same, sameAtom, number?]
  | .int n => by simp [same, sameAtom, number?]
  | .float x => by simp [same, sameAtom, number?]
  | .complex re im => by simp [same, sameAtom, number?]
  | .str t => by simp [same, sameAtom]
  | .bytes bs => by simp [same, sameAtom]
termination_by structural v => v

theorem items_same_self : (vs : List Value) → ∀ v ∈ vs, v.same v = true
  | [] => fun _ hv => nomatch hv
  | v :: vs => List.forall_mem_cons.mpr ⟨same_self v, items_same_self vs⟩
termination_by structural vs => vs

theorem entry_same_self : (e : Value × Value) → sameEntry e e = true
  | (k, v) => by
    rw [sameEntry, same_self k, same_self v]
    rfl
termination_by structural e => e

theorem entries_same_self : (es : List (Value × Value)) → ∀ e ∈ es, sameEntry e e = true
  | [] => fun _ he => nomatch he
  | e :: es => List.forall_mem_cons.mpr ⟨entry_same_self e, entries_same_self es⟩
termination_by structural es => es

end

/-! ## Values that equal the same value

A value that is no collection is compared by one key, its text, its bytes or its number, and a
collection item by item; so equality is transitive.
-/

/-- What a value that is no collection is compared by. -/
inductive Atom where
  | none
  | ellipsis
  | str (value : Text)
  | bytes (value : List UInt8)
  | number (re im : Extended)

/-- What a value is compared by, unless it is a collection. -/
def atom? : Value → Option Atom
  | .none => some .none
  | .ellipsis => some .ellipsis
  | .str t => some (.str t)
  | .bytes bs => some (.bytes bs)
  | v => v.number?.map fun x => .number x.1 x.2

theorem sameAtom_iff (v w : Value) :
    sameAtom v w = true ↔ v.atom?.isSome = true ∧ v.atom? = w.atom? := by
  cases v <;> cases w <;> simp [sameAtom, atom?, number?]

/-- What equals a value that is no collection is compared by the same. -/
theorem same_iff_of_atom {v : Value} {k : Atom} (hv : v.atom? = some k) (w : Value) :
    v.same w = true ↔ w.atom? = some k := by
  have hsame : v.same w = sameAtom v w := by
    cases v <;> first | rfl | cases hv
  rw [hsame, sameAtom_iff, hv]
  simp [eq_comm]

theorem same_trans_of_atom {u v w : Value} (hu : u.atom?.isSome = true) (huv : u.same v = true)
    (hvw : v.same w = true) : u.same w = true := by
  obtain ⟨k, hk⟩ := Option.isSome_iff_exists.mp hu
  have hv := (same_iff_of_atom hk v).mp huv
  exact (same_iff_of_atom hk w).mpr ((same_iff_of_atom hv w).mp hvw)

theorem same_list_iff (vs : List Value) (w : Value) :
    (Value.list vs).same w = true ↔ ∃ ws, w = .list ws ∧ sameItems vs ws = true := by
  cases w <;> simp [same, sameAtom, number?]

theorem same_tuple_iff (vs : List Value) (w : Value) :
    (Value.tuple vs).same w = true ↔ ∃ ws, w = .tuple ws ∧ sameItems vs ws = true := by
  cases w <;> simp [same, sameAtom, number?]

theorem exists_set_of_same {vs : List Value} {w : Value} (h : (Value.set vs).same w = true) :
    ∃ ws, w = .set ws := by
  cases w <;> simp_all [same, sameAtom, number?]

theorem exists_dict_of_same {es : List (Value × Value)} {w : Value}
    (h : (Value.dict es).same w = true) : ∃ fs, w = .dict fs := by
  cases w <;> simp_all [same, sameAtom, number?]

/-- The same items in the same order as the same items. -/
theorem sameItems_trans {us vs ws : List Value}
    (h : ∀ u ∈ us, ∀ v w, u.same v = true → v.same w = true → u.same w = true)
    (huv : sameItems us vs = true) (hvw : sameItems vs ws = true) : sameItems us ws = true := by
  induction us generalizing vs ws with
  | nil =>
    cases vs with
    | nil => exact hvw
    | cons v vs => cases huv
  | cons u us ih =>
    cases vs with
    | nil => cases huv
    | cons v vs =>
      cases ws with
      | nil => cases hvw
      | cons w ws =>
        rw [sameItems, Bool.and_eq_true] at huv hvw ⊢
        obtain ⟨hhead, htail⟩ := List.forall_mem_cons.mp h
        exact ⟨hhead v w huv.1 hvw.1, ih htail huv.2 hvw.2⟩

mutual

/-- **Equality is transitive.** -/
theorem same_trans : (u : Value) → ∀ v w, u.same v = true → v.same w = true → u.same w = true
  | .list us => by
    intro v w huv hvw
    obtain ⟨vs, rfl, huv⟩ := (same_list_iff us v).mp huv
    obtain ⟨ws, rfl, hvw⟩ := (same_list_iff vs w).mp hvw
    exact (same_list_iff us _).mpr ⟨ws, rfl, sameItems_trans (items_same_trans us) huv hvw⟩
  | .tuple us => by
    intro v w huv hvw
    obtain ⟨vs, rfl, huv⟩ := (same_tuple_iff us v).mp huv
    obtain ⟨ws, rfl, hvw⟩ := (same_tuple_iff vs w).mp hvw
    exact (same_tuple_iff us _).mpr ⟨ws, rfl, sameItems_trans (items_same_trans us) huv hvw⟩
  | .set us => by
    intro v w huv hvw
    obtain ⟨vs, rfl⟩ := exists_set_of_same huv
    obtain ⟨ws, rfl⟩ := exists_set_of_same hvw
    rw [same_set_iff] at huv hvw ⊢
    exact huv.trans (items_same_trans us) hvw
  | .dict es => by
    intro v w huv hvw
    obtain ⟨fs, rfl⟩ := exists_dict_of_same huv
    obtain ⟨gs, rfl⟩ := exists_dict_of_same hvw
    rw [same_dict_iff] at huv hvw ⊢
    exact huv.trans (entries_same_trans es) hvw
  | .none => fun _ _ => same_trans_of_atom rfl
  | .ellipsis => fun _ _ => same_trans_of_atom rfl
  | .bool b => fun _ _ => same_trans_of_atom rfl
  | .int n => fun _ _ => same_trans_of_atom rfl
  | .float x => fun _ _ => same_trans_of_atom rfl
  | .complex re im => fun _ _ => same_trans_of_atom rfl
  | .str t => fun _ _ => same_trans_of_atom rfl
  | .bytes bs => fun _ _ => same_trans_of_atom rfl
termination_by structural u => u

theorem items_same_trans : (us : List Value) →
    ∀ u ∈ us, ∀ v w, u.same v = true → v.same w = true → u.same w = true
  | [] => fun _ hu => nomatch hu
  | u :: us => List.forall_mem_cons.mpr ⟨same_trans u, items_same_trans us⟩
termination_by structural us => us

theorem entry_same_trans : (e : Value × Value) →
    ∀ f g, sameEntry e f = true → sameEntry f g = true → sameEntry e g = true
  | (k, v) => by
    intro f g hef hfg
    rw [sameEntry, Bool.and_eq_true] at hef hfg ⊢
    exact ⟨same_trans k f.1 g.1 hef.1 hfg.1, same_trans v f.2 g.2 hef.2 hfg.2⟩
termination_by structural e => e

theorem entries_same_trans : (es : List (Value × Value)) →
    ∀ e ∈ es, ∀ f g, sameEntry e f = true → sameEntry f g = true → sameEntry e g = true
  | [] => fun _ he => nomatch he
  | e :: es => List.forall_mem_cons.mpr ⟨entry_same_trans e, entries_same_trans es⟩
termination_by structural es => es

end

/-! ## Either way round -/

theorem Matched.symm {α : Type} {eq : α → α → Bool} {xs ys : List α}
    (h : ∀ x ∈ xs, ∀ y, eq x y = true → eq y x = true) (hxy : Matched eq xs ys) :
    Matched eq ys xs := by
  constructor
  · intro y hy
    obtain ⟨x, hx, hexy⟩ := hxy.2 y hy
    exact ⟨x, hx, h x hx y hexy⟩
  · intro x hx
    obtain ⟨y, hy, hexy⟩ := hxy.1 x hx
    exact ⟨y, hy, h x hx y hexy⟩

theorem same_symm_of_atom {u v : Value} (hu : u.atom?.isSome = true) (huv : u.same v = true) :
    v.same u = true := by
  obtain ⟨k, hk⟩ := Option.isSome_iff_exists.mp hu
  exact (same_iff_of_atom ((same_iff_of_atom hk v).mp huv) u).mpr hk

theorem sameItems_symm {us vs : List Value} (h : ∀ u ∈ us, ∀ v, u.same v = true → v.same u = true)
    (huv : sameItems us vs = true) : sameItems vs us = true := by
  induction us generalizing vs with
  | nil =>
    cases vs with
    | nil => rfl
    | cons v vs => cases huv
  | cons u us ih =>
    cases vs with
    | nil => cases huv
    | cons v vs =>
      rw [sameItems, Bool.and_eq_true] at huv ⊢
      obtain ⟨hhead, htail⟩ := List.forall_mem_cons.mp h
      exact ⟨hhead v huv.1, ih htail huv.2⟩

mutual

/-- **Equality is symmetric.** -/
theorem same_symm : (u : Value) → ∀ v, u.same v = true → v.same u = true
  | .list us => by
    intro v huv
    obtain ⟨vs, rfl, huv⟩ := (same_list_iff us v).mp huv
    exact (same_list_iff vs _).mpr ⟨us, rfl, sameItems_symm (items_same_symm us) huv⟩
  | .tuple us => by
    intro v huv
    obtain ⟨vs, rfl, huv⟩ := (same_tuple_iff us v).mp huv
    exact (same_tuple_iff vs _).mpr ⟨us, rfl, sameItems_symm (items_same_symm us) huv⟩
  | .set us => by
    intro v huv
    obtain ⟨vs, rfl⟩ := exists_set_of_same huv
    rw [same_set_iff] at huv ⊢
    exact huv.symm (items_same_symm us)
  | .dict es => by
    intro v huv
    obtain ⟨fs, rfl⟩ := exists_dict_of_same huv
    rw [same_dict_iff] at huv ⊢
    exact huv.symm (entries_same_symm es)
  | .none => fun _ => same_symm_of_atom rfl
  | .ellipsis => fun _ => same_symm_of_atom rfl
  | .bool b => fun _ => same_symm_of_atom rfl
  | .int n => fun _ => same_symm_of_atom rfl
  | .float x => fun _ => same_symm_of_atom rfl
  | .complex re im => fun _ => same_symm_of_atom rfl
  | .str t => fun _ => same_symm_of_atom rfl
  | .bytes bs => fun _ => same_symm_of_atom rfl
termination_by structural u => u

theorem items_same_symm : (us : List Value) → ∀ u ∈ us, ∀ v, u.same v = true → v.same u = true
  | [] => fun _ hu => nomatch hu
  | u :: us => List.forall_mem_cons.mpr ⟨same_symm u, items_same_symm us⟩
termination_by structural us => us

theorem entry_same_symm : (e : Value × Value) → ∀ f, sameEntry e f = true → sameEntry f e = true
  | (k, v) => by
    rintro ⟨k', v'⟩ hef
    rw [sameEntry, Bool.and_eq_true] at hef ⊢
    exact ⟨same_symm k k' hef.1, same_symm v v' hef.2⟩
termination_by structural e => e

theorem entries_same_symm : (es : List (Value × Value)) →
    ∀ e ∈ es, ∀ f, sameEntry e f = true → sameEntry f e = true
  | [] => fun _ he => nomatch he
  | e :: es => List.forall_mem_cons.mpr ⟨entry_same_symm e, entries_same_symm es⟩
termination_by structural es => es

end

/-! ## The first equal value -/

/-- The first of some values that equals a value. -/
def firstSame? (v : Value) (items : List Value) : Option Value :=
  items.find? fun w => w.same v

theorem firstSame?_append (v : Value) (xs ys : List Value) :
    firstSame? v (xs ++ ys) = (firstSame? v xs).or (firstSame? v ys) :=
  List.find?_append

/-- What was found first stays so when more values follow. -/
theorem firstSame?_append_of_some {v w : Value} {xs : List Value} (h : firstSame? v xs = some w)
    (ys : List Value) : firstSame? v (xs ++ ys) = some w := by
  rw [firstSame?_append, h, Option.some_or]

theorem same_of_firstSame? {v w : Value} {items : List Value} (h : firstSame? v items = some w) :
    w.same v = true := by
  have hw := List.find?_some (l := items) (a := w) h
  exact hw

/-- Some value equals the last one: it does itself. -/
theorem exists_firstSame?_append_self (v : Value) (xs : List Value) :
    ∃ w, firstSame? v (xs ++ [v]) = some w := by
  rw [← Option.isSome_iff_exists, firstSame?, List.find?_isSome]
  exact ⟨v, by simp, v.same_self⟩

/-- A value that equals an earlier one is never the first that equals anything. -/
theorem firstSame?_append_of_found {v w : Value} {xs : List Value}
    (h : firstSame? v xs = some w) (u : Value) : firstSame? u (xs ++ [v]) = firstSame? u xs := by
  rw [firstSame?_append]
  cases hu : firstSame? u xs with
  | some e => rfl
  | none =>
    have hne : v.same u = false := by
      rw [← Bool.not_eq_true]
      intro hvu
      have hwu := same_trans w v u (same_of_firstSame? h) hvu
      exact List.find?_eq_none.mp hu w (List.mem_of_find?_eq_some h) hwu
    simp [firstSame?, hne]

/-- What stands at the index of a value is the first that equals it. -/
theorem getElem?_of_indexIn? {v : Value} {items : List Value} {i : Nat}
    (h : indexIn? v items = some i) : items[i]? = firstSame? v items := by
  obtain ⟨hi, hsame, hbefore⟩ := List.findIdx?_eq_some_iff_getElem.mp h
  rw [List.getElem?_eq_getElem hi, eq_comm, firstSame?, List.find?_eq_some_iff_getElem]
  exact ⟨hsame, i, hi, rfl, fun j hj => by simpa using hbefore j hj⟩

end Value

namespace Pool

open Value (firstSame? indexIn? firstSame?_append firstSame?_append_of_found getElem?_of_indexIn?
  exists_firstSame?_append_self same_of_firstSame?)

/-- A list takes every constant that is declared: it grows by that constant at most, and is searched
like the list with the constant at its end.  The index given out is that of the first constant that
equals it. -/
theorem declare_first (items : List Value) (v : Value) :
    ∃ more i, declare (.list items) v = .ok (.list (items ++ more), i) ∧
      (items ++ more)[i]? = firstSame? v (items ++ [v]) ∧
      ∀ u, firstSame? u (items ++ more) = firstSame? u (items ++ [v]) := by
  cases hi : indexIn? v items with
  | some i =>
    have hentry := getElem?_of_indexIn? hi
    obtain ⟨hlt, -, -⟩ := List.findIdx?_eq_some_iff_getElem.mp hi
    have hfound : firstSame? v items = some items[i] := by
      rw [← hentry, List.getElem?_eq_getElem hlt]
    refine ⟨[], i, by simp [declare, hi], ?_, fun u => ?_⟩
    · rw [List.append_nil, hentry, firstSame?_append_of_found hfound]
    · rw [List.append_nil, firstSame?_append_of_found hfound]
  | none =>
    have hnone : firstSame? v items = none := by
      rw [firstSame?, List.find?_eq_none]
      simpa using List.findIdx?_eq_none_iff.mp hi
    refine ⟨[v], items.length, by simp [declare, hi], ?_, fun _ => rfl⟩
    rw [firstSame?_append, hnone]
    simp [firstSame?, v.same_self]

/-- The index of a constant that goes to the end of a list is that of the first constant that equals
it. -/
theorem append_first (items : List Value) (v : Value) :
    (items ++ [v])[(indexIn? v (items ++ [v])).getD items.length]?
      = firstSame? v (items ++ [v]) := by
  cases hi : indexIn? v (items ++ [v]) with
  | some i => exact getElem?_of_indexIn? hi
  | none =>
    obtain ⟨w, hw⟩ := exists_firstSame?_append_self v items
    have hnone : firstSame? v (items ++ [v]) = none := by
      rw [firstSame?, List.find?_eq_none]
      simpa using List.findIdx?_eq_none_iff.mp hi
    rw [hnone] at hw
    cases hw

/-- So the index of a declared constant is one of an equal constant. -/
theorem declare_list (items : List Value) (v : Value) :
    ∃ more i w, declare (.list items) v = .ok (.list (items ++ more), i) ∧
      (items ++ more)[i]? = some w ∧ w.same v = true := by
  obtain ⟨more, i, hdeclare, hentry, -⟩ := declare_first items v
  obtain ⟨w, hw⟩ := exists_firstSame?_append_self v items
  exact ⟨more, i, w, hdeclare, hentry.trans hw, same_of_firstSame? hw⟩

theorem append_index (items : List Value) (v : Value) :
    ∃ w, (items ++ [v])[(indexIn? v (items ++ [v])).getD items.length]? = some w ∧
      w.same v = true := by
  obtain ⟨w, hw⟩ := exists_firstSame?_append_self v items
  exact ⟨w, (append_first items v).trans hw, same_of_firstSame? hw⟩

end Pool

end BytecodeAssembler
