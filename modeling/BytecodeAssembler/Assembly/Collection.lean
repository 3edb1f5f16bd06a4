import BytecodeAssembler.Fault

/-!
# Values as collections

The items of a value that is a collection: the code points of a text, the numbers of bytes, the
items of a list or a tuple, the elements of a set, the keys of a dictionary.

A set has no order of its own.  In which order its elements come is a matter of the machine, which is
given as a `SetOrder` wherever a set may be gone through or shown.
-/

namespace BytecodeAssembler

/-- The order in which the elements of a set come, by how the set was written. -/
structure SetOrder where
  arrange : List Value → List Value
  perm : ∀ elements, (arrange elements).Perm elements

/-- The elements come as they were written. -/
def SetOrder.written : SetOrder :=
  ⟨id, fun _ => .refl _⟩

namespace Value

/-- The items of a collection, in order. -/
def items? (v : Value) (order : SetOrder := .written) : Option (List Value) :=
  match v with
  | .str t => some (t.map fun p => .str [p])
  | .bytes bs => some (bs.map fun b => .int b.toNat)
  | .list vs | .tuple vs => some vs
  | .set vs => some (order.arrange vs)
  | .dict entries => some (entries.map Prod.fst)
  | _ => Option.none

/-- The items of a value that must be a collection. -/
def items (v : Value) (order : SetOrder := .written) : Except Fault (List Value) :=
  match v.items? order with
  | some vs => .ok vs
  | .none => .error .notCollection

/-- The text of a value that is one. -/
def text? : Value → Option Text
  | .str t => some t
  | _ => Option.none

/-! ## Sets within values -/

mutual

/-- The value with the elements of all its sets in their order. -/
def arranged (order : SetOrder) : Value → Value
  | .list items => .list (arrangedAll order items)
  | .tuple items => .tuple (arrangedAll order items)
  | .set elements => .set (order.arrange (arrangedAll order elements))
  | .dict entries => .dict (arrangedEntries order entries)
  | v => v
termination_by structural v => v

def arrangedAll (order : SetOrder) : List Value → List Value
  | [] => []
  | v :: vs => v.arranged order :: arrangedAll order vs
termination_by structural vs => vs

def arrangedEntry (order : SetOrder) : Value × Value → Value × Value
  | (k, v) => (k.arranged order, v.arranged order)
termination_by structural e => e

def arrangedEntries (order : SetOrder) : List (Value × Value) → List (Value × Value)
  | [] => []
  | e :: es => arrangedEntry order e :: arrangedEntries order es
termination_by structural es => es

end

end Value

end BytecodeAssembler
