import BytecodeAssembler.Fault

/-!
# The pool of constants

The pool is normally a list.  A declared constant that equals one in the pool shares its index, and
otherwise goes to the end; a number that a code line loads always goes to the end, and takes the
index of the first constant that it equals.

A directive may have put any other value in the place of the list.  Such a pool can still be
searched where its kind allows: a tuple item by item, a text for a part of it, bytes for a byte or a
part of them.  It never grows.
-/

namespace BytecodeAssembler.Pool

/-- The place of the first occurrence of a part in a whole. -/
def indexOfPart? {α : Type} [BEq α] (part : List α) : List α → Option Nat
  | [] => if part.isEmpty then some 0 else none
  | x :: rest =>
    if part.isPrefixOf (x :: rest) then some 0 else (indexOfPart? part rest).map (· + 1)

/-- The place of a number among bytes; a number beyond a byte cannot be looked for. -/
def indexOfByte? (n : Int) (bytes : List UInt8) : Except Fault (Option Nat) :=
  if 0 ≤ n && n ≤ 255 then .ok (bytes.findIdx? fun b => (b.toNat : Int) == n)
  else .error .byteRange

/-- Give a declared constant its index in the pool, and the pool with it. -/
def declare (pool value : Value) : Except Fault (Value × Nat) :=
  match pool with
  | .list items =>
    match Value.indexIn? value items with
    | some i => .ok (pool, i)
    | none => .ok (.list (items ++ [value]), items.length)
  | .tuple items =>
    match Value.indexIn? value items with
    | some i => .ok (pool, i)
    | none => .error .poolFixed
  | .str text =>
    match value with
    | .str part =>
      match indexOfPart? part text with
      | some i => .ok (pool, i)
      | none => .error .poolFixed
    | _ => .error .unsearchable
  | .bytes bytes => do
    let place ← match value with
      | .bytes part => .ok (indexOfPart? part bytes)
      | .int n => indexOfByte? n bytes
      | .bool b => indexOfByte? (if b then 1 else 0) bytes
      | _ => .error .unsearchable
    match place with
    | some i => .ok (pool, i)
    | none => .error .poolFixed
  | .dict _ => if value.isHashable then .error .poolFixed else .error .unsearchable
  | .set _ =>
    -- A set may be looked for in a set, though it cannot be an element.
    match value with
    | .set _ => .error .poolFixed
    | _ => if value.isHashable then .error .poolFixed else .error .unsearchable
  | _ => .error .unsearchable

/-- Put a constant at the end of the pool, and give it the index of the first constant that it
equals. -/
def append (pool value : Value) : Except Fault (Value × Nat) :=
  match pool with
  | .list items =>
    .ok (.list (items ++ [value]), (Value.indexIn? value (items ++ [value])).getD items.length)
  | _ => .error .poolFixed

end BytecodeAssembler.Pool
