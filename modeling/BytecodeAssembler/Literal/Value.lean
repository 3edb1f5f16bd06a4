import BytecodeAssembler.Number.Binary64
import BytecodeAssembler.Text.CodePoint

/-!
# Values

The values that a literal can denote, and two relations on them.

* `Value.same` is the equality of the language: numbers of all kinds compare by their exact value,
  truth values count as zero and one, a list never equals a tuple nor a text bytes, and sets and
  dictionaries compare without order.
* `Value.isHashable` tells which values may be elements of a set or keys of a dictionary.

Sets and dictionaries are kept in insertion order.  `Value.insertElement` and `Value.insertEntry`
add to them: an element or key that is already there, up to `same`, stays, and the entry takes the
new value.
-/

namespace BytecodeAssembler

inductive Value where
  | none
  | ellipsis
  | bool (value : Bool)
  | int (value : Int)
  | float (value : Binary64)
  | complex (re im : Binary64)
  | str (value : Text)
  | bytes (value : List UInt8)
  | list (items : List Value)
  | tuple (items : List Value)
  | set (elements : List Value)
  | dict (entries : List (Value × Value))
deriving Inhabited

namespace Value

/-! ## Equality of the language -/

/-- The real and imaginary part of a number; a truth value counts as zero or one. -/
def number? : Value → Option (Extended × Extended)
  | .bool b => some (.finite (if b then 1 else 0), .finite 0)
  | .int n => some (.finite n, .finite 0)
  | .float x => some (x.exact, .finite 0)
  | .complex re im => some (re.exact, im.exact)
  | _ => Option.none

/-- Equality of two values that are not collections. -/
def sameAtom : Value → Value → Bool
  | .none, .none => true
  | .ellipsis, .ellipsis => true
  | .str s, .str t => s == t
  | .bytes s, .bytes t => s == t
  | v, w =>
    match v.number?, w.number? with
    | some x, some y => x == y
    | _, _ => false

mutual

/-- Equality of the language. -/
def same : Value → Value → Bool
  | .list vs, .list ws => sameItems vs ws
  | .tuple vs, .tuple ws => sameItems vs ws
  | .set vs, .set ws => allIn vs ws && ws.all (existsIn vs)
  | .dict vs, .dict ws => allEntriesIn vs ws && ws.all (existsEntryIn vs)
  | v, w => sameAtom v w
termination_by structural v => v

/-- The same items in the same order. -/
def sameItems : List Value → List Value → Bool
  | [], [] => true
  | v :: vs, w :: ws => v.same w && sameItems vs ws
  | _, _ => false
termination_by structural vs => vs

/-- Each of the first values is among the second. -/
def allIn : List Value → List Value → Bool
  | [], _ => true
  | v :: vs, ws => ws.any (fun w => v.same w) && allIn vs ws
termination_by structural vs => vs

/-- A value is among the given ones. -/
def existsIn : List Value → Value → Bool
  | [], _ => false
  | v :: vs, w => v.same w || existsIn vs w
termination_by structural vs => vs

/-- The same key and the same value. -/
def sameEntry : Value × Value → Value × Value → Bool
  | (k, v), e => k.same e.1 && v.same e.2
termination_by structural e => e

def allEntriesIn : List (Value × Value) → List (Value × Value) → Bool
  | [], _ => true
  | e :: es, fs => fs.any (fun f => sameEntry e f) && allEntriesIn es fs
termination_by structural es => es

def existsEntryIn : List (Value × Value) → Value × Value → Bool
  | [], _ => false
  | e :: es, f => sameEntry e f || existsEntryIn es f
termination_by structural es => es

end

/-- The place of the first item that equals `v`. -/
def indexIn? (v : Value) (items : List Value) : Option Nat :=
  items.findIdx? fun w => w.same v

/-! ## Collections -/

mutual

/-- Whether a value may be an element of a set or a key of a dictionary. -/
def isHashable : Value → Bool
  | .list _ | .set _ | .dict _ => false
  | .tuple items => allHashable items
  | _ => true
termination_by structural v => v

def allHashable : List Value → Bool
  | [] => true
  | v :: vs => v.isHashable && allHashable vs
termination_by structural vs => vs

end

/-- Add an element to a set. -/
def insertElement (elements : List Value) (v : Value) : List Value :=
  if (indexIn? v elements).isSome then elements else elements ++ [v]

/-- Add an entry to a dictionary. -/
def insertEntry (key value : Value) : List (Value × Value) → List (Value × Value)
  | [] => [(key, value)]
  | (k, v) :: rest =>
    if k.same key then (k, value) :: rest else (k, v) :: insertEntry key value rest

end Value

end BytecodeAssembler
