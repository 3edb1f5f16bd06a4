import BytecodeAssembler.Literal.Value

/-!
# Expressions

`Expr` keeps of an expression what a literal may be made of, and what tells whether an expression
can be assigned to.  All else is `other`: it is a well-formed expression, and no literal.  Only its
height is kept, since an expression that is too high is refused (`Expr.maxHeight`).
-/

namespace BytecodeAssembler.Literal

inductive Expr where
  | constant (value : Value)
  | name (spelling : List Char)
  /-- An attribute or a subscript of something. -/
  | part (height : Nat)
  | starred (body : Expr)
  | tuple (items : List Expr)
  | list (items : List Expr)
  | set (items : List Expr)
  /-- Keys with their values; a dictionary that is spread out has no key. -/
  | dict (entries : List (Option Expr × Expr))
  /-- A sign before an expression. -/
  | signed (negative : Bool) (body : Expr)
  /-- A sum, or a difference. -/
  | sum (negative : Bool) (left right : Expr)
  /-- The call `set()`. -/
  | emptySet
  | other (height : Nat)

namespace Expr

/-! ## Height -/

/-- The most levels that an expression may have. -/
def maxHeight : Nat :=
  2975

/-- The height of an expression over parts of the given heights. -/
def heightOver (parts : List Nat) : Nat :=
  1 + parts.foldl max 0

mutual

/-- The number of levels of an expression; brackets around an expression add none. -/
def height : Expr → Nat
  | .constant _ | .name _ => 1
  | .part h | .other h => h
  | .emptySet => 2
  | .starred body | .signed _ body => 1 + body.height
  | .tuple items | .list items | .set items => 1 + itemsHeight items
  | .dict entries => 1 + entriesHeight entries
  | .sum _ left right => 1 + max left.height right.height
termination_by structural e => e

def itemsHeight : List Expr → Nat
  | [] => 0
  | e :: es => max e.height (itemsHeight es)
termination_by structural es => es

def keyHeight : Option Expr → Nat
  | some e => e.height
  | none => 0
termination_by structural k => k

def entryHeight : Option Expr × Expr → Nat
  | (k, e) => max (keyHeight k) e.height
termination_by structural e => e

def entriesHeight : List (Option Expr × Expr) → Nat
  | [] => 0
  | e :: es => max (entryHeight e) (entriesHeight es)
termination_by structural es => es

end

/-! ## Targets -/

mutual

/-- Whether an expression can be the target of a loop. -/
def isTarget : Expr → Bool
  | .name _ | .part _ => true
  | .tuple items | .list items => areTargets items
  | _ => false
termination_by structural e => e

def isStarredTarget : Expr → Bool
  | .starred body => body.isTarget
  | _ => false
termination_by structural e => e

def areTargets : List Expr → Bool
  | [] => true
  | e :: es => (e.isTarget || e.isStarredTarget) && areTargets es
termination_by structural es => es

end

def isStarred : Expr → Bool
  | .starred _ => true
  | _ => false

/-! ## The name of the set type

Names that differ only in compatibility variants of letters, such as superscript or mathematical
ones, are the same name.
-/

def variantsOfS : List Nat :=
  [0x17f, 0x2e2, 0x209b, 0xff53, 0x1d42c, 0x1d460, 0x1d494, 0x1d4c8, 0x1d4fc, 0x1d530, 0x1d564,
   0x1d598, 0x1d5cc, 0x1d600, 0x1d634, 0x1d668, 0x1d69c]

def variantsOfE : List Nat :=
  [0x1d49, 0x2091, 0x212f, 0x2147, 0xff45, 0x1d41e, 0x1d452, 0x1d486, 0x1d4ee, 0x1d522, 0x1d556,
   0x1d58a, 0x1d5be, 0x1d5f2, 0x1d626, 0x1d65a, 0x1d68e]

def variantsOfT : List Nat :=
  [0x1d57, 0x209c, 0xff54, 0x1d42d, 0x1d461, 0x1d495, 0x1d4c9, 0x1d4fd, 0x1d531, 0x1d565, 0x1d599,
   0x1d5cd, 0x1d601, 0x1d635, 0x1d669, 0x1d69d]

/-- Whether a spelling is the name of the set type. -/
def namesSet : List Char → Bool
  | [s, e, t] =>
    (s == 's' || variantsOfS.contains s.toNat) && (e == 'e' || variantsOfE.contains e.toNat) &&
      (t == 't' || variantsOfT.contains t.toNat)
  | _ => false

/-- The expression that a call with no argument makes. -/
def callEmpty : Expr → Expr
  | .name spelling => if namesSet spelling then .emptySet else .other 2
  | e => .other (1 + e.height)

end Expr

end BytecodeAssembler.Literal
