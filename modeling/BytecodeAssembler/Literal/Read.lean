import BytecodeAssembler.Literal.Expr.Parser

/-!
# Reading a literal

`Literal.read` gives the value that a text denotes.  The text is one expression, and the expression
is made of constants, collections, `set()`, a sign before a number, and a sum of a real and an
imaginary number.  The ways to fail are kept apart: the text is no expression, or nests too deep to
be read, the expression is too high to be kept, or is no literal, an element or key cannot be
hashed, or an integer is too large for a sum with an imaginary number.
-/

namespace BytecodeAssembler.Literal

/-- Why a text has no value. -/
inductive ReadError where
  /-- The text is no expression. -/
  | malformed
  /-- A line after the first is indented. -/
  | indented
  /-- The text needs too many rules of the grammar at once. -/
  | tooDeep
  /-- The expression has too many levels. -/
  | tooHigh
  /-- The expression is no literal. -/
  | notLiteral
  /-- An element of a set or a key of a dictionary cannot be hashed. -/
  | unhashable
  /-- An integer is beyond the range of floating point numbers. -/
  | tooLarge
deriving DecidableEq

namespace Expr

/-- The value of a number that stands alone; truth values are no numbers here. -/
def plainNumber : Expr → Except ReadError Value
  | .constant (.int n) => .ok (.int n)
  | .constant (.float x) => .ok (.float x)
  | .constant (.complex re im) => .ok (.complex re im)
  | _ => .error .notLiteral

/-- A number with its sign turned. -/
def negated : Value → Value
  | .int n => .int (-n)
  | .float x => .float x.neg
  | .complex re im => .complex re.neg im.neg
  | v => v

/-- The value of a number with one sign at most. -/
def signedNumber : Expr → Except ReadError Value
  | .signed false e => e.plainNumber
  | .signed true e => e.plainNumber.map negated
  | e => e.plainNumber

/-- A real number plus or minus an imaginary one. -/
def complexSum (negative : Bool) (left : Binary64) (re im : Binary64) : Value :=
  if negative then
    .complex (if re = Binary64.zero then left else left.addZero) im.zeroSub
  else .complex left.addZero im

/-- The value of a sum: only a real number on the left and an imaginary one on the right make one.
-/
def sumValue (negative : Bool) (left right : Expr) : Except ReadError Value := do
  let l ← left.signedNumber
  let r ← right.plainNumber
  match l, r with
  | .int n, .complex re im =>
    match Binary64.ofInt? n with
    | some x => .ok (complexSum negative x re im)
    | none => .error .tooLarge
  | .float x, .complex re im => .ok (complexSum negative x re im)
  | _, _ => .error .notLiteral

mutual

/-- The value that an expression denotes. -/
def value : Expr → Except ReadError Value
  | .constant v => .ok v
  | .tuple items => return .tuple (← values items)
  | .list items => return .list (← values items)
  | .set items => return .set (← elementValues [] items)
  | .emptySet => .ok (.set [])
  | .dict entries => return .dict (← entryValues [] entries)
  | .sum negative left right => sumValue negative left right
  | e => e.signedNumber
termination_by structural e => e

def values : List Expr → Except ReadError (List Value)
  | [] => .ok []
  | e :: es => do
    let v ← e.value
    return v :: (← values es)
termination_by structural es => es

/-- The elements of a set, added one by one to those before. -/
def elementValues (before : List Value) : List Expr → Except ReadError (List Value)
  | [] => .ok before
  | e :: es => do
    let v ← e.value
    if v.isHashable then elementValues (Value.insertElement before v) es else .error .unhashable
termination_by structural es => es

/-- The value of a key; a dictionary that is spread out has none. -/
def keyValue : Option Expr → Except ReadError Value
  | some e => e.value
  | none => .error .notLiteral
termination_by structural k => k

def entryValue : Option Expr × Expr → Except ReadError (Value × Value)
  | (k, e) => do
    let key ← keyValue k
    return (key, ← e.value)
termination_by structural e => e

/-- The entries of a dictionary, added one by one to those before. -/
def entryValues (before : List (Value × Value)) :
    List (Option Expr × Expr) → Except ReadError (List (Value × Value))
  | [] => .ok before
  | e :: es => do
    let (k, v) ← entryValue e
    if k.isHashable then entryValues (Value.insertEntry k v before) es else .error .unhashable
termination_by structural es => es

end

end Expr

def isNewline : Token → Bool
  | .newline => true
  | _ => false

def isInvalid : Token → Bool
  | .invalid => true
  | _ => false

/-- The expression that all tokens make. -/
def readAll (fuel detour : Nat) (ts : List Token) : Except ReadError Expr :=
  match ts with
  | .indent :: _ => .error .indented
  | ts =>
    match expressions fuel ⟨3, detour⟩ false ts with
    | .error .malformed => .error .malformed
    | .error .tooDeep => .error .tooDeep
    | .ok (e, rest) =>
      match rest.dropWhile isNewline with
      | [] => .ok e
      | .indent :: _ => .error .indented
      | _ => .error .malformed

/-- The expression of a text.  Tokens that make no expression are read again to find out what is
wrong with them, which takes more rules at once. -/
def parse (cs : List Char) : Except ReadError Expr :=
  let ts := tokens cs
  -- A bracket leads through eight readers, and no token through more.
  let fuel := 16 * (cs.length + 1)
  match readAll fuel 0 ts with
  | .ok e => if e.height ≤ Expr.maxHeight then .ok e else .error .tooHigh
  | .error .tooDeep => .error .tooDeep
  | .error e =>
    if ts.any isInvalid then .error e
    else
      match readAll fuel 1 ts with
      | .error .tooDeep => .error .tooDeep
      | _ => .error e

/-- The value that a text denotes; blanks and tabs at its front do not count.  A NUL character
belongs to no expression. -/
def read (text : String) : Except ReadError Value :=
  let cs := text.toList.dropWhile fun c => c == ' ' || c == '\t'
  if cs.contains '\x00' then .error .malformed
  else do
    let e ← parse cs
    e.value

end BytecodeAssembler.Literal
