import BytecodeAssembler.Literal.Expr
import BytecodeAssembler.Literal.Token.Lexer
import BytecodeAssembler.Literal.Template

/-!
# From tokens to expressions

A reader by descent for the expressions of the Python language.  Every reader takes fuel first and
gives what it read with the tokens after it; depth of calls is all that fuel limits, and each token
costs only a few calls, so `parse` can supply enough of it from the length of the text.

Operators are read by their level: `or` 1, `and` 2, `not` 3, comparisons 4, then `|`, `^`, `&`,
shifts, sums and products up to 10.  Signs and powers bind tighter.

The grammar has one rule for every level and for every part of a construct, and only so many rules
may be open at once (`Depth.limit`).  A `Depth` counts them; every construct adds the number of
rules from itself to the expressions inside it.
-/

namespace BytecodeAssembler.Literal

/-! ## Depth -/

/-- Why no expression could be read. -/
inductive Refusal where
  /-- The tokens make no expression. -/
  | malformed
  /-- Too many rules of the grammar are open at once. -/
  | tooDeep
deriving DecidableEq

/-- How many rules are open where an expression begins, and how many rules every expression takes in
addition: one when the reader looks for common mistakes on the way. -/
structure Depth where
  level : Nat
  detour : Nat

namespace Depth

/-- The most rules that may be open at once. -/
def limit : Nat :=
  6000

/-- The rules from an expression down to the atom that it begins with. -/
def toAtom : Nat :=
  22

def below (rules : Nat) (d : Depth) : Depth :=
  { d with level := d.level + rules }

def above (rules : Nat) (d : Depth) : Depth :=
  { d with level := d.level - rules }

/-- Whether an expression can be looked for here.  The search goes down to its first atom, whether
or not there is one. -/
def check (d : Depth) : Except Refusal Unit :=
  if d.level + toAtom ≤ limit then .ok () else .error .tooDeep

end Depth

/-! ## Operators -/

/-- The expression that an operator makes of its two sides. -/
inductive Operator where
  | sum (negative : Bool)
  /-- An operator that joins any number of sides to one expression. -/
  | chain
  | other

/-- The expression that an operator makes of its sides.  `continues` tells whether the left side was
made by the same operator, without brackets around it. -/
def Operator.apply (continues : Bool) : Operator → Expr → Expr → Expr
  | .sum negative, left, right => .sum negative left right
  | .chain, left, right =>
    if continues then .other (max left.height (1 + right.height))
    else .other (Expr.heightOver [left.height, right.height])
  | .other, left, right => .other (Expr.heightOver [left.height, right.height])

/-- The level of the operator at the front, the operator and the tokens after it. -/
def operatorAt : List Token → Option (Nat × Operator × List Token)
  | .keyword .kwOr :: ts => some (1, .chain, ts)
  | .keyword .kwAnd :: ts => some (2, .chain, ts)
  | .symbol .ordering :: ts => some (4, .chain, ts)
  | .keyword .kwIn :: ts => some (4, .chain, ts)
  | .keyword .kwNot :: .keyword .kwIn :: ts => some (4, .chain, ts)
  | .keyword .kwIs :: .keyword .kwNot :: ts => some (4, .chain, ts)
  | .keyword .kwIs :: ts => some (4, .chain, ts)
  | .symbol .bar :: ts => some (5, .other, ts)
  | .symbol .caret :: ts => some (6, .other, ts)
  | .symbol .ampersand :: ts => some (7, .other, ts)
  | .symbol .shiftLeft :: ts => some (8, .other, ts)
  | .symbol .shiftRight :: ts => some (8, .other, ts)
  | .symbol .plus :: ts => some (9, .sum false, ts)
  | .symbol .minus :: ts => some (9, .sum true, ts)
  | .symbol .star :: ts => some (10, .other, ts)
  | .symbol .slash :: ts => some (10, .other, ts)
  | .symbol .doubleSlash :: ts => some (10, .other, ts)
  | .symbol .percent :: ts => some (10, .other, ts)
  | .symbol .at :: ts => some (10, .other, ts)
  | _ => none

/-- The rules between the left side of an operator of a level and its right side. -/
def rulesToRight (level : Nat) : Nat :=
  if level ≤ 2 then 2 else if level ≤ 4 then 3 else 0

/-- The level of `|`: what may be spread out by a star. -/
def spreadLevel : Nat :=
  5

/-! ## Quoted parts side by side -/

/-- Quoted parts that stand side by side make one constant; texts and bytes do not mix, and a
template makes the whole no literal. -/
inductive Joined where
  | nothing
  | text (value : Text)
  | bytes (value : List UInt8)
  | template (height : Nat)

def Joined.addText (t : Text) : Joined → Except Refusal Joined
  | .nothing => .ok (.text t)
  | .text s => .ok (.text (s ++ t))
  | .bytes _ => .error .malformed
  | .template h => .ok (.template h)

def Joined.addBytes (b : List UInt8) : Joined → Except Refusal Joined
  | .nothing => .ok (.bytes b)
  | .bytes a => .ok (.bytes (a ++ b))
  | _ => .error .malformed

/-- Add a template with expressions of the given heights.  Each lies two levels below. -/
def Joined.addTemplate (sources : List Nat) : Joined → Except Refusal Joined
  | .bytes _ => .error .malformed
  | .template h => .ok (.template (max h (1 + Expr.heightOver sources)))
  | _ => .ok (.template (1 + Expr.heightOver sources))

def Joined.expr : Joined → Except Refusal Expr
  | .nothing => .error .malformed
  | .text t => .ok (.constant (.str t))
  | .bytes b => .ok (.constant (.bytes b))
  | .template h => .ok (.other h)

/-! ## Small readers -/

def expect (s : Symbol) : List Token → Except Refusal (List Token)
  | .symbol s' :: ts => if s = s' then .ok ts else .error .malformed
  | _ => .error .malformed

/-- Whether a loop of a comprehension begins here. -/
def opensLoop : List Token → Bool
  | .keyword .kwFor :: _ | .keyword .kwAsync :: _ => true
  | _ => false

/-- Whether a name is bound here on the way. -/
def opensWalrus : List Token → Bool
  | .name _ :: .symbol .walrus :: _ => true
  | _ => false

/-- Whether a list of expressions without brackets ends here. -/
def endsList : List Token → Bool
  | [] | .newline :: _ | .indent :: _ | .symbol .rightParen :: _ => true
  | _ => false

/-- Whether a bound of a slice is left out here. -/
def endsBound : List Token → Bool
  | .symbol .colon :: _ | .symbol .comma :: _ | .symbol .rightBracket :: _ => true
  | _ => false

/-- What may still come in a list of arguments. -/
inductive ArgumentPhase where
  | positional
  | keyword
  | spread
deriving DecidableEq

/-- How far a list of parameters has come. -/
inductive ParameterPhase where
  /-- Before any star; whether a parameter came, whether a slash may come, whether a default came.
  -/
  | plain (some slash default : Bool)
  /-- Right after a bare star, where a name must come. -/
  | bareStar
  /-- After a star. -/
  | named
deriving DecidableEq

/-- The height of an expression that was read, if it left no token. -/
def heightOfAll : Except Refusal (Expr × List Token) → Except Refusal Nat
  | .ok (e, []) => .ok e.height
  | .ok _ => .error .malformed
  | .error r => .error r

/-- The depth at which the sources of a template begin. -/
def Depth.ofSource : Depth :=
  ⟨4, 0⟩

/-! ## The reader

Readers of parts that hold expressions, and are none, give the height of the highest.
-/

mutual

/-- An expression: a function, or a choice, or an operation. -/
def expression : Nat → Depth → List Token → Except Refusal (Expr × List Token)
  | 0, _, _ => .error .malformed
  | n + 1, d, .keyword .kwLambda :: ts => do
    (d.below d.detour).check
    let (h, ts) ← parameters n d (.plain false true false) ts
    let (e, ts) ← expression n (d.below 2) ts
    .ok (.other (Expr.heightOver [1 + h, e.height]), ts)
  | n + 1, d, ts => do
    let (e, ts) ← operation n (d.below d.detour) 1 ts
    match ts with
    | .keyword .kwIf :: ts => do
      let (c, ts) ← operation n (d.below d.detour) 1 ts
      match ts with
      | .keyword .kwElse :: ts => do
        let (o, ts) ← expression n (d.below 1) ts
        .ok (.other (Expr.heightOver [e.height, c.height, o.height]), ts)
      | _ => .error .malformed
    | _ => .ok (e, ts)

/-- Operators of the given level and above. -/
def operation : Nat → Depth → Nat → List Token → Except Refusal (Expr × List Token)
  | 0, _, _, _ => .error .malformed
  | n + 1, d, level, .keyword .kwNot :: ts =>
    if level ≤ 3 then do
      let (e, ts) ← operation n (d.below 1) 3 ts
      continued n d level 0 (.other (1 + e.height)) ts
    else do
      d.check
      .error .malformed
  | n + 1, d, level, ts => do
    let (e, ts) ← operand n d ts
    continued n d level 0 e ts

/-- The operators that follow a left side, which an operator of level `last` made. -/
def continued : Nat → Depth → Nat → Nat → Expr → List Token → Except Refusal (Expr × List Token)
  | 0, _, _, _, _, _ => .error .malformed
  | n + 1, d, level, last, left, ts =>
    match operatorAt ts with
    | some (l, op, after) =>
      if level ≤ l then do
        let (right, ts) ← operation n (d.below (rulesToRight l)) (l + 1) after
        continued n d level l (op.apply (l == last) left right) ts
      else .ok (left, ts)
    | none => .ok (left, ts)

/-- Signs and powers. -/
def operand : Nat → Depth → List Token → Except Refusal (Expr × List Token)
  | 0, _, _ => .error .malformed
  | n + 1, d, .symbol .plus :: ts => do
    let (e, ts) ← operand n (d.below 1) ts
    .ok (.signed false e, ts)
  | n + 1, d, .symbol .minus :: ts => do
    let (e, ts) ← operand n (d.below 1) ts
    .ok (.signed true e, ts)
  | n + 1, d, .symbol .tilde :: ts => do
    let (e, ts) ← operand n (d.below 1) ts
    .ok (.other (1 + e.height), ts)
  | n + 1, d, ts => do
    let (e, ts) ← awaited n d ts
    match ts with
    | .symbol .doubleStar :: ts => do
      let (e', ts) ← operand n (d.below 2) ts
      .ok (.other (Expr.heightOver [e.height, e'.height]), ts)
    | _ => .ok (e, ts)

def awaited : Nat → Depth → List Token → Except Refusal (Expr × List Token)
  | 0, _, _ => .error .malformed
  | n + 1, d, .keyword .kwAwait :: ts => do
    let (e, ts) ← primary n d ts
    .ok (.other (1 + e.height), ts)
  | n + 1, d, ts => primary n d ts

/-- An atom with attributes, calls and subscripts. -/
def primary : Nat → Depth → List Token → Except Refusal (Expr × List Token)
  | 0, _, _ => .error .malformed
  | n + 1, d, ts => do
    let (e, ts) ← atom n d ts
    trailers n d e ts

def trailers : Nat → Depth → Expr → List Token → Except Refusal (Expr × List Token)
  | 0, _, _, _ => .error .malformed
  | n + 1, d, e, .symbol .dot :: .name _ :: ts => trailers n d (.part (1 + e.height)) ts
  | _ + 1, _, _, .symbol .dot :: _ => .error .malformed
  | n + 1, d, e, .symbol .leftParen :: .symbol .rightParen :: ts => do
    (d.below 24).check
    trailers n d e.callEmpty ts
  | n + 1, d, e, .symbol .leftParen :: ts => do
    let (h, ts) ← arguments n d true .positional ts
    trailers n d (.other (Expr.heightOver [e.height, h])) ts
  | n + 1, d, e, .symbol .leftBracket :: ts => do
    let (h, ts) ← subscripts n (d.below 24) (d.below 27) ts
    trailers n d (.part (Expr.heightOver [e.height, h])) ts
  | _ + 1, _, e, ts => .ok (e, ts)

def atom : Nat → Depth → List Token → Except Refusal (Expr × List Token)
  | 0, _, _ => .error .malformed
  | n + 1, d, ts => do
    d.check
    match ts with
    | .name spelling :: ts => .ok (.name spelling, ts)
    | .constant v :: ts => .ok (.constant v, ts)
    | .symbol .leftParen :: ts => parenthesised n d ts
    | .symbol .leftBracket :: ts => bracketed n d ts
    | .symbol .leftBrace :: ts => braced n d ts
    | ts => joined n d .nothing ts

/-- Quoted parts side by side. -/
def joined : Nat → Depth → Joined → List Token → Except Refusal (Expr × List Token)
  | 0, _, _, _ => .error .malformed
  | n + 1, d, acc, .text t :: ts => do
    (d.below 2).check
    let acc ← acc.addText t
    joined n d acc ts
  | n + 1, d, acc, .bytes b :: ts => do
    (d.below 2).check
    let acc ← acc.addBytes b
    joined n d acc ts
  | n + 1, d, acc, .template raw body :: ts => do
    (d.below 2).check
    match Template.sources? raw body with
    | none => .error .malformed
    | some sources => do
      let heights ← sources.mapM fun source =>
        heightOfAll (atom n Depth.ofSource (tokens ('(' :: source ++ [')'])))
      let acc ← acc.addTemplate heights
      joined n d acc ts
  | _ + 1, _, acc, ts => do
    let e ← acc.expr
    .ok (e, ts)

/-- After an opening parenthesis: a group, a tuple, a generator or a yield. -/
def parenthesised : Nat → Depth → List Token → Except Refusal (Expr × List Token)
  | 0, _, _ => .error .malformed
  | _ + 1, d, .symbol .rightParen :: ts => do
    (d.below 28).check
    .ok (.tuple [], ts)
  | n + 1, d, .keyword .kwYield :: ts => do
    (d.below 28).check
    let (h, ts) ← yielded n d ts
    let ts ← expect .rightParen ts
    .ok (.other (1 + h), ts)
  | n + 1, d, ts => do
    let (e, ts) ← element n (d.below 22) ts
    match ts with
    | .symbol .rightParen :: ts => if e.isStarred then .error .malformed else .ok (e, ts)
    | .symbol .comma :: ts => do
      let (es, ts) ← elements n (d.below 24) (d.below 25) .rightParen ts
      .ok (.tuple (e :: es), ts)
    | ts =>
      if e.isStarred then .error .malformed
      else do
        let (h, ts) ← loops n d ts
        let ts ← expect .rightParen ts
        .ok (.other (Expr.heightOver [e.height, h]), ts)

/-- After an opening bracket: a list or a comprehension. -/
def bracketed : Nat → Depth → List Token → Except Refusal (Expr × List Token)
  | 0, _, _ => .error .malformed
  | _ + 1, d, .symbol .rightBracket :: ts => do
    (d.below 29).check
    .ok (.list [], ts)
  | n + 1, d, ts => do
    let (e, ts) ← element n (d.below 23) ts
    match ts with
    | .symbol .rightBracket :: ts => .ok (.list [e], ts)
    | .symbol .comma :: ts => do
      let (es, ts) ← elements n (d.below 24) (d.below 24) .rightBracket ts
      .ok (.list (e :: es), ts)
    | ts =>
      if e.isStarred then .error .malformed
      else do
        let (h, ts) ← loops n d ts
        let ts ← expect .rightBracket ts
        .ok (.other (Expr.heightOver [e.height, h]), ts)

/-- After an opening brace: a dictionary, a set or a comprehension. -/
def braced : Nat → Depth → List Token → Except Refusal (Expr × List Token)
  | 0, _, _ => .error .malformed
  | _ + 1, d, .symbol .rightBrace :: ts => do
    (d.below 29).check
    .ok (.dict [], ts)
  | n + 1, d, .symbol .doubleStar :: ts => do
    let (es, ts) ← entries n (d.below 23) (d.below 24) (.symbol .doubleStar :: ts)
    .ok (.dict es, ts)
  | n + 1, d, ts => do
    let bindsName := opensWalrus ts
    let (e, ts) ← element n (d.below 23) ts
    match ts with
    | .symbol .colon :: ts =>
      if e.isStarred || bindsName then .error .malformed
      else do
        let (v, ts) ← expression n (d.below 29) ts
        match ts with
        | .symbol .rightBrace :: ts => .ok (.dict [(some e, v)], ts)
        | .symbol .comma :: ts => do
          let (es, ts) ← entries n (d.below 24) (d.below 24) ts
          .ok (.dict ((some e, v) :: es), ts)
        | ts => do
          let (h, ts) ← loops n d ts
          let ts ← expect .rightBrace ts
          .ok (.other (Expr.heightOver [e.height, v.height, h]), ts)
    | .symbol .rightBrace :: ts => .ok (.set [e], ts)
    | .symbol .comma :: ts => do
      let (es, ts) ← elements n (d.below 24) (d.below 24) .rightBrace ts
      .ok (.set (e :: es), ts)
    | ts =>
      if e.isStarred then .error .malformed
      else do
        let (h, ts) ← loops n d ts
        let ts ← expect .rightBrace ts
        .ok (.other (Expr.heightOver [e.height, h]), ts)

/-- The entries of a dictionary up to its closing brace; those after the first are read at the depth
`next`. -/
def entries : Nat → Depth → Depth → List Token →
    Except Refusal (List (Option Expr × Expr) × List Token)
  | 0, _, _, _ => .error .malformed
  | _ + 1, d, _, .symbol .rightBrace :: ts => do
    (d.below 6).check
    .ok ([], ts)
  | n + 1, d, next, .symbol .doubleStar :: ts => do
    let (e, ts) ← operation n d spreadLevel ts
    match ts with
    | .symbol .comma :: ts => do
      let (es, ts) ← entries n next next ts
      .ok ((none, e) :: es, ts)
    | ts => do
      let ts ← expect .rightBrace ts
      .ok ([(none, e)], ts)
  | n + 1, d, next, ts => do
    let (k, ts) ← expression n (d.below 6) ts
    let ts ← expect .colon ts
    let (v, ts) ← expression n (d.below 6) ts
    match ts with
    | .symbol .comma :: ts => do
      let (es, ts) ← entries n next next ts
      .ok ((some k, v) :: es, ts)
    | ts => do
      let ts ← expect .rightBrace ts
      .ok ([(some k, v)], ts)

/-- An expression, or a binding of a name to one. -/
def binding : Nat → Depth → List Token → Except Refusal (Expr × List Token)
  | 0, _, _ => .error .malformed
  | n + 1, d, .name _ :: .symbol .walrus :: ts => do
    let (e, ts) ← expression n (d.below 2) ts
    .ok (.other (1 + e.height), ts)
  | n + 1, d, ts => expression n (d.below 1) ts

/-- An element of a collection, which may be spread out. -/
def element : Nat → Depth → List Token → Except Refusal (Expr × List Token)
  | 0, _, _ => .error .malformed
  | n + 1, d, .symbol .star :: ts => do
    let (e, ts) ← operation n d spreadLevel ts
    .ok (.starred e, ts)
  | n + 1, d, ts => binding n (d.below (5 + d.detour)) ts

/-- Elements up to a closing symbol, those after the first at the depth `next`; the last may have a
comma after it. -/
def elements : Nat → Depth → Depth → Symbol → List Token → Except Refusal (List Expr × List Token)
  | 0, _, _, _, _ => .error .malformed
  | n + 1, d, next, close, ts =>
    match expect close ts with
    | .ok ts => do
      (d.below 6).check
      .ok ([], ts)
    | .error _ => do
      let (e, ts) ← element n d ts
      match ts with
      | .symbol .comma :: ts => do
        let (es, ts) ← elements n next next close ts
        .ok (e :: es, ts)
      | ts => do
        let ts ← expect close ts
        .ok ([e], ts)

/-- What follows `yield`. -/
def yielded : Nat → Depth → List Token → Except Refusal (Nat × List Token)
  | 0, _, _ => .error .malformed
  | n + 1, d, .keyword .kwFrom :: ts => do
    let (e, ts) ← expression n (d.below 27) ts
    .ok (e.height, ts)
  | n + 1, d, ts =>
    if endsList ts then do
      (d.below 29).check
      .ok (0, ts)
    else do
      let (e, ts) ← expressions n (d.below 29) true ts
      .ok (e.height, ts)

/-- Expressions with commas between them, without brackets around; whether there was a comma tells a
tuple from a single expression. -/
def expressions : Nat → Depth → Bool → List Token → Except Refusal (Expr × List Token)
  | 0, _, _, _ => .error .malformed
  | n + 1, d, starAllowed, ts => do
    let (e, ts) ← spreadable n d starAllowed ts
    match ts with
    | .symbol .comma :: ts => do
      let (es, ts) ← moreExpressions n (d.below 2) starAllowed ts
      .ok (.tuple (e :: es), ts)
    | ts => .ok (e, ts)

def moreExpressions : Nat → Depth → Bool → List Token → Except Refusal (List Expr × List Token)
  | 0, _, _, _ => .error .malformed
  | n + 1, d, starAllowed, ts =>
    if endsList ts then do
      d.check
      .ok ([], ts)
    else do
      let (e, ts) ← spreadable n d starAllowed ts
      match ts with
      | .symbol .comma :: ts => do
        let (es, ts) ← moreExpressions n d starAllowed ts
        .ok (e :: es, ts)
      | ts => .ok ([e], ts)

def spreadable : Nat → Depth → Bool → List Token → Except Refusal (Expr × List Token)
  | 0, _, _, _ => .error .malformed
  | n + 1, d, true, .symbol .star :: ts => do
    let (e, ts) ← operation n (d.above 5) spreadLevel ts
    .ok (.starred e, ts)
  | n + 1, d, _, ts => expression n d ts

/-- The loops and conditions of a comprehension, one loop at least. -/
def loops : Nat → Depth → List Token → Except Refusal (Nat × List Token)
  | 0, _, _ => .error .malformed
  | n + 1, d, .keyword .kwAsync :: .keyword .kwFor :: ts => loopFrom n d ts
  | n + 1, d, .keyword .kwFor :: ts => loopFrom n d ts
  | _ + 1, _, _ => .error .malformed

/-- A loop from its targets on, and the loops after it. -/
def loopFrom : Nat → Depth → List Token → Except Refusal (Nat × List Token)
  | 0, _, _ => .error .malformed
  | n + 1, d, ts => do
    let (t, ts) ← targets n (d.below 11) ts
    let (e, ts) ← operation n (d.below 27) 1 ts
    let (c, ts) ← conditions n (d.below 29) ts
    let h := Expr.heightOver [t, e.height, c]
    if opensLoop ts then do
      let (h', ts) ← loops n d ts
      .ok (max h h', ts)
    else .ok (h, ts)

def conditions : Nat → Depth → List Token → Except Refusal (Nat × List Token)
  | 0, _, _ => .error .malformed
  | n + 1, d, .keyword .kwIf :: ts => do
    let (e, ts) ← operation n d 1 ts
    let (h, ts) ← conditions n d ts
    .ok (max e.height h, ts)
  | _ + 1, _, ts => .ok (0, ts)

/-- The targets of a loop up to and with its `in`. -/
def targets : Nat → Depth → List Token → Except Refusal (Nat × List Token)
  | 0, _, _ => .error .malformed
  | n + 1, d, ts => do
    let (h, ts) ← target n d ts
    match ts with
    | .keyword .kwIn :: ts => .ok (h, ts)
    | .symbol .comma :: .keyword .kwIn :: ts => .ok (1 + h, ts)
    | .symbol .comma :: ts => do
      let (h', ts) ← targets n d ts
      .ok (max (1 + h) h', ts)
    | _ => .error .malformed

def target : Nat → Depth → List Token → Except Refusal (Nat × List Token)
  | 0, _, _ => .error .malformed
  | n + 1, d, .symbol .star :: ts => do
    let (e, ts) ← primary n (d.below 2) ts
    if e.isTarget then .ok (1 + e.height, ts) else .error .malformed
  | n + 1, d, ts => do
    let (e, ts) ← primary n d ts
    if e.isTarget then .ok (e.height, ts) else .error .malformed

/-- The arguments of a call, one at least, up to and with the closing parenthesis.  A generator may
only be the first and last of them. -/
def arguments : Nat → Depth → Bool → ArgumentPhase → List Token → Except Refusal (Nat × List Token)
  | 0, _, _, _, _ => .error .malformed
  | n + 1, d, first, phase, .name _ :: .symbol .assign :: ts => do
    let (e, ts) ← expression n (d.below (if first then 27 else 28)) ts
    nextArgument n d (if phase = .spread then .spread else .keyword) (1 + e.height) ts
  | n + 1, d, first, phase, .symbol .star :: ts =>
    if phase = .spread then .error .malformed
    else do
      let (e, ts) ← expression n (d.below (if first then 27 else 28)) ts
      nextArgument n d phase (1 + e.height) ts
  | n + 1, d, first, _, .symbol .doubleStar :: ts => do
    let (e, ts) ← expression n (d.below (if first then 27 else 28)) ts
    nextArgument n d .spread (1 + e.height) ts
  | n + 1, d, first, phase, ts =>
    if phase = .positional then do
      let (e, ts) ← binding n (d.below (if first then 23 else 27)) ts
      if first && opensLoop ts then do
        let (h, ts) ← loops n (d.above 2) ts
        let ts ← expect .rightParen ts
        .ok (Expr.heightOver [e.height, h], ts)
      else nextArgument n d .positional e.height ts
    else .error .malformed

/-- The arguments after one of the given height. -/
def nextArgument : Nat → Depth → ArgumentPhase → Nat → List Token →
    Except Refusal (Nat × List Token)
  | 0, _, _, _, _ => .error .malformed
  | _ + 1, _, _, h, .symbol .rightParen :: ts => .ok (h, ts)
  | _ + 1, d, _, h, .symbol .comma :: .symbol .rightParen :: ts => do
    (d.below 28).check
    .ok (h, ts)
  | n + 1, d, phase, h, .symbol .comma :: ts => do
    let (h', ts) ← arguments n d false phase ts
    .ok (max h h', ts)
  | _ + 1, _, _, _, _ => .error .malformed

/-- The subscripts after an opening bracket, one at least, up to and with the closing one; those
after the first are read at the depth `next`. -/
def subscripts : Nat → Depth → Depth → List Token → Except Refusal (Nat × List Token)
  | 0, _, _, _ => .error .malformed
  | n + 1, d, next, ts => do
    let (h, ts) ← subscript n d ts
    match ts with
    | .symbol .rightBracket :: ts => .ok (h, ts)
    | .symbol .comma :: .symbol .rightBracket :: ts => do
      next.check
      .ok (1 + h, ts)
    | .symbol .comma :: ts => do
      let (h', ts) ← subscripts n next next ts
      .ok (max (1 + h) h', ts)
    | _ => .error .malformed

def subscript : Nat → Depth → List Token → Except Refusal (Nat × List Token)
  | 0, _, _ => .error .malformed
  | n + 1, d, .symbol .star :: ts => do
    let (e, ts) ← expression n (d.below 2) ts
    .ok (1 + e.height, ts)
  | n + 1, d, .symbol .colon :: ts => do
    d.check
    slice n d 0 ts
  | n + 1, d, .name _ :: .symbol .walrus :: ts => do
    let (e, ts) ← expression n (d.below 2) ts
    .ok (1 + e.height, ts)
  | n + 1, d, ts => do
    let (e, ts) ← expression n d ts
    match ts with
    | .symbol .colon :: ts => slice n d e.height ts
    | ts => .ok (e.height, ts)

/-- A slice from after its first colon on; the bound before it has the given height. -/
def slice : Nat → Depth → Nat → List Token → Except Refusal (Nat × List Token)
  | 0, _, _, _ => .error .malformed
  | n + 1, d, lower, ts => do
    let (upper, ts) ← bound n d ts
    match ts with
    | .symbol .colon :: ts => do
      let (step, ts) ← bound n (d.below 1) ts
      .ok (Expr.heightOver [lower, upper, step], ts)
    | ts => .ok (Expr.heightOver [lower, upper], ts)

def bound : Nat → Depth → List Token → Except Refusal (Nat × List Token)
  | 0, _, _ => .error .malformed
  | n + 1, d, ts =>
    if endsBound ts then do
      d.check
      .ok (0, ts)
    else do
      let (e, ts) ← expression n d ts
      .ok (e.height, ts)

/-- The parameters of a function up to and with the colon. -/
def parameters : Nat → Depth → ParameterPhase → List Token → Except Refusal (Nat × List Token)
  | 0, _, _, _ => .error .malformed
  | _ + 1, _, .bareStar, .symbol .colon :: _ => .error .malformed
  | _ + 1, _, _, .symbol .colon :: ts => .ok (0, ts)
  | n + 1, d, phase, .name _ :: .symbol .assign :: ts => do
    let (e, ts) ← expression n (d.below 8) ts
    match phase with
    | .plain _ slash _ => nextParameter n d (.plain true slash true) e.height ts
    | _ => nextParameter n d .named e.height ts
  | n + 1, d, .plain _ slash false, .name _ :: ts =>
    nextParameter n d (.plain true slash false) 1 ts
  | _ + 1, _, .plain _ _ true, .name _ :: _ => .error .malformed
  | n + 1, d, _, .name _ :: ts => nextParameter n d .named 1 ts
  | n + 1, d, .plain true true default, .symbol .slash :: ts =>
    nextParameter n d (.plain true false default) 0 ts
  | n + 1, d, .plain _ _ _, .symbol .star :: .name _ :: ts => nextParameter n d .named 1 ts
  | n + 1, d, .plain _ _ _, .symbol .star :: .symbol .comma :: ts => parameters n d .bareStar ts
  | _ + 1, _, .bareStar, .symbol .doubleStar :: _ => .error .malformed
  | _ + 1, _, _, .symbol .doubleStar :: .name _ :: .symbol .colon :: ts => .ok (1, ts)
  | _ + 1, _, _, .symbol .doubleStar :: .name _ :: .symbol .comma :: .symbol .colon :: ts =>
    .ok (1, ts)
  | _ + 1, _, _, _ => .error .malformed

/-- The parameters after one of the given height. -/
def nextParameter : Nat → Depth → ParameterPhase → Nat → List Token →
    Except Refusal (Nat × List Token)
  | 0, _, _, _, _ => .error .malformed
  | _ + 1, _, _, h, .symbol .colon :: ts => .ok (h, ts)
  | n + 1, d, phase, h, .symbol .comma :: ts => do
    let (h', ts) ← parameters n d phase ts
    .ok (max h h', ts)
  | _ + 1, _, _, _, _ => .error .malformed

end

end BytecodeAssembler.Literal
