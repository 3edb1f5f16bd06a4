import BytecodeAssembler.Literal.Value

/-!
# Tokens of an expression

A literal is written as an expression of the Python language.  Its tokens are names, values that
stand for themselves, quoted texts and bytes (already decoded), templates (quoted texts with
expressions inside), keywords, symbols and the marks of the line structure.  `invalid` stands where
no token could be read; it is always the last token.
-/

namespace BytecodeAssembler.Literal

inductive Keyword where
  | kwAnd
  | kwAsync
  | kwAwait
  | kwElse
  | kwFor
  | kwFrom
  | kwIf
  | kwIn
  | kwIs
  | kwLambda
  | kwNot
  | kwOr
  | kwYield
  /-- A keyword that begins or belongs to a statement. -/
  | reserved
deriving DecidableEq

inductive Symbol where
  | leftParen
  | rightParen
  | leftBracket
  | rightBracket
  | leftBrace
  | rightBrace
  | comma
  | colon
  | dot
  | assign
  | walrus
  | star
  | doubleStar
  | plus
  | minus
  | tilde
  | at
  | slash
  | doubleSlash
  | percent
  | ampersand
  | bar
  | caret
  | shiftLeft
  | shiftRight
  /-- One of the six orderings. -/
  | ordering
  /-- A symbol that no expression holds. -/
  | foreign
deriving DecidableEq

inductive Token where
  | name (spelling : List Char)
  | constant (value : Value)
  | text (value : Text)
  | bytes (value : List UInt8)
  | template (raw : Bool) (body : List Char)
  | keyword (word : Keyword)
  | symbol (symbol : Symbol)
  | newline
  | indent
  | invalid

/-- The token of a word: a keyword, a constant or a name. -/
def Token.ofWord (spelling : List Char) : Token :=
  match String.ofList spelling with
  | "and" => .keyword .kwAnd
  | "async" => .keyword .kwAsync
  | "await" => .keyword .kwAwait
  | "else" => .keyword .kwElse
  | "for" => .keyword .kwFor
  | "from" => .keyword .kwFrom
  | "if" => .keyword .kwIf
  | "in" => .keyword .kwIn
  | "is" => .keyword .kwIs
  | "lambda" => .keyword .kwLambda
  | "not" => .keyword .kwNot
  | "or" => .keyword .kwOr
  | "yield" => .keyword .kwYield
  | "True" => .constant (.bool true)
  | "False" => .constant (.bool false)
  | "None" => .constant .none
  | "as" | "assert" | "break" | "class" | "continue" | "def" | "del" | "elif" | "except"
  | "finally" | "global" | "import" | "nonlocal" | "pass" | "raise" | "return" | "try" | "while"
  | "with" => .keyword .reserved
  | _ => .name spelling

end BytecodeAssembler.Literal
