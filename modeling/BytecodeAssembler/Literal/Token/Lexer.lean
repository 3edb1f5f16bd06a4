import BytecodeAssembler.Literal.Token
import BytecodeAssembler.Literal.Token.Escape
import BytecodeAssembler.Text.Mark

/-!
# From characters to tokens

`tokens` cuts an expression into tokens.  A line break ends the line only outside brackets, a
comment runs to the end of its line, and a backslash before a line break joins two lines.  A line
that opens with blanks gives the mark `indent`; lines without a token give nothing.  Where a line is
joined to the next before its first token, the blanks of both count.  Where no token can be read,
or a bracket is still open at the end, the list ends with `invalid`.
-/

namespace BytecodeAssembler.Literal

/-! ## Words and quotes -/

def isWordStart (c : Char) : Bool :=
  c.isAlpha || c == '_' || 0x80 ≤ c.toNat

/-- Whether the characters of a word make an identifier. -/
def isIdentifier (word : List Char) : Bool :=
  match word with
  | [] => false
  | c :: cs => Text.isIdentifierStart c && cs.all Text.isIdentifierRest

/-- The marks before an opening quote. -/
structure QuoteMarks where
  raw : Bool
  bytes : Bool
  template : Bool

/-- The marks that a word spells, in any case. -/
def quoteMarks? (word : List Char) : Option QuoteMarks :=
  match word.map Char.toLower with
  | [] | ['u'] => some ⟨false, false, false⟩
  | ['r'] => some ⟨true, false, false⟩
  | ['b'] => some ⟨false, true, false⟩
  | ['f'] => some ⟨false, false, true⟩
  | ['b', 'r'] | ['r', 'b'] => some ⟨true, true, false⟩
  | ['f', 'r'] | ['r', 'f'] => some ⟨true, false, true⟩
  | _ => none

/-- The characters up to the closing quote, and what follows it.  A backslash keeps the next
character from closing the quote. -/
def untilQuote (quote : Char) : List Char → Option (List Char × List Char)
  | [] => none
  | '\\' :: c :: cs => (untilQuote quote cs).map fun (body, rest) => ('\\' :: c :: body, rest)
  | c :: cs =>
    if c == quote then some ([], cs)
    else if c == '\n' || c == '\\' then none
    else (untilQuote quote cs).map fun (body, rest) => (c :: body, rest)

/-- The same for a quote written three times, which may span lines. -/
def untilTripleQuote (quote : Char) : List Char → Option (List Char × List Char)
  | [] => none
  | '\\' :: c :: cs =>
    (untilTripleQuote quote cs).map fun (body, rest) => ('\\' :: c :: body, rest)
  | c :: cs =>
    if c == quote && [quote, quote].isPrefixOf cs then some ([], cs.drop 2)
    else if c == '\\' then none
    else (untilTripleQuote quote cs).map fun (body, rest) => (c :: body, rest)

/-- The token of a quoted body. -/
def quotedToken (marks : QuoteMarks) (body : List Char) : Token :=
  if marks.template then .template marks.raw body
  else if marks.bytes then
    if body.any fun c => 0x80 ≤ c.toNat then .invalid
    else if marks.raw then .bytes (plainBytes body)
    else
      match unescapeBytes body with
      | some b => .bytes b
      | none => .invalid
  else if marks.raw then .text (Text.ofChars body)
  else
    match unescapeText body with
    | some t => .text t
    | none => .invalid

/-- The quoted token at an opening quote, and what follows it. -/
def quotedAt (marks : QuoteMarks) (quote : Char) (cs : List Char) : Option (Token × List Char) :=
  if [quote, quote].isPrefixOf cs then
    (untilTripleQuote quote (cs.drop 2)).map fun (body, rest) => (quotedToken marks body, rest)
  else (untilQuote quote cs).map fun (body, rest) => (quotedToken marks body, rest)

/-- A word, or the quoted token that its letters introduce. -/
def wordOrQuoted (cs : List Char) : Option (Token × List Char) :=
  let word := cs.takeWhile isWordLike
  let rest := cs.dropWhile isWordLike
  let asWord := if isIdentifier word then some (Token.ofWord word, rest) else none
  match rest with
  | q :: after =>
    if q == '\'' || q == '"' then
      match quoteMarks? word with
      | some marks => quotedAt marks q after
      | none => asWord
    else asWord
  | [] => asWord

/-! ## Symbols -/

/-- The symbol at the front of a text, the longest one, and what follows it. -/
def symbolAt (cs : List Char) : Option (Token × List Char) :=
  match cs with
  | '.' :: '.' :: '.' :: rest => some (.constant .ellipsis, rest)
  | '*' :: '*' :: '=' :: rest => some (.symbol .foreign, rest)
  | '/' :: '/' :: '=' :: rest => some (.symbol .foreign, rest)
  | '<' :: '<' :: '=' :: rest => some (.symbol .foreign, rest)
  | '>' :: '>' :: '=' :: rest => some (.symbol .foreign, rest)
  | '*' :: '*' :: rest => some (.symbol .doubleStar, rest)
  | '/' :: '/' :: rest => some (.symbol .doubleSlash, rest)
  | '<' :: '<' :: rest => some (.symbol .shiftLeft, rest)
  | '>' :: '>' :: rest => some (.symbol .shiftRight, rest)
  | '<' :: '=' :: rest => some (.symbol .ordering, rest)
  | '<' :: '>' :: rest => some (.symbol .foreign, rest)
  | '>' :: '=' :: rest => some (.symbol .ordering, rest)
  | '=' :: '=' :: rest => some (.symbol .ordering, rest)
  | '!' :: '=' :: rest => some (.symbol .ordering, rest)
  | ':' :: '=' :: rest => some (.symbol .walrus, rest)
  | '-' :: '>' :: rest => some (.symbol .foreign, rest)
  | c :: '=' :: rest =>
    if c ∈ ['+', '-', '*', '/', '%', '&', '|', '^', '@'] then some (.symbol .foreign, rest)
    else single c ('=' :: rest)
  | c :: rest => single c rest
  | [] => none
where
  single (c : Char) (rest : List Char) : Option (Token × List Char) :=
    match c with
    | ',' => some (.symbol .comma, rest)
    | ':' => some (.symbol .colon, rest)
    | '.' => some (.symbol .dot, rest)
    | '=' => some (.symbol .assign, rest)
    | '*' => some (.symbol .star, rest)
    | '+' => some (.symbol .plus, rest)
    | '-' => some (.symbol .minus, rest)
    | '~' => some (.symbol .tilde, rest)
    | '@' => some (.symbol .at, rest)
    | '/' => some (.symbol .slash, rest)
    | '%' => some (.symbol .percent, rest)
    | '&' => some (.symbol .ampersand, rest)
    | '|' => some (.symbol .bar, rest)
    | '^' => some (.symbol .caret, rest)
    | '<' => some (.symbol .ordering, rest)
    | '>' => some (.symbol .ordering, rest)
    | ';' => some (.symbol .foreign, rest)
    | _ => none

/-! ## Brackets -/

inductive Bracket where
  | paren
  | square
  | curly
deriving DecidableEq

/-- The most brackets that may be open at once. -/
def maxNesting : Nat :=
  200

/-- An opening bracket and its symbol. -/
def opening? (c : Char) : Option (Bracket × Symbol) :=
  if c == '(' then some (.paren, .leftParen)
  else if c == '[' then some (.square, .leftBracket)
  else if c == '\x7b' then some (.curly, .leftBrace)
  else none

/-- A closing bracket and its symbol. -/
def closing? (c : Char) : Option (Bracket × Symbol) :=
  if c == ')' then some (.paren, .rightParen)
  else if c == ']' then some (.square, .rightBracket)
  else if c == '\x7d' then some (.curly, .rightBrace)
  else none

/-! ## The whole text -/

/-- Where the reader stands: within a line, or at its start.  At the start, `joined` tells whether
an earlier line that was joined to this one is indented, and `indented` whether this one is; a form
feed takes back the second only. -/
inductive Place where
  | lineStart (joined indented : Bool)
  | within

/-- What a backslash joins to its line: the text after the line break, which must not be empty. -/
def joinedLine? : List Char → Option (List Char)
  | '\n' :: c :: cs => some (c :: cs)
  | _ => none

/-- The token at the front of a text that begins with neither a blank, a break, a comment nor a
bracket. -/
def plainToken (cs : List Char) : Option (Token × List Char) :=
  match cs with
  | [] => none
  | c :: rest =>
    if isWordStart c then wordOrQuoted cs
    else if c.isDigit then (number cs).map fun (v, rest) => (.constant v, rest)
    else if c == '\'' || c == '"' then quotedAt ⟨false, false, false⟩ c rest
    else if c == '.' && (rest.head?.map Char.isDigit).getD false then
      (number cs).map fun (v, rest) => (.constant v, rest)
    else symbolAt cs

/-- The tokens from a place on, with the brackets open there, the innermost first.  Each step uses
up at least one character, so their count is fuel enough. -/
def tokensFrom : Nat → Place → List Bracket → List Char → List Token
  | 0, _, _, _ => []
  | fuel + 1, .lineStart joined indented, brackets, cs =>
    match cs with
    | [] => if joined || indented then [.indent] else []
    | c :: rest =>
      if c == ' ' || c == '\t' then tokensFrom fuel (.lineStart joined true) brackets rest
      else if c == '\x0c' then tokensFrom fuel (.lineStart joined false) brackets rest
      else if c == '\n' then tokensFrom fuel (.lineStart false false) brackets rest
      else if c == '#' then
        tokensFrom fuel (.lineStart false false) brackets (rest.dropWhile (· != '\n'))
      else if c == '\\' then
        match joinedLine? rest with
        | some after => tokensFrom fuel (.lineStart (joined || indented) indented) brackets after
        | none => [.invalid]
      else if joined || indented then .indent :: tokensFrom fuel .within brackets cs
      else tokensFrom fuel .within brackets cs
  | fuel + 1, .within, brackets, cs =>
    match cs with
    | [] => if brackets.isEmpty then [] else [.invalid]
    | c :: rest =>
      if c == ' ' || c == '\t' || c == '\x0c' then tokensFrom fuel .within brackets rest
      else if c == '\n' then
        if brackets.isEmpty then .newline :: tokensFrom fuel (.lineStart false false) brackets rest
        else tokensFrom fuel .within brackets rest
      else if c == '#' then tokensFrom fuel .within brackets (rest.dropWhile (· != '\n'))
      else if c == '\\' then
        match joinedLine? rest with
        | some after => tokensFrom fuel .within brackets after
        | none => [.invalid]
      else
        match opening? c, closing? c with
        | some (b, s), _ =>
          if maxNesting ≤ brackets.length then [.invalid]
          else .symbol s :: tokensFrom fuel .within (b :: brackets) rest
        | none, some (b, s) =>
          match brackets with
          | b' :: outer =>
            if b = b' then .symbol s :: tokensFrom fuel .within outer rest else [.invalid]
          | [] => [.invalid]
        | none, none =>
          match plainToken cs with
          | some (.invalid, _) => [.invalid]
          | some (token, rest) => token :: tokensFrom fuel .within brackets rest
          | none => [.invalid]

/-- One line feed for every way to break a line. -/
def unifyBreaks : List Char → List Char
  | [] => []
  | '\r' :: '\n' :: cs => '\n' :: unifyBreaks cs
  | c :: cs => (if c == '\r' then '\n' else c) :: unifyBreaks cs

/-- The tokens of an expression.  The start of a line takes one step more than its characters. -/
def tokens (cs : List Char) : List Token :=
  let cs := unifyBreaks cs
  tokensFrom (2 * cs.length + 2) (.lineStart false false) [] cs

end BytecodeAssembler.Literal
