import BytecodeAssembler.Literal.Token.Escape

/-!
# Templates

A template is a quoted text with expressions in braces.  A brace written twice stands for itself.
After an expression may come an equals sign, a conversion (`!s`, `!r` or `!a`) and a format after a
colon, which is a template again; formats nest once.  `Template.sources?` gives the source of every
expression in a template, or nothing where the template is malformed; whether the sources are
expressions is for the caller to tell.
-/

namespace BytecodeAssembler.Literal.Template

/-- Literal text up to a brace that is not doubled, and what follows.  `inName` holds inside the
braces of a character name.  Braces may be doubled only outside formats, and only there may no
closing brace stand alone. -/
def literalPart (raw inFormat : Bool) : Bool → List Char → Option (List Char × List Char)
  | _, [] => some ([], [])
  | true, c :: cs =>
    (literalPart raw inFormat (c != '\x7d') cs).map fun (text, rest) => (c :: text, rest)
  | false, '\\' :: c :: cs =>
    if raw || c == '\x7b' || c == '\x7d' then
      (literalPart raw inFormat false (c :: cs)).map fun (text, rest) => ('\\' :: text, rest)
    else
      let opensName := c == 'N' && cs.head? == some '\x7b'
      (literalPart raw inFormat opensName cs).map fun (text, rest) => ('\\' :: c :: text, rest)
  | false, c :: cs =>
    if c == '\x7b' || c == '\x7d' then
      if inFormat then some ([], c :: cs)
      else
        match cs with
        | d :: after =>
          if d == c then
            (literalPart raw inFormat false after).map fun (text, rest) => (c :: text, rest)
          else if c == '\x7b' then some ([], c :: cs)
          else none
        | [] => if c == '\x7b' then some ([], [c]) else none
    else (literalPart raw inFormat false cs).map fun (text, rest) => (c :: text, rest)

/-- The quote that a source stands in, and whether it is a triple one. -/
abbrev OpenQuote := Option (Char × Bool)

/-- Whether a closing bracket matches an opening one. -/
def bracketsMatch (left right : Char) : Bool :=
  (left == '(' && right == ')') || (left == '[' && right == ']') ||
    (left == '\x7b' && right == '\x7d')

/-- The source of an expression, from after its brace to the first character outside quotes and
brackets that ends it, and what follows from that character on.  `skip` characters belong to what
was read before. -/
def sourcePart : Nat → OpenQuote → List Char → List Char → Option (List Char × List Char)
  | _, _, _, [] => none
  | skip + 1, quote, brackets, c :: cs =>
    if c == '\\' then none
    else (sourcePart skip quote brackets cs).map fun (source, rest) => (c :: source, rest)
  | 0, some (q, triple), brackets, c :: cs =>
    let keep (skip : Nat) (quote : OpenQuote) : Option (List Char × List Char) :=
      (sourcePart skip quote brackets cs).map fun (source, rest) => (c :: source, rest)
    if c == '\\' then none
    else if c != q then keep 0 (some (q, triple))
    else if !triple then keep 0 none
    else if [q, q].isPrefixOf cs then keep 2 none
    else keep 0 (some (q, triple))
  | 0, none, brackets, c :: cs =>
    let keep (skip : Nat) (quote : OpenQuote) (brackets : List Char) :
        Option (List Char × List Char) :=
      (sourcePart skip quote brackets cs).map fun (source, rest) => (c :: source, rest)
    if c == '\\' || c == '#' then none
    else if c == '\'' || c == '"' then
      if [c, c].isPrefixOf cs then keep 2 (some (c, true)) brackets
      else keep 0 (some (c, false)) brackets
    else if c == '(' || c == '[' || c == '\x7b' then
      if 200 ≤ brackets.length then none else keep 0 none (c :: brackets)
    else if brackets.isEmpty && (c == '!' || c == '=' || c == '<' || c == '>') &&
        cs.head? == some '=' then keep 1 none brackets
    else if brackets.isEmpty && (c == '!' || c == ':' || c == '\x7d' || c == '=') then
      some ([], c :: cs)
    else if c == ')' || c == ']' || c == '\x7d' then
      match brackets with
      | b :: outer => if bracketsMatch b c then keep 0 none outer else none
      | [] => none
    else keep 0 none brackets

/-- A source must hold more than blanks. -/
def isVoid (source : List Char) : Bool :=
  source.all fun c => c == ' ' || c == '\t' || c == '\n' || c == '\x0c'

/-- What follows an equals sign after an expression. -/
def afterEquals : List Char → List Char
  | '=' :: cs => cs.dropWhile fun c => c == ' ' || (0x09 ≤ c.toNat && c.toNat ≤ 0x0d)
  | cs => cs

/-- What follows a conversion. -/
def afterConversion : List Char → Option (List Char)
  | '!' :: c :: cs => if c == 's' || c == 'r' || c == 'a' then some cs else none
  | ['!'] => none
  | cs => some cs

/-- Whether the escapes of literal text are well formed. -/
def literalOk (raw : Bool) (text : List Char) : Bool :=
  raw || (unescapeText text).isSome

/-- The sources in a template at a level of nesting, and what follows: nothing, or a closing brace
inside a format.  Each step uses up at least one character, so their count is fuel enough. -/
def sourcesFrom (raw : Bool) : Nat → Nat → List Char → Option (List (List Char) × List Char)
  | 0, _, _ => none
  | fuel + 1, level, cs => do
    let (text, rest) ← literalPart raw (0 < level) false cs
    if !literalOk raw text then none
    else
      match rest with
      | '\x7b' :: rest =>
        if 2 ≤ level then none
        else
          let (source, rest) ← sourcePart 0 none [] rest
          if isVoid source then none
          else
            let rest ← afterConversion (afterEquals rest)
            let (inner, rest) ← match rest with
              | ':' :: format =>
                if format.isEmpty then none else sourcesFrom raw fuel (level + 1) format
              | _ => some ([], rest)
            match rest with
            | '\x7d' :: rest =>
              let (more, rest) ← sourcesFrom raw fuel level rest
              some (source :: inner ++ more, rest)
            | _ => none
      | _ => some ([], rest)

/-- The source of every expression in a template. -/
def sources? (raw : Bool) (body : List Char) : Option (List (List Char)) :=
  match sourcesFrom raw (body.length + 1) 0 body with
  | some (sources, []) => some sources
  | _ => none

end BytecodeAssembler.Literal.Template
