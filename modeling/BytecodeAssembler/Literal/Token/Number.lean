import BytecodeAssembler.Literal.Value

/-!
# Numbers in an expression

A number is a whole number in base ten, sixteen, eight or two, or a decimal with a fraction or an
exponent, and a `j` after a decimal makes it imaginary.  Single underscores may stand between
digits.  A whole number in base ten other than zero does not begin with a zero, unless it runs into
the word `else`, which makes it a decimal.  A number must not run into a word, except into one of
the keywords that may follow a number.
-/

namespace BytecodeAssembler.Literal

/-- Characters that belong to a word, as far as a single character can tell. -/
def isWordLike (c : Char) : Bool :=
  c.isAlphanum || c == '_' || 0x80 ≤ c.toNat

/-- Whether a number may end before this text. -/
def endsNumber (rest : List Char) : Bool :=
  (["and", "else", "for", "if", "in", "is", "or", "not"].any fun w => w.toList.isPrefixOf rest) ||
    match rest with
    | [] => true
    | c :: _ => !isWordLike c

/-! ## Digits -/

/-- A run of digits with single underscores between them, and what follows.  The run may open with
an underscore; it fails at an underscore that no digit follows. -/
def digitRun (isDigit : Char → Bool) : List Char → Option (List Char × List Char)
  | [] => some ([], [])
  | '_' :: c :: cs =>
    if isDigit c then (digitRun isDigit cs).map fun (ds, rest) => (c :: ds, rest) else none
  | c :: cs =>
    if c == '_' then none
    else if isDigit c then (digitRun isDigit cs).map fun (ds, rest) => (c :: ds, rest)
    else some ([], c :: cs)

/-- The value of a digit in a base up to sixteen. -/
def digitValue (c : Char) : Nat :=
  if c.isDigit then c.toNat - '0'.toNat
  else if c.isLower then c.toNat - 'a'.toNat + 10
  else c.toNat - 'A'.toNat + 10

def isHexDigit (c : Char) : Bool :=
  c.isDigit || ('a' ≤ c && c ≤ 'f') || ('A' ≤ c && c ≤ 'F')

def isOctalDigit (c : Char) : Bool :=
  '0' ≤ c && c ≤ '7'

def isBinaryDigit (c : Char) : Bool :=
  c == '0' || c == '1'

/-- The number that digits spell in a base. -/
def ofDigits (base : Nat) (digits : List Char) : Nat :=
  digits.foldl (fun n c => n * base + digitValue c) 0

/-! ## Whole numbers with a base mark -/

/-- The most digits that a whole number in base ten may have. -/
def maxDecimalDigits : Nat :=
  4300

/-- A whole number after its base mark; no digit of another base may follow. -/
def basedNumber (base : Nat) (isDigit : Char → Bool) (cs : List Char) :
    Option (Value × List Char) := do
  let (ds, rest) ← digitRun isDigit cs
  if ds.isEmpty || !endsNumber rest then none
  else some (.int (ofDigits base ds), rest)

/-! ## Decimals -/

/-- Whether the word `else` begins here. -/
def opensElse (cs : List Char) : Bool :=
  ['e', 'l', 's', 'e'].isPrefixOf cs

/-- Whether an exponent begins here.  An `e` that opens a keyword is no exponent. -/
def opensExponent (cs : List Char) : Bool :=
  (cs.head? == some 'e' || cs.head? == some 'E') && !opensElse cs

/-- Whether the mark of an imaginary number stands here. -/
def opensImaginary : List Char → Bool
  | 'j' :: _ | 'J' :: _ => true
  | _ => false

/-- A decimal, possibly imaginary, given by its digits and the power of ten they are scaled by. -/
def decimalNumber (digits : List Char) (exponent : Int) (cs : List Char) :
    Option (Value × List Char) :=
  let x := Binary64.ofDecimal (ofDigits 10 digits) exponent
  let (v, rest) :=
    if opensImaginary cs then (.complex Binary64.zero x, cs.drop 1) else (.float x, cs)
  if endsNumber rest then some (v, rest) else none

/-- The sign of an exponent, and what follows. -/
def exponentSign : List Char → Bool × List Char
  | '+' :: cs => (false, cs)
  | '-' :: cs => (true, cs)
  | cs => (false, cs)

/-- An exponent after its mark: its value and what follows.  Its first character must be a digit. -/
def exponentPart (cs : List Char) : Option (Int × List Char) := do
  let (negative, cs) := exponentSign cs
  if (cs.head?.map Char.isDigit).getD false then
    let (ds, rest) ← digitRun Char.isDigit cs
    let n : Int := ofDigits 10 ds
    some (if negative then -n else n, rest)
  else none

/-- A decimal from its exponent on. -/
def afterFraction (digits : List Char) (scale : Int) (cs : List Char) :
    Option (Value × List Char) :=
  if opensExponent cs then do
    let (e, rest) ← exponentPart (cs.drop 1)
    decimalNumber digits (scale + e) rest
  else decimalNumber digits scale cs

/-- A decimal from the place after its point on. -/
def afterPoint (whole : List Char) (cs : List Char) : Option (Value × List Char) :=
  if (cs.head?.map Char.isDigit).getD false then do
    let (ds, rest) ← digitRun Char.isDigit cs
    afterFraction (whole ++ ds) (-(ds.length : Int)) rest
  else afterFraction whole 0 cs

/-- A whole number in base ten: its digits are few enough, and zero alone begins with a zero. -/
def wholeNumber (digits : List Char) (rest : List Char) : Option (Value × List Char) :=
  let isZero := digits.all (· == '0')
  if !endsNumber rest then none
  else if !isZero && (digits.head? == some '0' || maxDecimalDigits < digits.length) then none
  else some (.int (ofDigits 10 digits), rest)

/-- A number in base ten. -/
def decimalOrWhole (cs : List Char) : Option (Value × List Char) := do
  let (ds, rest) ← digitRun Char.isDigit cs
  match rest with
  | '.' :: rest => afterPoint ds rest
  | _ =>
    let isPadded := ds.head? == some '0' && !ds.all (· == '0')
    if opensExponent rest || opensImaginary rest || (isPadded && opensElse rest) then
      afterFraction ds 0 rest
    else wholeNumber ds rest

/-- The number at the front of a text that begins with a digit, or with a point and a digit. -/
def number (cs : List Char) : Option (Value × List Char) :=
  match cs with
  | '0' :: 'x' :: rest | '0' :: 'X' :: rest => basedNumber 16 isHexDigit rest
  | '0' :: 'o' :: rest | '0' :: 'O' :: rest => basedNumber 8 isOctalDigit rest
  | '0' :: 'b' :: rest | '0' :: 'B' :: rest => basedNumber 2 isBinaryDigit rest
  | '.' :: rest => afterPoint [] rest
  | _ => decimalOrWhole cs

end BytecodeAssembler.Literal
