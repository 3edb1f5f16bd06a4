import BytecodeAssembler.Literal.Value
import BytecodeAssembler.Number.Shortest
import BytecodeAssembler.Text.Quoted

/-!
# The text of a value

`Value.display` writes a value the way a literal would: texts and bytes in quotes, floating point
numbers by their shortest decimal, a comma after the only item of a tuple, `set()` for the empty
set.  An integer of more than 4300 digits has no text; `Value.holdsLongInt` tells whether a value
holds one.
-/

namespace BytecodeAssembler.Value

/-- An integer in decimal. -/
def intChars (n : Int) : List Char :=
  if n < 0 then '-' :: Nat.toDigits 10 n.natAbs else Nat.toDigits 10 n.natAbs

/-- A complex number: the imaginary part alone when the real part is the positive zero. -/
def complexChars (re im : Binary64) : List Char :=
  if re = Binary64.zero then im.decimal false ++ ['j']
  else
    let sign := if im.isNegative then [] else ['+']
    '(' :: re.decimal false ++ sign ++ im.decimal false ++ ['j', ')']

/-- Texts with a comma and a blank between them. -/
def separated : List Text → Text
  | [] => []
  | [t] => t
  | t :: ts => t ++ Text.ofString ", " ++ separated ts

/-- A text between two marks. -/
def enclosed (left right : String) (t : Text) : Text :=
  Text.ofString left ++ t ++ Text.ofString right

mutual

/-- The text of a value. -/
def display : Value → Text
  | .none => Text.ofString "None"
  | .ellipsis => Text.ofString "Ellipsis"
  | .bool b => Text.ofString (if b then "True" else "False")
  | .int n => Text.ofChars (intChars n)
  | .float x => Text.ofChars (x.decimal true)
  | .complex re im => Text.ofChars (complexChars re im)
  | .str t => Text.quoted t
  | .bytes b => Text.ofChars (Text.quotedBytes b)
  | .list items => enclosed "[" "]" (separated (displayAll items))
  | .tuple items =>
    enclosed "(" (if items.length = 1 then ",)" else ")") (separated (displayAll items))
  | .set [] => Text.ofString "set()"
  | .set elements => enclosed "\x7b" "\x7d" (separated (displayAll elements))
  | .dict entries => enclosed "\x7b" "\x7d" (separated (displayEntries entries))
termination_by structural v => v

def displayAll : List Value → List Text
  | [] => []
  | v :: vs => v.display :: displayAll vs
termination_by structural vs => vs

def displayEntry : Value × Value → Text
  | (k, v) => k.display ++ Text.ofString ": " ++ v.display
termination_by structural e => e

def displayEntries : List (Value × Value) → List Text
  | [] => []
  | e :: es => displayEntry e :: displayEntries es
termination_by structural es => es

end

/-! ## Integers too long to be shown -/

/-- The most digits of an integer that is shown. -/
def maxShownDigits : Nat :=
  4300

mutual

/-- Whether a value is or holds an integer with too many digits. -/
def holdsLongInt : Value → Bool
  | .int n => Binary64.tenTo maxShownDigits ≤ n.natAbs
  | .list items | .tuple items | .set items => anyHoldsLongInt items
  | .dict entries => anyEntryHoldsLongInt entries
  | _ => false
termination_by structural v => v

def anyHoldsLongInt : List Value → Bool
  | [] => false
  | v :: vs => v.holdsLongInt || anyHoldsLongInt vs
termination_by structural vs => vs

def entryHoldsLongInt : Value × Value → Bool
  | (k, v) => k.holdsLongInt || v.holdsLongInt
termination_by structural e => e

def anyEntryHoldsLongInt : List (Value × Value) → Bool
  | [] => false
  | e :: es => entryHoldsLongInt e || anyEntryHoldsLongInt es
termination_by structural es => es

end

end BytecodeAssembler.Value
