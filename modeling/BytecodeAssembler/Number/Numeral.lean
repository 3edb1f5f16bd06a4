import BytecodeAssembler.Text.Digit

/-!
# Decimal numerals

The operand of most operations is a whole number: an optional sign and decimal digits of any script,
with single underscores between them.
-/

namespace BytecodeAssembler

/-- Why a word is no number. -/
inductive NumeralError where
  | malformed
  | tooLong
deriving DecidableEq

namespace Numeral

/-- The most digits that a number may have. -/
def maxDigits : Nat :=
  4300

/-- The digits at the front of a word, with single underscores between them, and what follows.
Nothing, where an underscore has no digit after it. -/
def digitsAt : List Char → Option (List Nat × List Char)
  | [] => some ([], [])
  | '_' :: c :: cs =>
    match Text.digit? c with
    | some d => (digitsAt cs).map fun (ds, rest) => (d :: ds, rest)
    | none => none
  | c :: cs =>
    match Text.digit? c with
    | some d => (digitsAt cs).map fun (ds, rest) => (d :: ds, rest)
    | none => if c == '_' then none else some ([], c :: cs)

/-- The number of a word without its sign. -/
def magnitude (cs : List Char) : Except NumeralError Nat :=
  if cs.head? == some '_' then .error .malformed
  else
    match digitsAt cs with
    | none => .error .malformed
    | some (ds, rest) =>
      if ds.isEmpty then .error .malformed
      else if maxDigits < ds.length then .error .tooLong
      else if !rest.isEmpty then .error .malformed
      else .ok (ds.foldl (fun n d => n * 10 + d) 0)

/-- The number that a word spells. -/
def read (word : String) : Except NumeralError Int :=
  match word.toList with
  | '+' :: cs => (magnitude cs).map Int.ofNat
  | '-' :: cs => (magnitude cs).map fun n => -(n : Int)
  | cs => (magnitude cs).map Int.ofNat

end Numeral

end BytecodeAssembler
