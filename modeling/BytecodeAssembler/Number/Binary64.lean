/-!
# Binary floating point numbers of 64 bits

A number is its word: sign, eleven bits of exponent, fifty-two bits of fraction.  The module gives

* `Binary64.ofRatio` and `Binary64.ofDecimal`, which round an exact quotient or decimal to the
  nearest number, a tie to the even one, and to infinity past the largest;
* `Binary64.exact`, the exact rational behind a finite number, by which numbers are compared;
* negation, and the two sums with a zero that a complex literal needs.

No arithmetic of the machine is involved, so every definition here can be evaluated in a proof.
-/

namespace BytecodeAssembler

/-- A 64-bit binary floating point number, as its word. -/
structure Binary64 where
  bits : UInt64
deriving DecidableEq, Inhabited

/-- The value of a number on the extended rational line. -/
inductive Extended where
  | finite (value : Rat)
  | infinite (negative : Bool)
  | undefined
deriving DecidableEq

namespace Binary64

/-! ## Parts of the word -/

/-- A power of two. -/
def twoTo (k : Nat) : Nat :=
  Nat.pow 2 k

/-- A power of ten. -/
def tenTo (k : Nat) : Nat :=
  Nat.pow 10 k

/-- The weight of the sign bit. -/
def signWeight : Nat :=
  twoTo 63

/-- The weight of the lowest exponent bit, and the leading bit of a normal significand. -/
def leadingBit : Nat :=
  twoTo 52

def isNegative (x : Binary64) : Bool :=
  signWeight ≤ x.bits.toNat

/-- The word without its sign. -/
def magnitude (x : Binary64) : Nat :=
  x.bits.toNat % signWeight

def exponentField (x : Binary64) : Nat :=
  x.magnitude / leadingBit

def fractionField (x : Binary64) : Nat :=
  x.magnitude % leadingBit

/-- The magnitude of infinity: all exponent bits set. -/
def infinityMagnitude : Nat :=
  2047 * leadingBit

/-- Put a sign in front of a magnitude. -/
def ofMagnitude (negative : Bool) (magnitude : Nat) : Binary64 :=
  ⟨UInt64.ofNat (if negative then signWeight + magnitude else magnitude)⟩

def zero : Binary64 :=
  ⟨0⟩

def negativeZero : Binary64 :=
  ofMagnitude true 0

def neg (x : Binary64) : Binary64 :=
  ofMagnitude (!x.isNegative) x.magnitude

/-! ## Exact values -/

/-- `significand * 2 ^ scale` is the absolute value of a finite number. -/
def significand (x : Binary64) : Nat :=
  if x.exponentField = 0 then x.fractionField else leadingBit + x.fractionField

def scale (x : Binary64) : Int :=
  if x.exponentField = 0 then -1074 else x.exponentField - 1075

/-- The exact value. -/
def exact (x : Binary64) : Extended :=
  if x.exponentField = 2047 then
    if x.fractionField = 0 then .infinite x.isNegative else .undefined
  else
    let signed : Int := if x.isNegative then -x.significand else x.significand
    match x.scale with
    | .ofNat e => .finite (mkRat (signed * (twoTo e : Nat)) 1)
    | .negSucc e => .finite (mkRat signed (twoTo (e + 1)))

/-! ## Rounding -/

/-- The integer nearest to `num / den`, a tie to the even one. -/
def roundQuotient (num den : Nat) : Nat :=
  let q := num / den
  let r := num % den
  if 2 * r < den then q
  else if 2 * r = den then q + q % 2
  else q + 1

/-- The least exponent `e`, at or above that of the smallest number, with `num / den < 2 ^ (e +
53)`. -/
def scaleOf (num den : Nat) : Int :=
  let e : Int := (num.log2 : Int) - den.log2 - 53
  let fits (e : Int) : Bool :=
    match e + 53 with
    | .ofNat k => num < den * twoTo k
    | .negSucc k => num * twoTo (k + 1) < den
  max (if fits e then e else e + 1) (-1074)

/-- The number nearest to `num / den`. -/
def ofRatio (negative : Bool) (num den : Nat) : Binary64 :=
  if num = 0 then ofMagnitude negative 0
  else
    let e := scaleOf num den
    let q := match e with
      | .ofNat k => roundQuotient num (den * twoTo k)
      | .negSucc k => roundQuotient (num * twoTo (k + 1)) den
    -- A significand that rounds up to the next power of two carries into the exponent field.
    ofMagnitude negative (min ((e + 1074).toNat * leadingBit + q) infinityMagnitude)

/-- The number nearest to `digits * 10 ^ exponent`.  Decimals far outside the range of exponents are
decided by their size alone. -/
def ofDecimal (digits : Nat) (exponent : Int) : Binary64 :=
  if digits = 0 then zero
  else if 309 < exponent then ofMagnitude false infinityMagnitude
  else if exponent + (digits.log2 / 3 + 1 : Nat) < -330 then zero
  else
    match exponent with
    | .ofNat e => ofRatio false (digits * tenTo e) 1
    | .negSucc e => ofRatio false digits (tenTo (e + 1))

/-- The number nearest to an integer, unless that is infinite. -/
def ofInt? (n : Int) : Option Binary64 :=
  let x := ofRatio (n < 0) n.natAbs 1
  if x.magnitude = infinityMagnitude then none else some x

/-! ## Sums with zero -/

/-- `x + 0`: only the negative zero changes. -/
def addZero (x : Binary64) : Binary64 :=
  if x = negativeZero then zero else x

/-- `0 - x`: a positive zero stays positive. -/
def zeroSub (x : Binary64) : Binary64 :=
  if x = zero then zero else x.neg

end Binary64

end BytecodeAssembler
