import BytecodeAssembler.Number.Binary64

/-!
# The shortest decimal of a floating point number

Among the decimals that round to a number, the shortest has the fewest digits, and of those it is
the nearest.  The search goes up the decimal grids of one to seventeen digits: on each grid only the
two neighbours of the number can be nearest, and seventeen digits always suffice.

`Binary64.decimal` then lays the digits out: positional notation for exponents from -4 to 15,
otherwise one digit before the point and a signed exponent of at least two digits.
-/

namespace BytecodeAssembler

/-- Decimal digits, first digit first, with the point standing `point` places after the start. -/
structure Decimal where
  digits : List Nat
  point : Int
deriving DecidableEq

namespace Decimal

/-- The decimal digits of a number, first digit first. -/
def digitsOf (n : Nat) : List Nat :=
  (Nat.toDigits 10 n).map fun c => c.toNat - '0'.toNat

/-- The digits of `n * 10 ^ exponent`, without zeros at the end. -/
def ofScaled (n : Nat) (exponent : Int) : Decimal :=
  let ds := digitsOf n
  ⟨(ds.reverse.dropWhile (· == 0)).reverse, ds.length + exponent⟩

end Decimal

namespace Binary64

/-- `10 ^ k` as a quotient. -/
def powerOfTen : Int → Nat × Nat
  | .ofNat k => (tenTo k, 1)
  | .negSucc k => (1, tenTo (k + 1))

/-- Whether `a * 10 ^ k` is below `num / den`, or equal to it where `orEqual` holds. -/
def scaledBelow (orEqual : Bool) (a : Nat) (k : Int) (num den : Nat) : Bool :=
  let (p, q) := powerOfTen k
  if orEqual then a * p * den ≤ num * q else a * p * den < num * q

/-- Whether `num / den` is below `a * 10 ^ k`, or equal to it where `orEqual` holds. -/
def scaledAbove (orEqual : Bool) (a : Nat) (k : Int) (num den : Nat) : Bool :=
  let (p, q) := powerOfTen k
  if orEqual then num * q ≤ a * p * den else num * q < a * p * den

/-- The number of places before the point of `num / den`: the least `p` with `num / den < 10 ^ p`.
-/
def placesBefore (num den : Nat) : Int :=
  let guess : Int := ((num.log2 : Int) - den.log2) * 30103 / 100000
  (([guess - 1, guess, guess + 1].find? fun p => scaledAbove false 1 p num den).getD (guess + 2))

/-- The shortest digits of a finite number other than zero, without its sign. -/
def shortest (x : Binary64) : Decimal :=
  let m := x.significand
  let e := x.scale
  -- The value and the ends of its rounding interval over one denominator, in quarters of a unit.
  let up := twoTo (e - 2).toNat
  let den := twoTo (2 - e).toNat
  let num := 4 * m * up
  let high := (4 * m + 2) * up
  let low := (if x.fractionField = 0 && 1 < x.exponentField then 4 * m - 1 else 4 * m - 2) * up
  let closed := m % 2 == 0
  let p := placesBefore num den
  let inside (a : Nat) (k : Int) : Bool :=
    scaledBelow closed a k high den && scaledAbove closed a k low den
  let onGrid (count : Nat) : Option Decimal :=
    let k := p - count
    let (t, u) := powerOfTen k
    let a := num * u / (den * t)
    -- Twice the distance to the lower neighbour, against one step of the grid.
    let rest := 2 * (num * u % (den * t))
    let lower := inside a k
    let upper := inside (a + 1) k
    if lower && upper then
      let nearest := if rest < den * t || (rest == den * t && a % 2 == 0) then a else a + 1
      some (Decimal.ofScaled nearest k)
    else if lower then some (Decimal.ofScaled a k)
    else if upper then some (Decimal.ofScaled (a + 1) k)
    else none
  ((List.range 17).findSome? fun i => onGrid (i + 1)).getD (Decimal.ofScaled num 0)

/-! ## Layout -/

def digitChars (ds : List Nat) : List Char :=
  ds.map fun d => Char.ofNat ('0'.toNat + d)

/-- A signed exponent of at least two digits. -/
def exponentChars (e : Int) : List Char :=
  let digits := Nat.toDigits 10 e.natAbs
  'e' :: (if e < 0 then '-' else '+') :: (if digits.length < 2 then '0' :: digits else digits)

/-- The text of a number, with `.0` after a whole number in positional notation where `wholePoint`
holds. -/
def decimal (wholePoint : Bool) (x : Binary64) : List Char :=
  let sign := if x.isNegative then ['-'] else []
  let point := if wholePoint then ['.', '0'] else []
  if x.exponentField = 2047 then
    if x.fractionField = 0 then sign ++ ['i', 'n', 'f'] else ['n', 'a', 'n']
  else if x.magnitude = 0 then sign ++ ['0'] ++ point
  else
    let d := x.shortest
    let cs := digitChars d.digits
    if -4 < d.point && d.point ≤ 16 then
      if d.point ≤ 0 then
        sign ++ ['0', '.'] ++ List.replicate d.point.natAbs '0' ++ cs
      else if cs.length ≤ d.point.toNat then
        sign ++ cs ++ List.replicate (d.point.toNat - cs.length) '0' ++ point
      else
        sign ++ cs.take d.point.toNat ++ ['.'] ++ cs.drop d.point.toNat
    else
      let fraction := if cs.length ≤ 1 then [] else '.' :: cs.drop 1
      sign ++ cs.take 1 ++ fraction ++ exponentChars (d.point - 1)

end Binary64

end BytecodeAssembler
