import GroovyRounds.Decimal.Double

/-!
# The shortest decimal of a double

The fewest digits that still read back as the number; among equally short
ones the nearest.
-/

namespace GroovyRounds.Decimal

open Double (powerOfTwo powerOfTen)

-- ---------------------------------------------------------------------------
-- Digits
-- ---------------------------------------------------------------------------

/-- Whole multiple of a power of two as a fraction over `4`: `(numerator, denominator)`
of `quarters / 4 * 2 ^ e`. -/
def fraction (quarters : Nat) (e : Int) : Nat × Nat :=
  if e < 0 then (quarters, 4 * powerOfTwo (-e).toNat) else (quarters * powerOfTwo e.toNat, 4)

/-- The reals that read back as `m * 2 ^ e`, as quarters of its unit. -/
def interval (m : Nat) (e : Int) : Nat × Nat :=
  let below := if m = powerOfTwo (Double.mantissaBits - 1) && Double.leastExponent < e then 1 else 2
  (4 * m - below, 4 * m + 2)

/-- `a / b` compared with `d * 10 ^ x`: both sides over one denominator. -/
def sides (a b d : Nat) (x : Int) : Nat × Nat :=
  if x < 0 then (a * powerOfTen (-x).toNat, d * b) else (a, d * powerOfTen x.toNat * b)

/-- `d * 10 ^ x` reads back as `m * 2 ^ e`. -/
def readsBack (m : Nat) (e : Int) (d : Nat) (x : Int) : Bool :=
  let (low, high) := interval m e
  let (a, b) := fraction low e
  let (a', b') := fraction high e
  let (lowSide, here) := sides a b d x
  let (highSide, here') := sides a' b' d x
  if m % 2 = 0 then lowSide ≤ here && here' ≤ highSide
  else lowSide < here && here' < highSide

/-- The exponent of the power of ten just above `m * 2 ^ e`. -/
def magnitude (m : Nat) (e : Int) : Int :=
  if e < 0 then
    let unit := powerOfTwo (-e).toNat
    if unit ≤ m then (Nat.toDigits 10 (m / unit)).length
    else
      let zeros := (List.range 400).find? fun z => unit ≤ m * powerOfTen (z + 1)
      Int.negOfNat (zeros.getD 400)
  else (Nat.toDigits 10 (m * powerOfTwo e.toNat)).length

/-- The two multiples of `10 ^ x` around `m * 2 ^ e`, the nearer first. -/
def neighbours (m : Nat) (e : Int) (x : Int) : Nat × Nat :=
  let (a, b) := fraction (4 * m) e
  let (n, d) := if x < 0 then (a * powerOfTen (-x).toNat, b) else (a, b * powerOfTen x.toNat)
  let q := n / d
  if 2 * (n % d) < d || (2 * (n % d) = d && q % 2 = 0) then (q, q + 1) else (q + 1, q)

/-- The digits of the shortest decimal, and the exponent of the power of ten just above it. -/
def shortest (m : Nat) (e : Int) : List Char × Int :=
  let top := magnitude m e
  let hit (count : Nat) : Option Nat :=
    let x := top - (count + 1)
    let (near, far) := neighbours m e x
    if readsBack m e near x then some near
    else if readsBack m e far x then some far
    else none
  let found := (List.range 17).findSome? fun count => (hit count).map fun d => (d, count + 1)
  let (d, count) := found.getD ((neighbours m e (top - 17)).1, 17)
  let digits := Nat.toDigits 10 d
  ((digits.reverse.dropWhile (· = '0')).reverse, top + (digits.length - count : Int))

-- ---------------------------------------------------------------------------
-- Layout
-- ---------------------------------------------------------------------------

/-- How a number is laid out: positionally from `10 ^ low` to below `10 ^ high`,
else with an exponent of at least `exponentDigits` digits and a sign. -/
structure Layout where
  low : Int
  high : Int
  exponentDigits : Nat

def Layout.pad (layout : Layout) (n : Nat) : List Char :=
  let digits := Nat.toDigits 10 n
  List.replicate (layout.exponentDigits - digits.length) '0' ++ digits

/-- Lays out digits below the power of ten `top`. -/
def Layout.write (layout : Layout) (digits : List Char) (top : Int) : List Char :=
  if layout.low < top && top ≤ layout.high then
    if top ≤ 0 then ['0', '.'] ++ List.replicate (-top).toNat '0' ++ digits
    else
      let whole := digits.take top.toNat
      let rest := digits.drop top.toNat
      whole ++ List.replicate (top.toNat - digits.length) '0' ++ ['.'] ++
        (if rest.isEmpty then ['0'] else rest)
  else
    let power := top - 1
    digits.take 1 ++ (if digits.length ≤ 1 then [] else '.' :: digits.drop 1) ++ ['e'] ++
      [if power < 0 then '-' else '+'] ++ layout.pad power.natAbs

/-- Positional between 0.0001 and 10 ^ 16, always with a point; two exponent digits. -/
def plain : Layout := { low := -4, high := 16, exponentDigits := 2 }

end GroovyRounds.Decimal

namespace GroovyRounds

/-- The shortest text that reads back. -/
def Double.spell : Double → String
  | .finite negative m e =>
    let sign := if negative then ['-'] else []
    let body := if m = 0 then ['0', '.', '0']
      else
        let (digits, top) := Decimal.shortest m e
        Decimal.plain.write digits top
    String.ofList (sign ++ body)
  | .infinite negative => if negative then "-inf" else "inf"
  | .notANumber => "nan"

end GroovyRounds
