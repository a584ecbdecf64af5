/-!
# Doubles

A binary floating point number with a mantissa below 2 ^ 53 and an exponent
not below -1074, kept as its two numbers so that all arithmetic on it is exact.
-/

namespace GroovyRounds

inductive Double where
  /-- `mantissa * 2 ^ exponent`, with the least exponent that the mantissa admits. -/
  | finite (negative : Bool) (mantissa : Nat) (exponent : Int)
  | infinite (negative : Bool)
  | notANumber
deriving DecidableEq, Repr

namespace Double

def leastExponent : Int := -1074

def greatestExponent : Int := 971

def mantissaBits : Nat := 53

/-- `2 ^ n`. -/
def powerOfTwo (n : Nat) : Nat :=
  Nat.pow 2 n

/-- `10 ^ n`. -/
def powerOfTen (n : Nat) : Nat :=
  Nat.pow 10 n

-- ---------------------------------------------------------------------------
-- Rounding a fraction
-- ---------------------------------------------------------------------------

/-- The quotient to the nearest whole number; a half goes to the even neighbour. -/
def roundDiv (n d : Nat) : Nat :=
  let q := n / d
  let twice := 2 * (n % d)
  if twice < d then q
  else if d < twice then q + 1
  else q + q % 2

/-- `n / d` in units of `2 ^ e`. -/
def scaled (n d : Nat) (e : Int) : Nat :=
  if e < 0 then roundDiv (n * powerOfTwo (-e).toNat) d else roundDiv n (d * powerOfTwo e.toNat)

/-- The least exponent whose units keep `n / d` below `2 ^ 53`, up to rounding. -/
def exponentOf (n d : Nat) : Int :=
  let guess : Int := (n.log2 : Int) - d.log2 - mantissaBits
  let fits (e : Int) : Bool :=
    if e < 0 then n * powerOfTwo (-e).toNat < d * powerOfTwo mantissaBits
    else n < d * powerOfTwo (mantissaBits + e.toNat)
  max leastExponent (if fits guess then guess else guess + 1)

/-- The double nearest to `n / d`. -/
def ofFraction (negative : Bool) (n d : Nat) : Double :=
  if n = 0 then .finite negative 0 leastExponent
  else
    let e := exponentOf n d
    let m := scaled n d e
    let (m, e) :=
      if m = powerOfTwo mantissaBits then (powerOfTwo (mantissaBits - 1), e + 1) else (m, e)
    if greatestExponent < e then .infinite negative else .finite negative m e

/-- The double nearest to `m * 10 ^ e`. -/
def ofDecimal (negative : Bool) (m : Nat) (e : Int) : Double :=
  let digits : Int := (Nat.toDigits 10 m).length
  if m = 0 then .finite negative 0 leastExponent
  else if 400 < digits + e then .infinite negative
  else if digits + e < -400 then .finite negative 0 leastExponent
  else if e < 0 then ofFraction negative m (powerOfTen (-e).toNat)
  else ofFraction negative (m * powerOfTen e.toNat) 1

-- ---------------------------------------------------------------------------
-- Whole values
-- ---------------------------------------------------------------------------

/-- The whole number that a double is, if it is one. -/
def toInt? : Double → Option Int
  | .finite negative m e =>
    let whole : Option Nat :=
      if e < 0 then
        let unit := powerOfTwo (-e).toNat
        if m % unit = 0 then some (m / unit) else none
      else some (m * powerOfTwo e.toNat)
    whole.map fun n => if negative then -(n : Int) else n
  | _ => none

/-- The whole number next to a double on the side of zero. -/
def truncate? : Double → Option Int
  | .finite negative m e =>
    let n := if e < 0 then m / powerOfTwo (-e).toNat else m * powerOfTwo e.toNat
    some (if negative then -(n : Int) else n)
  | _ => none

def isZero : Double → Bool
  | .finite _ m _ => m = 0
  | _ => false

end Double

end GroovyRounds
