/-!
# Binary floating point

Finite numbers of the 64-bit binary format, in exact arithmetic on natural numbers.
Every operation rounds its exact result to the nearest number; a result halfway between
two goes to the one with an even mantissa.
-/

namespace NamespaceEntry

/-- The number `mantissa * 2 ^ exponent`. The mantissa has at most 53 bits, and exactly 53
unless the exponent is the least one. -/
structure Binary64 where
  mantissa : Nat
  exponent : Int
  deriving DecidableEq, Repr

namespace Binary64

def leastExponent : Int := -1074

def greatestExponent : Int := 971

def zero : Binary64 := ⟨0, leastExponent⟩

/-- The quotient rounded to the nearest natural number, a half to the even one. -/
def divideToEven (num den : Nat) : Nat :=
  let quotient := num / den
  let twice := 2 * (num % den)
  if twice < den then quotient
  else if den < twice then quotient + 1
  else quotient + quotient % 2

/-- `num * 2 ^ shift` over `den`, as a numerator and a denominator. -/
def scale (num den : Nat) (shift : Int) : Nat × Nat :=
  if 0 ≤ shift then (num <<< shift.toNat, den) else (num, den <<< (-shift).toNat)

/-- The greatest `l` with `2 ^ l ≤ num / den`. -/
def floorLog2 (num den : Nat) : Int :=
  let l : Int := (num.log2 : Int) - den.log2
  let (n, d) := scale num den (-l)
  if d ≤ n then l else l - 1

/-- The number nearest to a quotient; there is none past the greatest number. -/
def ofRatio? (num den : Nat) : Option Binary64 :=
  if num = 0 then some zero
  else
    let exponent := max (floorLog2 num den - 52) leastExponent
    let (n, d) := scale num den (-exponent)
    let mantissa := divideToEven n d
    let (mantissa, exponent) :=
      if mantissa = 1 <<< 53 then (1 <<< 52, exponent + 1) else (mantissa, exponent)
    if greatestExponent < exponent then none else some ⟨mantissa, exponent⟩

/-- The number nearest to `num * 2 ^ shift / den`. -/
def ofScaled? (num den : Nat) (shift : Int) : Option Binary64 :=
  let (n, d) := scale num den shift
  ofRatio? n d

def mul? (a b : Binary64) : Option Binary64 :=
  ofScaled? (a.mantissa * b.mantissa) 1 (a.exponent + b.exponent)

def div? (a b : Binary64) : Option Binary64 :=
  ofScaled? a.mantissa b.mantissa (a.exponent - b.exponent)

def tenTo (n : Nat) : Nat := Nat.pow 10 n

def powerOfTen? (n : Nat) : Option Binary64 := ofRatio? (tenTo n) 1

/-- The greatest power of ten that is a number. -/
def greatestPower : Nat := 308

/-- Divides by the greatest power of ten a number of times; zero stays what it is. -/
def shrinkBy? : Nat → Binary64 → Option Binary64
  | 0, a => some a
  | steps + 1, a =>
    if a.mantissa = 0 then some a
    else powerOfTen? greatestPower >>= a.div? >>= shrinkBy? steps

/-- Divides by `10 ^ n`, with one division for each power of ten that is a number. -/
def shrink? (a : Binary64) (n : Nat) : Option Binary64 := do
  let steps := (n - 1) / greatestPower
  let b ← shrinkBy? steps a
  powerOfTen? (n - greatestPower * steps) >>= b.div?

/-- Multiplies by `10 ^ n`. -/
def grow? (a : Binary64) (n : Nat) : Option Binary64 :=
  if n ≤ greatestPower then powerOfTen? n >>= a.mul?
  else if a.mantissa = 0 then some a
  else none

/-- The number for `significand * 10 ^ exponent`, where the significand and the power are
rounded before they are multiplied or divided. -/
def ofParts? (significand : Nat) (exponent : Int) : Option Binary64 := do
  let a ← ofRatio? significand 1
  if 0 ≤ exponent then a.grow? exponent.toNat else a.shrink? (-exponent).toNat

end Binary64

end NamespaceEntry
