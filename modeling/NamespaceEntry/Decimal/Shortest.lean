import NamespaceEntry.Decimal.Binary64

/-!
# Shortest decimal text of a number

A decimal reads back as a number if it lies in the interval that rounds to the number.
The text has the fewest digits that read back, and of these the ones nearest to the number.
-/

namespace NamespaceEntry.Binary64

/-- Twice-and-twice-again scaled bounds of the interval that rounds to a number: the lower
and the upper end are these over `4` times the power of two. -/
def bounds (a : Binary64) : Nat × Nat :=
  let lower :=
    if a.mantissa = 1 <<< 52 ∧ a.exponent ≠ leastExponent then 4 * a.mantissa - 1
    else 4 * a.mantissa - 2
  (lower, 4 * a.mantissa + 2)

/-- Whether `digits * 10 ^ power` reads back as the number. An end of the interval does
exactly if the mantissa is even. -/
def readsBack (a : Binary64) (digits : Nat) (power : Int) : Bool :=
  let (lower, upper) := a.bounds
  let up (n : Nat) : Nat := if 0 ≤ a.exponent - 2 then n <<< (a.exponent - 2).toNat else n
  let down (n : Nat) : Nat := if 0 ≤ a.exponent - 2 then n else n <<< (2 - a.exponent).toNat
  let tens (n : Nat) : Nat := if 0 ≤ power then n * tenTo power.toNat else n
  let tenths (n : Nat) : Nat := if 0 ≤ power then n else n * tenTo (-power).toNat
  let value := down (tens digits)
  let low := tenths (up lower)
  let high := tenths (up upper)
  if a.mantissa % 2 = 0 then low ≤ value && value ≤ high else low < value && value < high

def ratio (a : Binary64) : Nat × Nat := scale a.mantissa 1 a.exponent

/-- The number over `10 ^ power`, as a numerator and a denominator. -/
def ratioOver (a : Binary64) (power : Int) : Nat × Nat :=
  let (n, d) := a.ratio
  if 0 ≤ power then (n, d * tenTo power.toNat) else (n * tenTo (-power).toNat, d)

/-- The decimal place after the leading digit of `num / den`: the least `k` with
`num / den < 10 ^ k`, looked for from `k` on upwards. -/
def placeFrom (num den : Nat) : Nat → Int → Int
  | 0, k => k
  | fuel + 1, k =>
    let above := if 0 ≤ k then num < den * tenTo k.toNat else num * tenTo (-k).toNat < den
    if above then k else placeFrom num den fuel (k + 1)

/-- The place of a number; every one lies between `10 ^ -324` and `10 ^ 309`. -/
def place (a : Binary64) : Int :=
  let (n, d) := a.ratio
  placeFrom n d 640 (-324)

/-- The nearest decimal of the number with its last digit at `power`, if one reads back. -/
def onGrid? (a : Binary64) (power : Int) : Option Nat :=
  let (n, d) := a.ratioOver power
  let low := n / d
  let lowFits := a.readsBack low power
  let highFits := a.readsBack (low + 1) power
  let twice := 2 * (n % d)
  if lowFits && highFits then
    if twice < d then some low else if d < twice then some (low + 1) else some (low + low % 2)
  else if lowFits then some low
  else if highFits then some (low + 1)
  else none

def shortestFrom (a : Binary64) (place : Int) : Nat → Nat → Nat × Int
  | 0, digits => (0, place - digits)
  | fuel + 1, digits =>
    match a.onGrid? (place - digits) with
    | some n => (n, place - digits)
    | none => shortestFrom a place fuel (digits + 1)

/-- The digits of a number other than zero, and the power of ten of the last one. The grid of
one digit may give ten, which is one on the grid above. -/
def shortest (a : Binary64) : Nat × Int :=
  let (n, power) := shortestFrom a a.place 17 1
  if n = 10 then (1, power + 1) else (n, power)

/-- The greatest place of a number written without an exponent. -/
def greatestPlain : Int := 16

/-- The least place of a number written without an exponent is one above this. -/
def belowPlain : Int := -5

/-- An exponent, always with its sign. -/
def exponentText (e : Int) : String :=
  "e" ++ (if 0 ≤ e then "+" else "-") ++ toString e.natAbs

/-- The number in decimal: plain between `10 ^ -5` and `10 ^ 16`, with a fraction, and with
an exponent elsewhere. -/
def text (a : Binary64) : String :=
  if a.mantissa = 0 then "0.0"
  else
    let (n, power) := a.shortest
    let digits := Nat.toDigits 10 n
    let place : Int := digits.length + power
    let zeros (k : Int) : List Char := List.replicate k.toNat '0'
    let plain (whole fraction : List Char) : String := String.ofList (whole ++ '.' :: fraction)
    if 0 ≤ power ∧ place ≤ greatestPlain then plain (digits ++ zeros power) ['0']
    else if 0 < place ∧ place ≤ greatestPlain then
      plain (digits.take place.toNat) (digits.drop place.toNat)
    else if belowPlain < place ∧ place ≤ 0 then plain ['0'] (zeros (-place) ++ digits)
    else
      let exponent := exponentText (place - 1)
      match digits with
      | [d] => String.ofList [d] ++ exponent
      | d :: rest => plain [d] rest ++ exponent
      | [] => exponent

end NamespaceEntry.Binary64
