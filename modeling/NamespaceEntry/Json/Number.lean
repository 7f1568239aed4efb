import NamespaceEntry.Decimal.Shortest

/-!
# Numbers in JSON

`NumberText` is a number as it is written, `Number` what a reader takes it for: an integer
if it is written as one and fits 64 bits, else a floating-point number.
-/

namespace NamespaceEntry.Json

/-- How a text goes wrong: a character stands where it may not, or the text ends early. -/
inductive TextFault where
  | malformed
  | ended
  deriving DecidableEq, Repr

/-- The exponent of a number as it is written. -/
structure ExponentText where
  negative : Bool
  digits : List Nat
  deriving DecidableEq, Repr

structure NumberText where
  negative : Bool := false
  whole : List Nat := []
  fraction : List Nat := []
  exponent : Option ExponentText := none
  deriving DecidableEq, Repr

inductive Number where
  | integer (value : Int)
  | float (negative : Bool) (magnitude : Binary64)
  deriving DecidableEq, Repr

def Number.describe : Number → String
  | .integer value => "integer \x60" ++ toString value ++ "\x60"
  | .float negative magnitude =>
    "floating point \x60" ++ (if negative then "-" else "") ++ magnitude.text ++ "\x60"

namespace NumberText

/-- Digits are taken in as long as the value stays below this bound. -/
def significandBound : Nat := UInt64.size

/-- An exponent at or past this bound is not computed. -/
def exponentBound : Nat := 1 <<< 31

/-- Takes digits after the value `n`, and returns those that do not fit. -/
def takeDigits (bound n : Nat) : List Nat → Nat × List Nat
  | [] => (n, [])
  | d :: rest => if n * 10 + d < bound then takeDigits bound (n * 10 + d) rest else (n, d :: rest)

/-- The number `significand * 10 ^ power` as a float; one that is too large is malformed. -/
def float (negative : Bool) (significand : Nat) (power : Int) : Except TextFault Number :=
  match Binary64.ofParts? significand power with
  | some magnitude => .ok (.float negative magnitude)
  | none => .error .malformed

/-- An integer as it is read: zero with a sign and what does not fit 64 bits are floats. -/
def integer (negative : Bool) (n : Nat) : Except TextFault Number :=
  if negative then
    if n = 0 ∨ 1 <<< 63 < n then float true n 0 else .ok (.integer (-n))
  else .ok (.integer n)

def read (t : NumberText) : Except TextFault Number :=
  let (n, dropped) := takeDigits significandBound 0 t.whole
  let (significand, spare) := takeDigits significandBound n t.fraction
  let power : Int := dropped.length - (t.fraction.length - spare.length : Int)
  match t.exponent with
  | none =>
    if t.fraction.isEmpty && dropped.isEmpty then integer t.negative n
    else float t.negative significand power
  | some e =>
    match takeDigits exponentBound 0 e.digits with
    | (value, []) =>
      float t.negative significand (if e.negative then power - value else power + value)
    | _ =>
      if significand = 0 ∨ e.negative then .ok (.float t.negative .zero) else .error .malformed

end NumberText

end NamespaceEntry.Json
