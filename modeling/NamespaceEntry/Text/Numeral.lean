/-!
# Decimal numerals

`read` accepts an optional plus sign and one or more ASCII digits whose value is below
2^32. It stops at the first character that rules the numeral out.
-/

namespace NamespaceEntry.Numeral

inductive Fault where
  | empty
  | notDigit
  | tooLarge
  deriving DecidableEq, Repr

def Fault.message : Fault → String
  | .empty => "cannot parse integer from empty string"
  | .notDigit => "invalid digit found in string"
  | .tooLarge => "number too large to fit in target type"

def digit? (c : Char) : Option Nat :=
  if '0' ≤ c ∧ c ≤ '9' then some (c.toNat - '0'.toNat) else none

/-- Reads digits after a numeral of value `n`. -/
def readDigits (n : Nat) : List Char → Except Fault Nat
  | [] => .ok n
  | c :: rest =>
    match digit? c with
    | none => .error .notDigit
    | some d => if n * 10 + d < UInt32.size then readDigits (n * 10 + d) rest else .error .tooLarge

def unsigned : List Char → List Char
  | '+' :: rest => rest
  | text => text

def readChars (text : List Char) : Except Fault Nat :=
  match text with
  | [] => .error .empty
  | _ =>
    match unsigned text with
    | [] => .error .notDigit
    | digits => readDigits 0 digits

def read (text : String) : Except Fault UInt32 :=
  (readChars text.toList).map Nat.toUInt32

def write (n : UInt32) : String := toString n.toNat

end NamespaceEntry.Numeral
