import NamespaceEntry.Json.Number

/-!
# Values of JSON and how they are written

`Value.write` gives the compact text of a value: no blanks, and in strings only what must
be escaped.
-/

namespace NamespaceEntry.Json

inductive Value where
  | null
  | bool (value : Bool)
  | number (value : NumberText)
  | string (value : String)
  | array (items : List Value)
  | object (members : List (String × Value))

def digitChar (d : Nat) : Char := Char.ofNat (48 + d)

def ExponentText.write (e : ExponentText) : List Char :=
  'e' :: (if e.negative then ['-'] else []) ++ e.digits.map digitChar

def NumberText.write (t : NumberText) : List Char :=
  (if t.negative then ['-'] else []) ++ t.whole.map digitChar ++
    (if t.fraction.isEmpty then [] else '.' :: t.fraction.map digitChar) ++
      (t.exponent.map ExponentText.write).getD []

def NumberText.ofNat (n : Nat) : NumberText :=
  { whole := (Nat.toDigits 10 n).map fun c => c.toNat - 48 }

def NumberText.ofInt (n : Int) : NumberText :=
  { NumberText.ofNat n.natAbs with negative := n < 0 }

/-- A character in a string. Controls are escaped, with a letter where there is one. -/
def writeChar (c : Char) : List Char :=
  if c == '"' then ['\\', '"']
  else if c == '\\' then ['\\', '\\']
  else if c == '\x08' then ['\\', 'b']
  else if c == '\x0c' then ['\\', 'f']
  else if c == '\n' then ['\\', 'n']
  else if c == '\r' then ['\\', 'r']
  else if c == '\t' then ['\\', 't']
  else if c.toNat < 0x20 then
    ['\\', 'u', '0', '0', Nat.digitChar (c.toNat / 16), Nat.digitChar (c.toNat % 16)]
  else [c]

def writeString (s : String) : List Char := '"' :: s.toList.flatMap writeChar ++ ['"']

mutual

def Value.write : Value → List Char
  | .null => ['n', 'u', 'l', 'l']
  | .bool true => ['t', 'r', 'u', 'e']
  | .bool false => ['f', 'a', 'l', 's', 'e']
  | .number value => value.write
  | .string value => writeString value
  | .array items => '[' :: writeItems items ++ [']']
  | .object members => '{' :: writeMembers members ++ ['}']

def writeItems : List Value → List Char
  | [] => []
  | [v] => v.write
  | v :: rest => v.write ++ ',' :: writeItems rest

def writeMembers : List (String × Value) → List Char
  | [] => []
  | [(key, v)] => writeString key ++ ':' :: v.write
  | (key, v) :: rest => writeString key ++ ':' :: v.write ++ ',' :: writeMembers rest

end

def Value.text (v : Value) : String := String.ofList v.write

end NamespaceEntry.Json
