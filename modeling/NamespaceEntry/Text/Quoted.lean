import NamespaceEntry.Text.Utf8
import NamespaceEntry.Text.Unshown

/-!
# Quoted byte strings

A quoted string shows every byte: characters that can be seen stand for themselves, the
others are spelled out, and a byte that is no character is two hexadecimal digits.
-/

namespace NamespaceEntry.Quoted

/-- The digits of a number in base 16, in lower case. -/
def hex (n : Nat) : String := String.ofList (Nat.toDigits 16 n)

def hexByte (b : UInt8) : String :=
  let digits := (hex b.toNat).toUpper
  if b < 16 then "0" ++ digits else digits

def ofChar (c : Char) : String :=
  if c == '\x00' then "\\0"
  else if c == '\t' then "\\t"
  else if c == '\n' then "\\n"
  else if c == '\r' then "\\r"
  else if c == '"' then "\\\""
  else if c == '\\' then "\\\\"
  else if unshown c then "\\u\x7b" ++ hex c.toNat ++ "\x7d"
  else c.toString

/-- A piece of a byte string between quotation marks. -/
def ofPiece : Utf8.Piece → String
  | .char c => ofChar c
  | .invalid bytes => String.join (bytes.map fun b => "\\x" ++ hexByte b)

def ofBytes (bytes : Bytes) : String :=
  "\"" ++ String.join ((Utf8.pieces bytes).map ofPiece) ++ "\""

def ofString (s : String) : String := "\"" ++ String.join (s.toList.map ofChar) ++ "\""

end NamespaceEntry.Quoted
