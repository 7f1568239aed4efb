import NamespaceEntry.Text.Bytes

/-!
# Reading bytes as UTF-8

`pieces` cuts a byte string into characters and stretches that start no character. A
stretch is as long as the bytes could still have become a character, so each byte that
cannot continue is looked at again as a start.
-/

namespace NamespaceEntry.Utf8

/-- A stretch of a byte string: one character, or bytes that are none. -/
inductive Piece where
  | char (c : Char)
  | invalid (bytes : Bytes)
  deriving DecidableEq, Repr

/-- A character some of whose bytes are still to come. -/
structure Unfinished where
  bytes : Bytes
  value : Nat
  after : Nat
  /-- The least next byte that continues the character. -/
  least : UInt8 := 0x80
  /-- The greatest next byte that continues the character. -/
  most : UInt8 := 0xBF

/-- What a byte begins. -/
inductive Start where
  | whole (piece : Piece)
  | longer (character : Unfinished)

/-- The first byte decides the length; the bounds of the second one shut out overlong forms,
surrogates and values past the last character. -/
def start (b : UInt8) : Start :=
  let longer (value after : Nat) (least most : UInt8) : Start :=
    .longer { bytes := [b], value, after, least, most }
  if b < 0x80 then .whole (.char (Char.ofNat b.toNat))
  else if b < 0xC2 then .whole (.invalid [b])
  else if b < 0xE0 then longer (b.toNat - 0xC0) 0 0x80 0xBF
  else if b == 0xE0 then longer 0 1 0xA0 0xBF
  else if b == 0xED then longer 0xD 1 0x80 0x9F
  else if b < 0xF0 then longer (b.toNat - 0xE0) 1 0x80 0xBF
  else if b == 0xF0 then longer 0 2 0x90 0xBF
  else if b < 0xF4 then longer (b.toNat - 0xF0) 2 0x80 0xBF
  else if b == 0xF4 then longer 4 2 0x80 0x8F
  else .whole (.invalid [b])

/-- A byte that continues a character adds its six low bits. -/
def Unfinished.add (u : Unfinished) (b : UInt8) : Nat := u.value * 64 + (b.toNat - 0x80)

/-- `pieces` after the unfinished character `u?`. -/
def piecesAfter : Option Unfinished → Bytes → List Piece
  | none, [] => []
  | some u, [] => [.invalid u.bytes]
  | none, b :: rest =>
    match start b with
    | .whole p => p :: piecesAfter none rest
    | .longer u => piecesAfter (some u) rest
  | some u, b :: rest =>
    if u.least ≤ b ∧ b ≤ u.most then
      match u.after with
      | 0 => .char (Char.ofNat (u.add b)) :: piecesAfter none rest
      | n + 1 =>
        piecesAfter (some { bytes := u.bytes ++ [b], value := u.add b, after := n }) rest
    else
      .invalid u.bytes ::
        match start b with
        | .whole p => p :: piecesAfter none rest
        | .longer u => piecesAfter (some u) rest

/-- The characters and the stretches between them, in order. -/
def pieces (bytes : Bytes) : List Piece := piecesAfter none bytes

/-- Puts one replacement character for each stretch that is no character. -/
def Piece.lossy : Piece → Char
  | .char c => c
  | .invalid _ => '\ufffd'

/-- The text of a byte string, readable whatever its bytes are. -/
def lossy (bytes : Bytes) : String := String.ofList ((pieces bytes).map Piece.lossy)

/-- The character of a piece, if it is one. -/
def Piece.char? : Piece → Option Char
  | .char c => some c
  | .invalid _ => none

/-- The text of a byte string that is UTF-8 throughout. -/
def decode? (bytes : Bytes) : Option String :=
  ((pieces bytes).mapM Piece.char?).map String.ofList

end NamespaceEntry.Utf8
