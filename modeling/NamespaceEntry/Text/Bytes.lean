/-!
# Byte strings

Arguments, paths and program names are byte strings: nothing gives them an encoding.
-/

namespace NamespaceEntry

/-- A byte string, such as an argument or a path. -/
abbrev Bytes := List UInt8

namespace Bytes

def ofString (s : String) : Bytes := s.toList.flatMap String.utf8EncodeChar

/-- The byte that ends a string at the system boundary, so that no argument may hold it. -/
def nul : UInt8 := 0

/-- Where the first NUL byte stands, counted from the front. -/
def nulPosition? (bytes : Bytes) : Option Nat := bytes.findIdx? (· == nul)

def ascii (c : Char) : UInt8 := c.toNat.toUInt8

end Bytes

end NamespaceEntry
