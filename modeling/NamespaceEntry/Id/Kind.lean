/-!
# Kinds of id

A user namespace maps user ids and group ids separately.
-/

namespace NamespaceEntry

inductive IdKind where
  | uid
  | gid
  deriving DecidableEq, Repr

namespace IdKind

def name : IdKind → String
  | .uid => "uid"
  | .gid => "gid"

/-- The token that opens the ranges of a kind on the command line. -/
def marker : IdKind → String
  | .uid => "u"
  | .gid => "g"

def ofMarker? : String → Option IdKind
  | "u" => some .uid
  | "g" => some .gid
  | _ => none

end IdKind

end NamespaceEntry
