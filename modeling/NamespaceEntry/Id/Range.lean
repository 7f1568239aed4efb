import NamespaceEntry.Id.Kind
import NamespaceEntry.Text.Numeral

/-!
# Id ranges

A range maps `count` ids from `namespaceStart` on to as many host ids from `hostStart` on.
It is not empty, and neither run of ids reaches past the last 32-bit id.
-/

namespace NamespaceEntry

/-- A run of ids inside a namespace and the host ids that they stand for. -/
structure IdRange where
  kind : IdKind
  namespaceStart : UInt32
  hostStart : UInt32
  count : UInt32
  count_pos : 0 < count.toNat
  namespace_fits : namespaceStart.toNat + count.toNat < UInt32.size
  host_fits : hostStart.toNat + count.toNat < UInt32.size
  deriving DecidableEq, Repr

namespace IdRange

/-- The three fields of a range as they are given. -/
inductive Field where
  | namespaceStart
  | hostStart
  | count
  deriving DecidableEq, Repr

def Field.name : Field → String
  | .namespaceStart => "namespace start"
  | .hostStart => "host start"
  | .count => "count"

inductive Fault where
  | unreadable (kind : IdKind) (field : Field) (value : String) (fault : Numeral.Fault)
  | zeroLength (kind : IdKind) (namespaceStart hostStart : UInt32)
  | overflow (kind : IdKind) (namespaceStart hostStart count : UInt32)
  deriving DecidableEq, Repr

def joinFields (fields : List UInt32) : String :=
  String.intercalate ":" (fields.map Numeral.write)

def Fault.message : Fault → String
  | .unreadable kind field value fault =>
    "invalid " ++ kind.name ++ " " ++ field.name ++ " '" ++ value ++ "': " ++ fault.message
  | .zeroLength kind namespaceStart hostStart =>
    kind.name ++ " range " ++ joinFields [namespaceStart, hostStart] ++ " has zero length"
  | .overflow kind namespaceStart hostStart count =>
    kind.name ++ " range " ++ joinFields [namespaceStart, hostStart, count] ++
      " overflows the id space"

/-- Makes a range; an empty one is refused before one that runs past the last id. -/
def make (kind : IdKind) (namespaceStart hostStart count : UInt32) : Except Fault IdRange :=
  if count_pos : 0 < count.toNat then
    if fits : namespaceStart.toNat + count.toNat < UInt32.size ∧
        hostStart.toNat + count.toNat < UInt32.size then
      .ok ⟨kind, namespaceStart, hostStart, count, count_pos, fits.1, fits.2⟩
    else
      .error (.overflow kind namespaceStart hostStart count)
  else
    .error (.zeroLength kind namespaceStart hostStart)

def readField (kind : IdKind) (field : Field) (value : String) : Except Fault UInt32 :=
  (Numeral.read value).mapError (.unreadable kind field value ·)

/-- Reads the three fields from left to right and makes a range of them. -/
def read (kind : IdKind) (namespaceStart hostStart count : String) : Except Fault IdRange := do
  let namespaceStart ← readField kind .namespaceStart namespaceStart
  let hostStart ← readField kind .hostStart hostStart
  let count ← readField kind .count count
  make kind namespaceStart hostStart count

def fields (r : IdRange) : List String :=
  [r.namespaceStart, r.hostStart, r.count].map Numeral.write

def describe (r : IdRange) : String :=
  r.kind.name ++ " " ++ joinFields [r.namespaceStart, r.hostStart, r.count]

end IdRange

end NamespaceEntry
