import NamespaceEntry.Json.Reader
import NamespaceEntry.Json.Value
import NamespaceEntry.Namespaces

/-!
# The JSON forms of ranges, mappings, namespaces and process ids

Each noun is written as an object of its fields in order. It is read from such an object,
in any order of the members, or from an array of the fields, and only if it is valid.
-/

namespace NamespaceEntry

open Json

def IdKind.toJson (k : IdKind) : Value := .string k.name

def IdRange.toJson (r : IdRange) : Value :=
  let number (n : UInt32) : Value := .number (.ofNat n.toNat)
  .object [("kind", r.kind.toJson), ("namespace_start", number r.namespaceStart),
    ("host_start", number r.hostStart), ("count", number r.count)]

def IdMapping.toJson (m : IdMapping) : Value :=
  .object [("uids", .array (m.uids.map IdRange.toJson)),
    ("gids", .array (m.gids.map IdRange.toJson))]

def Namespaces.toJson (n : Namespaces) : Value :=
  .object [("mount", .bool n.mount), ("pid", .bool n.pid), ("user", .bool n.user)]

def ProcessId.toJson (p : ProcessId) : Value := .number (.ofInt p.raw.toInt)

namespace IdKind

def ofName? : String → Option IdKind
  | "uid" => some .uid
  | "gid" => some .gid
  | _ => none

def ofVariant (name : Scalar String) : Except Json.Fault IdKind := do
  let name ← ofText name.value
  match ofName? name with
  | some kind => return kind
  | none => refuse (.unknownVariant name)

def readUnit : Reader Unit
  | .word (.ok .null) => .ok ()
  | t => wrongType t "unit"

/-- Reads a kind: its name, or an object whose one member has the name and says nothing. -/
def ofJson : Reader IdKind
  | .string name => ofVariant name
  | .object (.mk (.string name) value :: rest) tail => do
    let kind ← ofVariant name
    readUnit value
    if rest.isEmpty then tail.check else .error (.text .malformed)
    return kind
  | .object (.mk (.missing fault) _ :: _) _ => .error (.text fault)
  | .missing fault => .error (.text fault)
  | _ => .error (.text .malformed)

end IdKind

/-- Takes a refusal of valid JSON for a fault of the data. -/
def Json.checked {α : Type} : Except ConfigFault α → Except Json.Fault α
  | .ok a => .ok a
  | .error fault => refuse (.invalid fault)

namespace IdRange

/-- The fields of a range that have been read. -/
structure Draft where
  kind : Option IdKind := none
  namespaceStart : Option UInt32 := none
  hostStart : Option UInt32 := none
  count : Option UInt32 := none

def record : Record Draft where
  name := "RawIdMapRange"
  fields := [
    { name := "kind", known := (·.kind.isSome),
      read := fun t s => do return { s with kind := some (← IdKind.ofJson t) } },
    { name := "namespace_start", known := (·.namespaceStart.isSome),
      read := fun t s => do return { s with namespaceStart := some (← readUInt32 t) } },
    { name := "host_start", known := (·.hostStart.isSome),
      read := fun t s => do return { s with hostStart := some (← readUInt32 t) } },
    { name := "count", known := (·.count.isSome),
      read := fun t s => do return { s with count := some (← readUInt32 t) } }]

def Draft.finish : Draft → Except Json.Fault IdRange
  | ⟨some kind, some namespaceStart, some hostStart, some count⟩ =>
    checked ((make kind namespaceStart hostStart count).mapError .range)
  | _ => refuse (.missingField "kind")

def ofJson : Reader IdRange := fun t => do (← record.read {} t).finish

end IdRange

namespace IdMapping

/-- The lists of a mapping that have been read. -/
structure Draft where
  uids : Option (List IdRange) := none
  gids : Option (List IdRange) := none

/-- The record of a mapping; the group ids may be left out. -/
def record : Record Draft where
  name := "RawIdMapping"
  fields := [
    { name := "uids", known := (·.uids.isSome),
      read := fun t s => do return { s with uids := some (← readList IdRange.ofJson t) } },
    { name := "gids", known := (·.gids.isSome),
      read := fun t s => do return { s with gids := some (← readList IdRange.ofJson t) },
      absent := some fun s => { s with gids := some [] } }]

def Draft.finish : Draft → Except Json.Fault IdMapping
  | ⟨some uids, some gids⟩ => checked ((make uids gids).mapError .mapping)
  | _ => refuse (.missingField "uids")

def ofJson : Reader IdMapping := fun t => do (← record.read {} t).finish

end IdMapping

namespace Namespaces

/-- The namespaces that have been read. -/
structure Draft where
  mount : Option Bool := none
  pid : Option Bool := none
  user : Option Bool := none

def record : Record Draft where
  name := "NamespaceRequest"
  fields := [
    { name := "mount", known := (·.mount.isSome),
      read := fun t s => do return { s with mount := some (← readBool t) } },
    { name := "pid", known := (·.pid.isSome),
      read := fun t s => do return { s with pid := some (← readBool t) } },
    { name := "user", known := (·.user.isSome),
      read := fun t s => do return { s with user := some (← readBool t) } }]

def Draft.finish : Draft → Except Json.Fault Namespaces
  | ⟨some mount, some pid, some user⟩ => .ok ⟨mount, pid, user⟩
  | _ => refuse (.missingField "mount")

def ofJson : Reader Namespaces := fun t => do (← record.read {} t).finish

end Namespaces

def ProcessId.ofJson : Reader ProcessId := fun t => (readInt32 t).map ProcessId.mk

end NamespaceEntry
