import NamespaceEntry.Id.Range

/-!
# Id mappings

The ranges that a user namespace is given: one or more of user ids, and any number of
group ids, each in the order of the caller. A tool that writes them is given the process
whose ids it maps and then the fields of each range.
-/

namespace NamespaceEntry

structure ProcessId where
  raw : Int32
  deriving DecidableEq, Repr

def ProcessId.describe (p : ProcessId) : String := toString p.raw.toInt

/-- The arguments for a process and ranges of one kind, in the order of the ranges. -/
def IdRange.toolArguments (target : ProcessId) (ranges : List IdRange) : List String :=
  target.describe :: ranges.flatMap fields

structure IdMapping where
  uids : List IdRange
  gids : List IdRange
  uids_ne_nil : uids ≠ []
  uids_kind : ∀ r ∈ uids, r.kind = .uid
  gids_kind : ∀ r ∈ gids, r.kind = .gid
  deriving DecidableEq, Repr

namespace IdMapping

inductive Fault where
  | noUidRange
  | stray (range : IdRange) (list : IdKind)
  deriving DecidableEq, Repr

def Fault.message : Fault → String
  | .noUidRange => "a user namespace needs at least one uid range"
  | .stray range list => range.describe ++ " listed as a " ++ list.name ++ " range"

/-- The first range in a list of one kind that is of the other kind. -/
def stray? (kind : IdKind) (ranges : List IdRange) : Option IdRange :=
  ranges.find? fun r => r.kind != kind

theorem kind_of_stray?_eq_none {kind : IdKind} {ranges : List IdRange}
    (h : stray? kind ranges = none) : ∀ r ∈ ranges, r.kind = kind := by
  intro r hr
  have := List.find?_eq_none.mp h r hr
  simpa using this

/-- Makes a mapping; the user ids are looked at before the group ids. -/
def make (uids gids : List IdRange) : Except Fault IdMapping :=
  if uids_ne_nil : uids = [] then .error .noUidRange
  else match uids_kind : stray? .uid uids with
    | some range => .error (.stray range .uid)
    | none => match gids_kind : stray? .gid gids with
      | some range => .error (.stray range .gid)
      | none =>
        .ok ⟨uids, gids, uids_ne_nil, kind_of_stray?_eq_none uids_kind,
          kind_of_stray?_eq_none gids_kind⟩

def ranges (m : IdMapping) : IdKind → List IdRange
  | .uid => m.uids
  | .gid => m.gids

end IdMapping

end NamespaceEntry
