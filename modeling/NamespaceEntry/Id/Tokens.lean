import NamespaceEntry.Id.Mapping

/-!
# Ranges on the command line

A mapping is written as `u` and the fields of one or more user id ranges, then, if there
are group id ranges, `g` and the fields of these. The reader takes one token at a time and
stops at the first one that cannot belong to a mapping.
-/

namespace NamespaceEntry.RangeTokens

/-- The fields of a range that is not complete. -/
inductive Pending where
  | none
  | one (first : String)
  | two (first second : String)
  deriving DecidableEq, Repr

def Pending.toList : Pending → List String
  | .none => []
  | .one first => [first]
  | .two first second => [first, second]

inductive Fault where
  | outside (token : String)
  | gidsFirst
  | uidsLate
  | duplicate (kind : IdKind)
  | incomplete (kind : IdKind) (fields : List String)
  | emptySection (kind : IdKind)
  | noSection
  | range (fault : IdRange.Fault)
  | mapping (fault : IdMapping.Fault)
  deriving DecidableEq, Repr

def Fault.message : Fault → String
  | .outside token => "unexpected '" ++ token ++ "' before the 'u' section"
  | .gidsFirst => "gid ranges given without uid ranges ('u' must come first)"
  | .uidsLate => "'u' section must come before the 'g' section"
  | .duplicate kind => "duplicate '" ++ kind.marker ++ "' section"
  | .incomplete kind fields =>
    "incomplete " ++ kind.name ++ " range '" ++ String.intercalate " " fields ++
      "' (expected <ns start> <host start> <count>)"
  | .emptySection kind => "'" ++ kind.marker ++ "' section has no ranges"
  | .noSection => "usernsexec requires a 'u' section with at least one uid range"
  | .range fault => fault.message
  | .mapping fault => fault.message

/-- What has been read of a mapping. -/
structure State where
  current : Option IdKind := none
  pending : Pending := .none
  uids : List IdRange := []
  gids : List IdRange := []
  deriving DecidableEq, Repr

namespace State

def ranges (s : State) : IdKind → List IdRange
  | .uid => s.uids
  | .gid => s.gids

/-- Checks that the section that ends here is complete and not empty. -/
def close (s : State) : Except Fault Unit :=
  match s.current with
  | none => .ok ()
  | some kind =>
    if s.pending ≠ .none then .error (.incomplete kind s.pending.toList)
    else if (s.ranges kind).isEmpty then .error (.emptySection kind)
    else .ok ()

/-- Checks that a section may begin here: user ids first, then group ids, each once. -/
def mayOpen (s : State) (kind : IdKind) : Except Fault Unit :=
  match s.current, kind with
  | none, .uid | some .uid, .gid => .ok ()
  | none, .gid => .error .gidsFirst
  | some .gid, .uid => .error .uidsLate
  | some .uid, .uid | some .gid, .gid => .error (.duplicate kind)

/-- Adds a complete range at the end of the ranges of its section. -/
def add (s : State) (kind : IdKind) (range : IdRange) : State :=
  match kind with
  | .uid => { s with pending := .none, uids := s.uids ++ [range] }
  | .gid => { s with pending := .none, gids := s.gids ++ [range] }

/-- Takes a token that opens no section: the third field completes a range. -/
def takeField (s : State) (token : String) : Except Fault State :=
  match s.current with
  | none => .error (.outside token)
  | some kind =>
    match s.pending with
    | .none => .ok { s with pending := .one token }
    | .one first => .ok { s with pending := .two first token }
    | .two first second =>
      match IdRange.read kind first second token with
      | .ok range => .ok (s.add kind range)
      | .error fault => .error (.range fault)

def step (s : State) (token : String) : Except Fault State :=
  match IdKind.ofMarker? token with
  | some kind => do
    s.close
    s.mayOpen kind
    return { s with current := some kind }
  | none => s.takeField token

/-- The mapping, if the tokens may end here. -/
def finish (s : State) : Except Fault IdMapping := do
  s.close
  if s.uids.isEmpty then .error .noSection
  else (IdMapping.make s.uids s.gids).mapError .mapping

end State

def read (tokens : List String) : Except Fault IdMapping := do
  (← tokens.foldlM State.step {}).finish

end NamespaceEntry.RangeTokens
