import NamespaceEntry.Json.Tree
import NamespaceEntry.Error
import NamespaceEntry.Text.Quoted

/-!
# Readers of JSON

A reader walks a tree from left to right and stops at the first fault, of the text or of
the data in it. Records may be objects, whose unknown members are skipped in outline, or
arrays of their fields in order.
-/

namespace NamespaceEntry.Json

/-- A value that a reader did not expect, as far as a message tells. -/
inductive Found where
  | null
  | bool (value : Bool)
  | number (value : Number)
  | string (value : String)
  | sequence
  | map
  deriving DecidableEq, Repr

def Found.describe : Found → String
  | .null => "null"
  | .bool value => "boolean \x60" ++ toString value ++ "\x60"
  | .number value => value.describe
  | .string value => "string " ++ Quoted.ofString value
  | .sequence => "sequence"
  | .map => "map"

/-- Why data of the right form is refused. -/
inductive DataFault where
  | wrongType (found : Found) (expected : String)
  | outOfRange (value : Int) (expected : String)
  | unknownVariant (name : String)
  | missingField (name : String)
  | duplicateField (name : String)
  | wrongLength (length : Nat) (expected : String)
  | invalid (fault : ConfigFault)
  deriving DecidableEq, Repr

def DataFault.message : DataFault → String
  | .wrongType found expected => "invalid type: " ++ found.describe ++ ", expected " ++ expected
  | .outOfRange value expected =>
    "invalid value: integer \x60" ++ toString value ++ "\x60, expected " ++ expected
  | .unknownVariant name =>
    "unknown variant \x60" ++ name ++ "\x60, expected \x60uid\x60 or \x60gid\x60"
  | .missingField name => "missing field \x60" ++ name ++ "\x60"
  | .duplicateField name => "duplicate field \x60" ++ name ++ "\x60"
  | .wrongLength length expected =>
    "invalid length " ++ toString length ++ ", expected " ++ expected
  | .invalid fault => (Error.invalidConfig fault).message

inductive Fault where
  | text (fault : TextFault)
  | data (fault : DataFault)
  deriving DecidableEq, Repr

abbrev Reader (α : Type) := Tree → Except Fault α

def ofText {α : Type} (e : Except TextFault α) : Except Fault α := e.mapError .text

def refuse {α : Type} (fault : DataFault) : Except Fault α := .error (.data fault)

/-- What a message tells about a value, unless the text goes wrong there. -/
def Tree.found : Tree → Except TextFault Found
  | .word value => do
    match ← value with
    | .null => return .null
    | .bool b => return .bool b
  | .number value => value.value.map .number
  | .string value => value.value.map .string
  | .array _ _ => .ok .sequence
  | .object _ _ => .ok .map
  | .missing fault => .error fault

/-- Refuses a value of another type than the expected one. -/
def wrongType {α : Type} (t : Tree) (expected : String) : Except Fault α := do
  refuse (.wrongType (← ofText t.found) expected)

mutual

def Tree.skip : Tree → Except TextFault Unit
  | .word value => value.map fun _ => ()
  | .number value => value.outline
  | .string value => value.outline
  | .array items tail => skipItems items tail
  | .object members tail => skipMembers members tail
  | .missing fault => .error fault

def skipItems : List Tree → Tail → Except TextFault Unit
  | [], .closed => .ok ()
  | [], .cut fault => .error fault
  | t :: rest, tail =>
    match t.skip with
    | .ok _ => skipItems rest tail
    | .error fault => .error fault

def skipMembers : List Member → Tail → Except TextFault Unit
  | [], .closed => .ok ()
  | [], .cut fault => .error fault
  | m :: rest, tail =>
    match m.skip with
    | .ok _ => skipMembers rest tail
    | .error fault => .error fault

def Member.skip : Member → Except TextFault Unit
  | .mk (.string key) value =>
    match key.outline with
    | .ok _ => value.skip
    | .error fault => .error fault
  | .mk (.missing fault) _ => .error fault

end

def Tail.check : Tail → Except Fault Unit
  | .closed => .ok ()
  | .cut fault => .error (.text fault)

def readBool : Reader Bool
  | .word (.ok (.bool b)) => .ok b
  | t => wrongType t "a boolean"

def readInt (expected : String) (least most : Int) : Reader Int
  | .number ⟨.ok (.integer n), _⟩ =>
    if least ≤ n ∧ n ≤ most then .ok n else refuse (.outOfRange n expected)
  | t => wrongType t expected

def readUInt32 (t : Tree) : Except Fault UInt32 :=
  (readInt "u32" 0 (UInt32.size - 1) t).map fun n => n.toNat.toUInt32

def readInt32 (t : Tree) : Except Fault Int32 :=
  (readInt "i32" Int32.minValue.toInt Int32.maxValue.toInt t).map Int32.ofInt

def readItems {α : Type} (read : Reader α) : List Tree → Tail → Except Fault (List α)
  | [], tail => do
    tail.check
    return []
  | t :: rest, tail => do
    let a ← read t
    return a :: (← readItems read rest tail)

def readList {α : Type} (read : Reader α) : Reader (List α)
  | .array items tail => readItems read items tail
  | t => wrongType t "a sequence"

/-- A field of a record that is read into `σ`. -/
structure Field (σ : Type) where
  name : String
  known : σ → Bool
  read : Tree → σ → Except Fault σ
  /-- What stands for a field that is not there, if it may be left out. -/
  absent : Option (σ → σ) := none

/-- A record: its name in messages and its fields in order. -/
structure Record (σ : Type) where
  name : String
  fields : List (Field σ)

namespace Record

variable {σ : Type}

def expected (r : Record σ) : String := "struct " ++ r.name

def fill (missing : DataFault) (s : σ) (f : Field σ) : Except Fault σ :=
  if f.known s then .ok s
  else match f.absent with
    | some absent => .ok (absent s)
    | none => refuse missing

/-- Reads the members of an object in the order in which they are written. A field may
come once; what is no field is skipped. -/
def readMembers (r : Record σ) (s : σ) : List Member → Tail → Except Fault σ
  | [], tail => do
    tail.check
    r.fields.foldlM (fun s f => fill (.missingField f.name) s f) s
  | .mk (.missing fault) _ :: _, _ => .error (.text fault)
  | .mk (.string key) value :: rest, tail => do
    let key ← ofText key.value
    match r.fields.find? fun f => f.name == key with
    | none =>
      ofText value.skip
      r.readMembers s rest tail
    | some f =>
      if f.known s then refuse (.duplicateField f.name)
      else r.readMembers (← f.read value s) rest tail

def readFields (r : Record σ) (index : Nat) (s : σ) :
    List (Field σ) → List Tree → Tail → Except Fault σ
  | [], [], tail => do
    tail.check
    return s
  | [], _ :: _, _ => .error (.text .malformed)
  | f :: fields, [], tail => do
    tail.check
    let expected := r.expected ++ " with " ++ toString r.fields.length ++ " elements"
    r.readFields (index + 1) (← fill (.wrongLength index expected) s f) fields [] tail
  | f :: fields, t :: rest, tail => do
    r.readFields (index + 1) (← f.read t s) fields rest tail

/-- Reads the fields of a record into a state in which none is known. -/
def read (r : Record σ) (s : σ) : Reader σ
  | .object members tail => r.readMembers s members tail
  | .array items tail => r.readFields 0 s r.fields items tail
  | t => wrongType t r.expected

end Record

/-- Reads a text that holds one value and nothing after it. -/
def readText {α : Type} (read : Reader α) (text : String) : Except Fault α := do
  let (t, rest) := Tree.ofTokens (tokens text)
  let a ← read t
  if rest.isEmpty then return a else .error (.text .malformed)

end NamespaceEntry.Json
