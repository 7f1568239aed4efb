import NamespaceEntry.Json.Document
import NamespaceEntry.Proofs.Id.Grammar
import NamespaceEntry.Proofs.Json.Records

/-!
# What is written is read

A range, a mapping or a choice of namespaces is told by every value that holds its fields, and every
text of such a value is read as it.
-/

namespace NamespaceEntry

namespace Json

namespace NumberText

open Numeral (le_ofDigitChars exists_eq_replicate_append)

theorem takeDigits_of_lt {bound n : Nat} {digits : List Char}
    (fits : Nat.ofDigitChars 10 digits n < bound) :
    takeDigits bound n (digits.map fun c => c.toNat - 48) =
      (Nat.ofDigitChars 10 digits n, []) := by
  induction digits generalizing n with
  | nil => rfl
  | cons c rest ih =>
    rw [Nat.ofDigitChars_cons, Nat.mul_comm 10 n] at fits ⊢
    have next : n * 10 + (c.toNat - 48) < bound := (le_ofDigitChars _ rest).trans_lt fits
    rw [List.map_cons, takeDigits, if_pos next]
    exact ih fits

theorem read_ofNat {n : Nat} (fits : n < significandBound) :
    (ofNat n).read = .ok (.integer n) := by
  have value : Nat.ofDigitChars 10 (Nat.toDigits 10 n) 0 = n := Nat.ofDigitChars_ten_toDigits
  have whole : takeDigits significandBound 0 (ofNat n).whole = (n, []) := by
    rw [ofNat, takeDigits_of_lt (by rwa [value]), value]
  rw [read, whole]
  rfl

/-- If the first digit of a number is a zero, no digit follows it. -/
theorem eq_nil_of_toDigits {n : Nat} {rest : List Char} (zero : Nat.toDigits 10 n = '0' :: rest) :
    rest = [] := by
  by_contra more
  have digits : ∀ c ∈ rest, c.isDigit := fun c member =>
    Nat.isDigit_of_mem_toDigits (by decide) (by decide) (zero ▸ List.mem_cons_of_mem _ member)
  have value : Nat.ofDigitChars 10 rest 0 = n := by
    have whole : Nat.ofDigitChars 10 (Nat.toDigits 10 n) 0 = n := Nat.ofDigitChars_ten_toDigits
    rwa [zero, Nat.ofDigitChars_cons] at whole
  obtain ⟨k, zeros⟩ := exists_eq_replicate_append more digits
  rw [value, zero] at zeros
  have size := congrArg List.length zeros
  simp at size
  omega

theorem bounds_of_mem_toDigits {n : Nat} {c : Char} (member : c ∈ Nat.toDigits 10 n) :
    48 ≤ c.toNat ∧ c.toNat ≤ 57 := by
  have digit := Nat.isDigit_of_mem_toDigits (by decide) (by decide) member
  rwa [Char.isDigit, Bool.and_eq_true, decide_eq_true_eq, decide_eq_true_eq] at digit

theorem sound_ofNat (n : Nat) : (ofNat n).Sound where
  whole_ne_nil := by simp [ofNat, Nat.toDigits_ne_nil]
  unpadded := by
    obtain ⟨c, rest, written⟩ := List.exists_cons_of_ne_nil (Nat.toDigits_ne_nil (b := 10) (n := n))
    have least := (bounds_of_mem_toDigits (written ▸ List.mem_cons_self)).1
    simp only [ofNat, written, List.map_cons, List.head?_cons, Option.some.injEq]
    intro first
    obtain rfl : c = '0' := Char.toNat_inj.mp (show c.toNat = 48 by omega)
    rw [eq_nil_of_toDigits written]
    rfl
  whole_lt := by
    intro d member
    obtain ⟨c, listed, rfl⟩ := List.mem_map.mp member
    have most := (bounds_of_mem_toDigits listed).2
    omega
  fraction_lt := nofun
  exponent_ne_nil := nofun
  exponent_lt := nofun

theorem written_ofNat (n : Nat) : Written (.number (ofNat n)) (Value.number (ofNat n)).write := by
  refine .number ⟨sound_ofNat n, [], .none, ?_⟩
  rw [Value.write, write]
  rfl

end NumberText

theorem readUInt32_tree (n : UInt32) : readUInt32 (Value.number (.ofNat n.toNat)).tree = .ok n := by
  have size := n.toNat_lt_size
  have fits : n.toNat < NumberText.significandBound := size.trans (by decide)
  rw [Value.tree, NumberText.read_ofNat fits, readUInt32, readInt, if_pos ⟨by omega, by omega⟩]
  exact congrArg Except.ok UInt32.ofNat_toNat

theorem written_bool (b : Bool) : Written (.bool b) (Value.bool b).write := by
  cases b
  · exact .bool false
  · exact .bool true

/-! ### Values that hold a record -/

theorem isSome_ite {α : Type} {p : Prop} [Decidable p] {a : α} :
    (if p then some a else none).isSome = decide p := by
  split <;> simp [*]

theorem holds_object (fields : List (String × Value)) : Holds fields (.object fields) := by
  refine .object (.of_eq (List.filter_eq_self.mpr ?_))
  exact fun m member => decide_eq_true (List.mem_map_of_mem member)

/-- What is written of a value is read as it, and so is every text of a value that tells it. -/
structure RoundTrip {α : Type} (read : Reader α) (write : α → Value) (Tells : α → Value → Prop) :
    Prop where
  own : ∀ a, readText read (write a).text = .ok a
  told : ∀ a v text, Tells a v → Written v text.toList → readText read text = .ok a

theorem roundTrip_of {α : Type} {read : Reader α} {write : α → Value} {Tells : α → Value → Prop}
    (written : ∀ a, Written (write a) (write a).write) (tells : ∀ a, Tells a (write a))
    (reads : ∀ a v, Tells a v → read v.tree = .ok a) : RoundTrip read write Tells where
  own a := by
    have own : Written (write a) (write a).text.toList := by
      rw [Value.text, String.toList_ofList]
      exact written a
    rw [readText_written read own, reads a _ (tells a)]
  told a v text told written := by rw [readText_written read written, reads a v told]

end Json

open Json

/-! ### Ranges -/

theorem IdKind.ofJson_tree (k : IdKind) : IdKind.ofJson k.toJson.tree = .ok k := by
  cases k <;> rfl

theorem IdKind.written_toJson (k : IdKind) : Written k.toJson k.toJson.write := by
  rw [toJson, Value.write]
  exact .string (writtenString_writeString _)

namespace IdRange

def value (r : IdRange) : String → Value
  | "kind" => r.kind.toJson
  | "namespace_start" => .number (.ofNat r.namespaceStart.toNat)
  | "host_start" => .number (.ofNat r.hostStart.toNat)
  | _ => .number (.ofNat r.count.toNat)

def Tells (r : IdRange) (v : Value) : Prop :=
  Holds [("kind", r.kind.toJson), ("namespace_start", .number (.ofNat r.namespaceStart.toNat)),
    ("host_start", .number (.ofNat r.hostStart.toNat)),
    ("count", .number (.ofNat r.count.toNat))] v

def draft (r : IdRange) (names : List String) : Draft where
  kind := if "kind" ∈ names then some r.kind else none
  namespaceStart := if "namespace_start" ∈ names then some r.namespaceStart else none
  hostStart := if "host_start" ∈ names then some r.hostStart else none
  count := if "count" ∈ names then some r.count else none

theorem tracks (r : IdRange) : record.Tracks r.value r.draft where
  known := by simp [record, draft, isSome_ite]
  read := by simp [record, draft, value, IdKind.ofJson_tree, readUInt32_tree]

theorem tells_toJson (r : IdRange) : r.Tells r.toJson := holds_object _

theorem written_toJson (r : IdRange) : Written r.toJson r.toJson.write := by
  refine written_object ?_
  simp [IdKind.written_toJson, NumberText.written_ofNat]

theorem ofJson_tree {r : IdRange} {v : Value} (tells : r.Tells v) :
    IdRange.ofJson v.tree = .ok r := by
  obtain ⟨all, listed, read⟩ := Record.read_of_holds r.tracks (by decide) tells
  have whole : r.draft all =
      ⟨some r.kind, some r.namespaceStart, some r.hostStart, some r.count⟩ := by
    simp only [Record.names, record, List.map_cons, List.map_nil, List.forall_mem_cons] at listed
    obtain ⟨kind, namespaceStart, hostStart, count, -⟩ := listed
    rw [draft, if_pos kind, if_pos namespaceStart, if_pos hostStart, if_pos count]
  have made : make r.kind r.namespaceStart r.hostStart r.count = .ok r :=
    make_eq_ok.mpr ⟨rfl, rfl, rfl, rfl⟩
  change record.read (r.draft []) v.tree >>= Draft.finish = _
  rw [read, whole, ok_bind, Draft.finish, made]
  rfl

end IdRange

/-! ### Mappings -/

namespace IdMapping

def Tells (m : IdMapping) (v : Value) : Prop :=
  ∃ uids gids, List.Forall₂ IdRange.Tells m.uids uids ∧ List.Forall₂ IdRange.Tells m.gids gids ∧
    Holds [("uids", .array uids), ("gids", .array gids)] v

def draft (m : IdMapping) (names : List String) : Draft where
  uids := if "uids" ∈ names then some m.uids else none
  gids := if "gids" ∈ names then some m.gids else none

theorem readList_tree {rs : List IdRange} {vs : List Value}
    (tells : List.Forall₂ IdRange.Tells rs vs) :
    readList IdRange.ofJson (Value.array vs).tree = .ok rs :=
  readItems_trees (tells.imp fun _ _ => IdRange.ofJson_tree)

theorem tracks {m : IdMapping} {uids gids : List Value}
    (hu : List.Forall₂ IdRange.Tells m.uids uids) (hg : List.Forall₂ IdRange.Tells m.gids gids) :
    record.Tracks (fun name => if name = "uids" then .array uids else .array gids) m.draft where
  known := by simp [record, draft, isSome_ite]
  read := by simp [record, draft, readList_tree hu, readList_tree hg]

theorem tells_toJson (m : IdMapping) : m.Tells m.toJson := by
  have each : ∀ rs : List IdRange, List.Forall₂ IdRange.Tells rs (rs.map IdRange.toJson) := by
    intro rs
    rw [List.forall₂_map_right_iff, List.forall₂_same]
    exact fun r _ => r.tells_toJson
  exact ⟨_, _, each m.uids, each m.gids, holds_object _⟩

theorem written_toJson (m : IdMapping) : Written m.toJson m.toJson.write := by
  have each : ∀ rs : List IdRange, Written (.array (rs.map IdRange.toJson))
      (Value.array (rs.map IdRange.toJson)).write := by
    intro rs
    refine written_array fun v member => ?_
    obtain ⟨r, -, rfl⟩ := List.mem_map.mp member
    exact r.written_toJson
  exact written_object (List.forall_mem_cons.mpr
    ⟨each m.uids, List.forall_mem_cons.mpr ⟨each m.gids, nofun⟩⟩)

theorem ofJson_tree {m : IdMapping} {v : Value} (tells : m.Tells v) :
    IdMapping.ofJson v.tree = .ok m := by
  obtain ⟨uids, gids, hu, hg, holds⟩ := tells
  obtain ⟨all, listed, read⟩ := Record.read_of_holds (tracks hu hg) (by decide) holds
  have whole : m.draft all = ⟨some m.uids, some m.gids⟩ := by
    simp only [Record.names, record, List.map_cons, List.map_nil, List.forall_mem_cons] at listed
    obtain ⟨uids, gids, -⟩ := listed
    rw [draft, if_pos uids, if_pos gids]
  have made : make m.uids m.gids = .ok m := RangeTokens.make_eq_ok.mpr ⟨rfl, rfl⟩
  change record.read (m.draft []) v.tree >>= Draft.finish = _
  rw [read, whole, ok_bind, Draft.finish, made]
  rfl

end IdMapping

/-! ### Namespaces -/

namespace Namespaces

def value (n : Namespaces) : String → Value
  | "mount" => .bool n.mount
  | "pid" => .bool n.pid
  | _ => .bool n.user

def Tells (n : Namespaces) (v : Value) : Prop :=
  Holds [("mount", .bool n.mount), ("pid", .bool n.pid), ("user", .bool n.user)] v

def draft (n : Namespaces) (names : List String) : Draft where
  mount := if "mount" ∈ names then some n.mount else none
  pid := if "pid" ∈ names then some n.pid else none
  user := if "user" ∈ names then some n.user else none

theorem tracks (n : Namespaces) : record.Tracks n.value n.draft where
  known := by simp [record, draft, isSome_ite]
  read := by simp [record, draft, value, Value.tree, readBool]

theorem tells_toJson (n : Namespaces) : n.Tells n.toJson := holds_object _

theorem written_toJson (n : Namespaces) : Written n.toJson n.toJson.write := by
  refine written_object ?_
  simp [written_bool]

theorem ofJson_tree {n : Namespaces} {v : Value} (tells : n.Tells v) :
    Namespaces.ofJson v.tree = .ok n := by
  obtain ⟨all, listed, read⟩ := Record.read_of_holds n.tracks (by decide) tells
  have whole : n.draft all = ⟨some n.mount, some n.pid, some n.user⟩ := by
    simp only [Record.names, record, List.map_cons, List.map_nil, List.forall_mem_cons] at listed
    obtain ⟨mount, pid, user, -⟩ := listed
    rw [draft, if_pos mount, if_pos pid, if_pos user]
  change record.read (n.draft []) v.tree >>= Draft.finish = _
  rw [read, whole]
  rfl

end Namespaces

/-- Ranges, mappings and choices of namespaces come back from every text that tells them: the one
that is written, those with other members among the fields or the fields in another order, and those
with the fields in an array. -/
theorem Json.roundTrip : RoundTrip IdRange.ofJson IdRange.toJson IdRange.Tells ∧
    RoundTrip IdMapping.ofJson IdMapping.toJson IdMapping.Tells ∧
    RoundTrip Namespaces.ofJson Namespaces.toJson Namespaces.Tells := by
  refine ⟨?_, ?_, ?_⟩
  · exact roundTrip_of IdRange.written_toJson IdRange.tells_toJson fun _ _ => IdRange.ofJson_tree
  · exact roundTrip_of IdMapping.written_toJson IdMapping.tells_toJson
      fun _ _ => IdMapping.ofJson_tree
  · exact roundTrip_of Namespaces.written_toJson Namespaces.tells_toJson
      fun _ _ => Namespaces.ofJson_tree

/-- A blank, an unknown member, the fields in the other order and a range in an array. -/
theorem Json.roundTrip_rearranged :
    readText IdMapping.ofJson " \x7b\"x\":[true],\"gids\":[],\"uids\":[[\"uid\",0,7,1]]\x7d" =
      .ok ⟨[⟨.uid, 0, 7, 1, by decide, by decide, by decide⟩], [], by decide, by decide,
        nofun⟩ := by
  let range : List Value := [IdKind.uid.toJson, .number (.ofNat 0), .number (.ofNat 7),
    .number (.ofNat 1)]
  let members : List (String × Value) :=
    [("x", .array [.bool true]), ("gids", .array []), ("uids", .array [.array range])]
  have known : Written (.array range) (Value.array range).write := by
    refine written_array ?_
    simp [range, IdKind.written_toJson, NumberText.written_ofNat]
  have written : Written (.object members) (Value.object members).write := by
    have flags : Written (.array [.bool true]) (Value.array [.bool true]).write :=
      written_array (by simp [written_bool])
    have none : Written (.array []) (Value.array []).write := written_array nofun
    have some : Written (.array [.array range]) (Value.array [.array range]).write :=
      written_array (by simpa using known)
    refine written_object ?_
    simp [members, flags, none, some]
  have text : " \x7b\"x\":[true],\"gids\":[],\"uids\":[[\"uid\",0,7,1]]\x7d".toList =
      ' ' :: (Value.object members).write := by decide +kernel
  refine roundTrip.2.1.told _ (.object members) _ ?_ (text ▸ .before (Or.inl rfl) written)
  exact ⟨[.array range], [], .cons .array .nil, .nil, .object (.swap ..)⟩

end NamespaceEntry
