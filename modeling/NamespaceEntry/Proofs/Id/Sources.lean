import NamespaceEntry.Proofs.Id.Validity
import NamespaceEntry.Proofs.Json.RoundTrip

/-!
# Sources agree

Values, tokens and texts that offer the same range are answered alike, whether the range is sound or
not: with the range, or with the same words. So are lists of ranges and the texts that tell them.
-/

namespace NamespaceEntry

open Json

/-- The words of a refusal of data. What is no JSON is refused in other ways. -/
def Json.Fault.words? : Json.Fault → Option String
  | .text _ => none
  | .data fault => some fault.message

def ConfigFault.words? (fault : ConfigFault) : Option String :=
  some (Error.invalidConfig fault).message

theorem Json.words_checked {α φ : Type} (x : Except φ α) (cause : φ → ConfigFault) :
    (checked (x.mapError cause)).mapError Json.Fault.words? =
      x.mapError fun fault => (cause fault).words? := by
  cases x <;> rfl

theorem Json.readText_of_whole {α : Type} {text : String} (read : Reader α)
    (whole : (Tree.ofTokens (tokens text)).2 = []) :
    readText read text = read (Tree.ofTokens (tokens text)).1 := by
  rw [readText]
  dsimp only
  rw [whole]
  cases read (Tree.ofTokens (tokens text)).1 <;> rfl

/-- The ways to say a kind: its name, alone or as the one member of an object. -/
inductive IdKind.SaidBy (k : IdKind) : Value → Prop where
  | name : k.SaidBy (.string k.name)
  | member : k.SaidBy (.object [(k.name, .null)])

theorem IdKind.ofJson_of_saidBy {k : IdKind} {v : Value} (said : k.SaidBy v) :
    IdKind.ofJson v.tree = .ok k := by
  cases said <;> cases k <;> rfl

/-! ### Ranges -/

namespace IdRange

open Numeral (Literal)

def Source.answer : Source → Except (Option String) IdRange
  | .values x => (make x.kind x.namespaceStart x.hostStart x.count).mapError
      fun fault => (ConfigFault.range fault).words?
  | .tokens kind x => (read kind x.namespaceStart x.hostStart x.count).mapError
      fun fault => (ConfigFault.range fault).words?
  | .json text => (readText IdRange.ofJson text).mapError Json.Fault.words?
  | .tree t => (IdRange.ofJson t).mapError Json.Fault.words?

variable {kind : IdKind} {x : Raw} {v : Value} {t : Tree} {text : String}

theorem read_of_literals {y : Triple} {a b n : UInt32} (first : Literal y.namespaceStart a.toNat)
    (second : Literal y.hostStart b.toNat) (third : Literal y.count n.toNat) :
    read kind y.namespaceStart y.hostStart y.count = make kind a b n := by
  rw [read, readField_eq_ok.mpr first, readField_eq_ok.mpr second, readField_eq_ok.mpr third]
  rfl

theorem ofJson_of_record (whole : record.read {} t =
    .ok ⟨some x.kind, some x.namespaceStart, some x.hostStart, some x.count⟩) :
    IdRange.ofJson t =
      checked ((make x.kind x.namespaceStart x.hostStart x.count).mapError .range) := by
  rw [IdRange.ofJson, whole]
  rfl

/-- All sources that offer the same values are answered as these values are. -/
theorem answer_of_offers {s : Source} (offers : s.Offers x) :
    s.answer = (Source.values x).answer := by
  cases s with
  | values y =>
    obtain rfl : y = x := offers
    rfl
  | tokens kind y =>
    obtain ⟨rfl, first, second, third⟩ := offers
    simp only [Source.answer, read_of_literals first second third]
  | json text =>
    obtain ⟨whole, read⟩ := readText_eq_ok.mp offers
    simp only [Source.answer, readText_of_whole _ whole, ofJson_of_record read, words_checked]
  | tree t =>
    simp only [Source.answer, ofJson_of_record offers, words_checked]

theorem answer_values (x : Raw) :
    (x.count = 0 → (Source.values x).answer =
      .error (ConfigFault.range (.zeroLength x.kind x.namespaceStart x.hostStart)).words?) ∧
    (x.count ≠ 0 → 4294967295 < x.namespaceStart.toNat + x.count.toNat ∨
        4294967295 < x.hostStart.toNat + x.count.toNat → (Source.values x).answer =
      .error (ConfigFault.range
        (.overflow x.kind x.namespaceStart x.hostStart x.count)).words?) ∧
    (x.Sound → ∃ r, (Source.values x).answer = .ok r ∧ r.raw = x) := by
  refine ⟨?_, ?_, ?_⟩
  · intro zero
    have refused : make x.kind x.namespaceStart x.hostStart x.count =
        .error (.zeroLength x.kind x.namespaceStart x.hostStart) :=
      make_eq_error.mpr (Or.inl ⟨zero, rfl⟩)
    simp only [Source.answer, refused]
    rfl
  · intro some far
    have positive : 0 < x.count.toNat := by
      apply Nat.pos_of_ne_zero
      exact fun zero => some (UInt32.toNat_inj.mp zero)
    have refused : make x.kind x.namespaceStart x.hostStart x.count =
        .error (.overflow x.kind x.namespaceStart x.hostStart x.count) :=
      make_eq_error.mpr (Or.inr ⟨positive, far.imp Nat.succ_le_of_lt Nat.succ_le_of_lt, rfl⟩)
    simp only [Source.answer, refused]
    rfl
  · intro sound
    obtain ⟨r, rfl⟩ := sound_iff.mp sound
    have made : make r.kind r.namespaceStart r.hostStart r.count = .ok r :=
      make_eq_ok.mpr ⟨rfl, rfl, rfl, rfl⟩
    exact ⟨r, by simp only [Source.answer, raw, made]; rfl, rfl⟩

namespace Raw

/-- The value holds the fields of a range, sound or not. -/
def Tells (x : Raw) (v : Value) : Prop :=
  ∃ kind, x.kind.SaidBy kind ∧
    Holds [("kind", kind), ("namespace_start", .number (.ofNat x.namespaceStart.toNat)),
      ("host_start", .number (.ofNat x.hostStart.toNat)),
      ("count", .number (.ofNat x.count.toNat))] v

def value (x : Raw) (kind : Value) : String → Value
  | "kind" => kind
  | "namespace_start" => .number (.ofNat x.namespaceStart.toNat)
  | "host_start" => .number (.ofNat x.hostStart.toNat)
  | _ => .number (.ofNat x.count.toNat)

def draft (x : Raw) (names : List String) : Draft where
  kind := if "kind" ∈ names then some x.kind else none
  namespaceStart := if "namespace_start" ∈ names then some x.namespaceStart else none
  hostStart := if "host_start" ∈ names then some x.hostStart else none
  count := if "count" ∈ names then some x.count else none

theorem tracks {kind : Value} (said : x.kind.SaidBy kind) :
    record.Tracks (x.value kind) x.draft where
  known := by simp [record, draft, isSome_ite]
  read := by simp [record, draft, value, IdKind.ofJson_of_saidBy said, readUInt32_tree]

theorem record_of_tells (tells : x.Tells v) : record.read {} v.tree =
    .ok ⟨some x.kind, some x.namespaceStart, some x.hostStart, some x.count⟩ := by
  obtain ⟨kind, said, holds⟩ := tells
  obtain ⟨all, listed, read⟩ := Record.read_of_holds (tracks said) (by decide) holds
  have whole : x.draft all =
      ⟨some x.kind, some x.namespaceStart, some x.hostStart, some x.count⟩ := by
    simp only [Record.names, record, List.map_cons, List.map_nil, List.forall_mem_cons] at listed
    obtain ⟨known, namespaceStart, hostStart, count, -⟩ := listed
    rw [draft, if_pos known, if_pos namespaceStart, if_pos hostStart, if_pos count]
  rw [← whole]
  exact read

theorem offers_of_tells (tells : x.Tells v) (written : Written v text.toList) :
    (Source.json text).Offers x := by
  rw [Source.Offers, readText_written _ written]
  exact record_of_tells tells

end Raw

end IdRange

/-! ### Mappings -/

namespace IdMapping

open IdRange (Raw)

def Source.answer : Source → Except (Option String) IdMapping
  | .lists uids gids => (make uids gids).mapError fun fault => (ConfigFault.mapping fault).words?
  | .arguments tokens => (RangeTokens.read tokens).mapError
      fun fault => (ConfigFault.tokens fault).words?
  | .json text => (readText IdMapping.ofJson text).mapError Json.Fault.words?

/-- The value holds two lists. An empty list of group ids may be left out. -/
inductive HoldsLists (us gs : List Value) : Value → Prop where
  | both {v : Value} (holds : Holds [("uids", .array us), ("gids", .array gs)] v) :
      HoldsLists us gs v
  | members {ms : List (String × Value)} (none : gs = [])
      (only : (ms.filter fun m => m.1 ∈ ["uids", "gids"]) = [("uids", .array us)]) :
      HoldsLists us gs (.object ms)
  | items (none : gs = []) : HoldsLists us gs (.array [.array us])

/-- The value holds lists of values that tell the ranges, whether these make a mapping or not. -/
def ToldBy (uids gids : List IdRange) (v : Value) : Prop :=
  ∃ us gs, List.Forall₂ (fun r u => r.raw.Tells u) uids us ∧
    List.Forall₂ (fun r g => r.raw.Tells g) gids gs ∧ HoldsLists us gs v

def listsDraft (uids gids : List IdRange) (names : List String) : Draft where
  uids := if "uids" ∈ names then some uids else none
  gids := if "gids" ∈ names then some gids else none

variable {uids gids : List IdRange} {us gs : List Value} {v : Value} {t : Tree} {text : String}

theorem readList_of_tells (tells : List.Forall₂ (fun r u => r.raw.Tells u) uids us) :
    readList IdRange.ofJson (Value.array us).tree = .ok uids := by
  refine readItems_trees (tells.imp fun r u told => ?_)
  rw [IdRange.ofJson_of_record (Raw.record_of_tells told)]
  have made : IdRange.make r.kind r.namespaceStart r.hostStart r.count = .ok r :=
    IdRange.make_eq_ok.mpr ⟨rfl, rfl, rfl, rfl⟩
  simp only [IdRange.raw, made]
  rfl

theorem tracks_lists (hu : List.Forall₂ (fun r u => r.raw.Tells u) uids us)
    (hg : List.Forall₂ (fun r g => r.raw.Tells g) gids gs) :
    record.Tracks (fun name => if name = "uids" then .array us else .array gs)
      (listsDraft uids gids) where
  known := by simp [record, listsDraft, isSome_ite]
  read := by simp [record, listsDraft, readList_of_tells hu, readList_of_tells hg]

theorem record_of_toldBy (told : ToldBy uids gids v) :
    record.read {} v.tree = .ok ⟨some uids, some gids⟩ := by
  obtain ⟨us, gs, hu, hg, lists⟩ := told
  have tracks := tracks_lists hu hg
  cases lists with
  | both holds =>
    obtain ⟨all, listed, read⟩ := Record.read_of_holds tracks (by decide) holds
    have whole : listsDraft uids gids all = ⟨some uids, some gids⟩ := by
      simp only [Record.names, record, List.map_cons, List.map_nil, List.forall_mem_cons] at listed
      obtain ⟨first, second, -⟩ := listed
      rw [listsDraft, if_pos first, if_pos second]
    rw [← whole]
    exact read
  | @members ms none only =>
    subst none
    obtain rfl := List.forall₂_nil_right_iff.mp hg
    have names : record.names = ["uids", "gids"] := rfl
    have valued : ∀ m ∈ ms, m.1 ∈ record.names →
        m.2 = if m.1 = "uids" then .array us else .array [] := by
      intro m member listed
      have kept : m ∈ ms.filter fun m => m.1 ∈ ["uids", "gids"] :=
        List.mem_filter.mpr ⟨member, by simpa [names] using listed⟩
      rw [only, List.mem_singleton] at kept
      rw [kept]
      rfl
    have keys : (ms.filter fun m => m.1 ∈ record.names).map Prod.fst = ["uids"] := by
      rw [names, only]
      rfl
    have once : (([] : List String) ++
        (ms.filter fun m => m.1 ∈ record.names).map Prod.fst).Nodup := by
      rw [keys]
      exact List.pairwise_singleton _ _
    obtain ⟨all, same, read⟩ := Record.readMembers_tracks tracks valued once
    rw [keys] at same
    obtain rfl := List.perm_singleton.mp same
    exact read
  | items none =>
    subst none
    obtain rfl := List.forall₂_nil_right_iff.mp hg
    have list := readList_of_tells hu
    simp only [Value.tree] at list
    simp only [Value.tree, itemTrees, Record.read, record, Record.readFields, list, ok_bind]
    rfl

theorem ofJson_of_record (whole : record.read {} t = .ok ⟨some uids, some gids⟩) :
    IdMapping.ofJson t = checked ((make uids gids).mapError .mapping) := by
  rw [IdMapping.ofJson, whole]
  rfl

theorem offers_of_toldBy (told : ToldBy uids gids v) (written : Written v text.toList) :
    (Source.json text).Offers uids gids := by
  rw [Source.Offers, readText_written _ written]
  exact record_of_toldBy told

/-- A text that offers two lists is answered as the lists are. -/
theorem answer_of_offers (offers : (Source.json text).Offers uids gids) :
    (Source.json text).answer = (Source.lists uids gids).answer := by
  obtain ⟨whole, read⟩ := readText_eq_ok.mp offers
  simp only [Source.answer, readText_of_whole _ whole, ofJson_of_record read, words_checked]

end IdMapping

/-- Three values and a kind are answered alike, with the range or with the same words, whether they
are given as such, written as literals or told by a text, with the fields of an object in any order
or in an array. Two lists of ranges are answered alike as such and told by a text. -/
theorem sources_agree :
    (∀ (s : IdRange.Source) x, s.Offers x → s.answer = (IdRange.Source.values x).answer) ∧
    (∀ (x : IdRange.Raw) v text, x.Tells v → Written v text.toList →
      (IdRange.Source.json text).answer = (IdRange.Source.values x).answer) ∧
    (∀ x : IdRange.Raw,
      (x.count = 0 → (IdRange.Source.values x).answer =
        .error (ConfigFault.range (.zeroLength x.kind x.namespaceStart x.hostStart)).words?) ∧
      (x.count ≠ 0 → 4294967295 < x.namespaceStart.toNat + x.count.toNat ∨
          4294967295 < x.hostStart.toNat + x.count.toNat → (IdRange.Source.values x).answer =
        .error (ConfigFault.range
          (.overflow x.kind x.namespaceStart x.hostStart x.count)).words?) ∧
      (x.Sound → ∃ r, (IdRange.Source.values x).answer = .ok r ∧ r.raw = x)) ∧
    (∀ uids gids v text, IdMapping.ToldBy uids gids v → Written v text.toList →
      (IdMapping.Source.json text).answer = (IdMapping.Source.lists uids gids).answer) := by
  refine ⟨fun s x => IdRange.answer_of_offers, ?_, IdRange.answer_values, ?_⟩
  · intro x v text tells written
    exact IdRange.answer_of_offers (IdRange.Raw.offers_of_tells tells written)
  · intro uids gids v text told written
    exact IdMapping.answer_of_offers (IdMapping.offers_of_toldBy told written)

/-- Nothing is mapped and the first id would reach too far: all sources say the former. A group id
range among those of the user ids is refused in a text that leaves out the group ids. -/
theorem sources_agree_faulty :
    let x : IdRange.Raw := ⟨.gid, 4294967295, 0, 0⟩
    let words := some "Invalid configuration: gid range 4294967295:0 has zero length"
    let stray : IdRange := ⟨.gid, 0, 7, 1, by decide, by decide, by decide⟩
    (IdRange.Source.tokens .gid ⟨"+4294967295", "00", "0"⟩).Offers x ∧
      (IdRange.Source.tokens .gid ⟨"+4294967295", "00", "0"⟩).answer = .error words ∧
      (IdRange.Source.json "[\x7b\"gid\":null\x7d,4294967295,0,0]").answer = .error words ∧
      (IdMapping.Source.json "\x7b\"uids\":[[\"gid\",0,7,1]]\x7d").answer =
        (IdMapping.Source.lists [stray] []).answer := by
  intro x words stray
  obtain ⟨offered, told, values, lists⟩ := sources_agree
  have zero : (IdRange.Source.values x).answer = .error words := by
    rw [(values x).1 rfl]
    decide +kernel
  have offers : (IdRange.Source.tokens .gid ⟨"+4294967295", "00", "0"⟩).Offers x := by
    refine ⟨rfl, ?_, ?_, ?_⟩
    · exact Numeral.literal_iff_pads.mpr ⟨0, Or.inr (by decide +kernel)⟩
    · exact Numeral.literal_iff_pads.mpr ⟨1, Or.inl (by decide +kernel)⟩
    · exact Numeral.literal_iff_pads.mpr ⟨0, Or.inl (by decide +kernel)⟩
  let range : List Value := [.object [("gid", .null)], .number (.ofNat 4294967295),
    .number (.ofNat 0), .number (.ofNat 0)]
  have written : Written (.array range) (Value.array range).write := by
    have nothing : Written .null Value.null.write := .null
    have kind : Written (.object [("gid", .null)]) (Value.object [("gid", .null)]).write :=
      written_object (by simp [nothing])
    refine written_array ?_
    simp [range, kind, NumberText.written_ofNat]
  let item : List Value := [IdKind.gid.toJson, .number (.ofNat 0), .number (.ofNat 7),
    .number (.ofNat 1)]
  have listed : Written (.object [("uids", .array [.array item])])
      (Value.object [("uids", .array [.array item])]).write := by
    have known : Written (.array item) (Value.array item).write := by
      refine written_array ?_
      simp [item, IdKind.written_toJson, NumberText.written_ofNat]
    have outer : Written (.array [.array item]) (Value.array [.array item]).write :=
      written_array (by simpa using known)
    exact written_object (by simpa using outer)
  have text : "[\x7b\"gid\":null\x7d,4294967295,0,0]".toList = (Value.array range).write := by
    decide +kernel
  have lists' : "\x7b\"uids\":[[\"gid\",0,7,1]]\x7d".toList =
      (Value.object [("uids", .array [.array item])]).write := by
    decide +kernel
  refine ⟨offers, (offered _ x offers).trans zero, ?_, ?_⟩
  · exact (told x (.array range) _ ⟨_, .member, .array⟩ (text ▸ written)).trans zero
  · refine lists [stray] [] _ _ ⟨[.array item], [], ?_, .nil, ?_⟩ (lists' ▸ listed)
    · exact .cons ⟨_, .name, .array⟩ .nil
    · exact .members rfl rfl

end NamespaceEntry
