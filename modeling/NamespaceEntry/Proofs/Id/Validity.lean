import NamespaceEntry.Json.Document
import NamespaceEntry.Proofs.Id.Grammar
import NamespaceEntry.Proofs.Json.Records

/-!
# Where ranges and mappings come from

Ranges are made of values, of tokens and of texts, and mappings of lists, of tokens and of texts.
Each of these sources offers something, sound or not, and `sources_validate` shows that it gives
what it offers just if that is sound, and never anything else.
-/

namespace NamespaceEntry

open Json

namespace IdRange

open Numeral (Literal)

/-! ### Ranges -/

structure Raw where
  kind : IdKind
  namespaceStart : UInt32
  hostStart : UInt32
  count : UInt32

def raw (r : IdRange) : Raw := ⟨r.kind, r.namespaceStart, r.hostStart, r.count⟩

/-- Counting up from an id does not wrap around, nor does it come to the last number, which is no
id. -/
def CountsUp (start count : UInt32) : Prop :=
  ∀ i < count, (start + i).toNat = start.toNat + i.toNat ∧ start + i ≠ 4294967295

structure Raw.Sound (x : Raw) : Prop where
  count_pos : 1 ≤ x.count.toNat
  namespace_fits : x.namespaceStart.toNat + x.count.toNat ≤ 4294967295
  host_fits : x.hostStart.toNat + x.count.toNat ≤ 4294967295
  namespace_ids : CountsUp x.namespaceStart x.count
  host_ids : CountsUp x.hostStart x.count

inductive Source where
  | values (x : Raw)
  | tokens (kind : IdKind) (x : Triple)
  | json (text : String)
  /-- A part of a text. -/
  | tree (t : Tree)

def Source.Gives : Source → IdRange → Prop
  | .values x, r => make x.kind x.namespaceStart x.hostStart x.count = .ok r
  | .tokens kind x, r => read kind x.namespaceStart x.hostStart x.count = .ok r
  | .json text, r => readText IdRange.ofJson text = .ok r
  | .tree t, r => IdRange.ofJson t = .ok r

/-- A source says four values, whether they are those of a range or not. -/
def Source.Offers : Source → Raw → Prop
  | .values x, y => x = y
  | .tokens kind x, y => kind = y.kind ∧ Literal x.namespaceStart y.namespaceStart.toNat ∧
      Literal x.hostStart y.hostStart.toNat ∧ Literal x.count y.count.toNat
  | .json text, y => readText (record.read {}) text =
      .ok ⟨some y.kind, some y.namespaceStart, some y.hostStart, some y.count⟩
  | .tree t, y => record.read {} t =
      .ok ⟨some y.kind, some y.namespaceStart, some y.hostStart, some y.count⟩

theorem countsUp_of_fits {start count : UInt32} (fits : start.toNat + count.toNat ≤ 4294967295) :
    CountsUp start count := by
  intro i below
  have less : i.toNat < count.toNat := below
  have sum : (start + i).toNat = start.toNat + i.toNat := by
    rw [UInt32.toNat_add]
    exact Nat.mod_eq_of_lt (by omega)
  refine ⟨sum, fun last => ?_⟩
  rw [last] at sum
  have value : (4294967295 : UInt32).toNat = 4294967295 := rfl
  omega

theorem sound_iff {x : Raw} : x.Sound ↔ ∃ r : IdRange, r.raw = x := by
  have size : UInt32.size = 4294967296 := rfl
  constructor
  · intro sound
    have fits := sound.namespace_fits
    have hostFits := sound.host_fits
    exact ⟨⟨x.kind, x.namespaceStart, x.hostStart, x.count, sound.count_pos, by omega, by omega⟩,
      rfl⟩
  · rintro ⟨r, rfl⟩
    have fits := r.namespace_fits
    have hostFits := r.host_fits
    have fits : r.raw.namespaceStart.toNat + r.raw.count.toNat ≤ 4294967295 := by
      simp only [raw]
      omega
    have hostFits : r.raw.hostStart.toNat + r.raw.count.toNat ≤ 4294967295 := by
      simp only [raw]
      omega
    exact ⟨r.count_pos, fits, hostFits, countsUp_of_fits fits, countsUp_of_fits hostFits⟩

theorem checked_eq_ok {α : Type} {x : Except ConfigFault α} {a : α} :
    checked x = .ok a ↔ x = .ok a := by
  cases x with
  | ok b => simp [checked]
  | error fault => simp [checked, refuse]

theorem finish_eq_ok {d : Draft} {r : IdRange} : d.finish = .ok r ↔
    d = ⟨some r.kind, some r.namespaceStart, some r.hostStart, some r.count⟩ := by
  unfold Draft.finish
  split
  · rw [checked_eq_ok, mapError_eq_ok, make_eq_ok]
    simp only [Draft.mk.injEq, Option.some.injEq, eq_comm]
  · rename_i incomplete
    exact ⟨nofun, fun whole => absurd whole (incomplete _ _ _ _)⟩

theorem ofJson_eq_ok {t : Tree} {r : IdRange} : IdRange.ofJson t = .ok r ↔ record.read {} t =
    .ok ⟨some r.kind, some r.namespaceStart, some r.hostStart, some r.count⟩ := by
  rw [IdRange.ofJson, bind_eq_ok]
  simp only [finish_eq_ok]
  exact ⟨fun ⟨_, read, whole⟩ => whole ▸ read, fun read => ⟨_, read, rfl⟩⟩

theorem gives_iff_offers {s : Source} {r : IdRange} : s.Gives r ↔ s.Offers r.raw := by
  cases s with
  | values x =>
    obtain ⟨kind, a, b, n⟩ := x
    rw [Source.Gives, make_eq_ok]
    simp only [Source.Offers, raw, Raw.mk.injEq, eq_comm]
  | tokens kind x =>
    rw [Source.Gives, read_eq_ok]
    exact ⟨fun writes => ⟨writes.kind.symm, writes.namespaceStart, writes.hostStart, writes.count⟩,
      fun ⟨kind, a, b, n⟩ => ⟨kind.symm, a, b, n⟩⟩
  | json text => rw [Source.Gives, readText_eq_ok, ofJson_eq_ok, ← readText_eq_ok]; rfl
  | tree t => exact ofJson_eq_ok

end IdRange

/-! ### Mappings -/

namespace IdMapping

open IdRange (checked_eq_ok)
open IdRange.Triple (Writes)

structure Sound (uids gids : List IdRange) : Prop where
  uids_ne_nil : uids ≠ []
  uids_kind : ∀ r ∈ uids, r.kind = .uid
  gids_kind : ∀ r ∈ gids, r.kind = .gid

inductive Source where
  | lists (uids gids : List IdRange)
  | arguments (tokens : List String)
  | json (text : String)

def Source.Gives : Source → IdMapping → Prop
  | .lists uids gids, m => make uids gids = .ok m
  | .arguments tokens, m => ofTokens tokens = .ok m
  | .json text, m => readText IdMapping.ofJson text = .ok m

def Source.Offers : Source → List IdRange → List IdRange → Prop
  | .lists uids' gids', uids, gids => uids' = uids ∧ gids' = gids
  | .arguments tokens, uids, gids => ∃ xs ys, tokens = RangeTokens.layout xs ys ∧
      List.Forall₂ (Writes .uid) xs uids ∧ List.Forall₂ (Writes .gid) ys gids
  | .json text, uids, gids => readText (record.read {}) text = .ok ⟨some uids, some gids⟩

def Source.Has : Source → IdRange.Source → Prop
  | .lists uids gids, part => ∃ r ∈ uids ++ gids, part = .values r.raw
  | .arguments tokens, part => ∃ kind x, x.tokens <:+: tokens ∧ part = .tokens kind x
  | .json text, part => ∃ list t, Inside list (Tree.ofTokens (tokens text)).1 ∧ Inside t list ∧
      part = .tree t

theorem finish_eq_ok {d : Draft} {m : IdMapping} :
    d.finish = .ok m ↔ d = ⟨some m.uids, some m.gids⟩ := by
  unfold Draft.finish
  split
  · rw [checked_eq_ok, mapError_eq_ok, RangeTokens.make_eq_ok]
    simp only [Draft.mk.injEq, Option.some.injEq, eq_comm]
  · rename_i incomplete
    exact ⟨nofun, fun whole => absurd whole (incomplete _ _)⟩

theorem ofJson_eq_ok {t : Tree} {m : IdMapping} :
    IdMapping.ofJson t = .ok m ↔ record.read {} t = .ok ⟨some m.uids, some m.gids⟩ := by
  rw [IdMapping.ofJson, bind_eq_ok]
  simp only [finish_eq_ok]
  exact ⟨fun ⟨_, read, whole⟩ => whole ▸ read, fun read => ⟨_, read, rfl⟩⟩

theorem ofTokens_eq_ok {tokens : List String} {m : IdMapping} :
    ofTokens tokens = .ok m ↔ RangeTokens.Tells tokens m := by
  rw [ofTokens, mapError_eq_ok]
  exact ⟨RangeTokens.tells_of_read, RangeTokens.read_of_tells⟩

theorem gives_iff_offers {s : Source} {m : IdMapping} : s.Gives m ↔ s.Offers m.uids m.gids := by
  cases s with
  | lists uids gids =>
    rw [Source.Gives, RangeTokens.make_eq_ok]
    simp only [Source.Offers, eq_comm]
  | arguments tokens =>
    rw [Source.Gives, ofTokens_eq_ok]
    constructor
    · exact fun ⟨xs, ys, _, laid, uids, gids⟩ => ⟨xs, ys, laid, uids, gids⟩
    · rintro ⟨xs, ys, laid, uids, gids⟩
      refine ⟨xs, ys, ?_, laid, uids, gids⟩
      rintro rfl
      exact m.uids_ne_nil (List.forall₂_nil_left_iff.mp uids)
  | json text => rw [Source.Gives, readText_eq_ok, ofJson_eq_ok, ← readText_eq_ok]; rfl

theorem exists_writes {kind : IdKind} {xs : List IdRange.Triple} {rs : List IdRange} {r : IdRange}
    (all : List.Forall₂ (Writes kind) xs rs) (member : r ∈ rs) : ∃ x ∈ xs, x.Writes kind r := by
  induction all with
  | nil => cases member
  | cons writes _ ih =>
    rcases List.mem_cons.mp member with rfl | later
    · exact ⟨_, List.mem_cons_self, writes⟩
    · obtain ⟨x, listed, same⟩ := ih later
      exact ⟨x, List.mem_cons_of_mem _ listed, same⟩

theorem infix_listing {kind : IdKind} {xs : List IdRange.Triple} {x : IdRange.Triple}
    (member : x ∈ xs) : x.tokens <:+: RangeTokens.listing kind xs := by
  have inner : x.tokens <:+: xs.flatMap IdRange.Triple.tokens :=
    List.infix_of_mem_flatten (List.mem_map_of_mem member)
  exact inner.trans (List.suffix_cons _ _).isInfix

theorem record_keeps (tree : Tree) : record.Keeps
    (fun d => ∀ rs, d.uids = some rs ∨ d.gids = some rs → ∀ r ∈ rs,
      ∃ list t, Inside list tree ∧ Inside t list ∧ IdRange.ofJson t = .ok r) (Inside · tree) where
  read := by
    simp only [record, List.forall_mem_cons]
    refine ⟨?_, ?_, nofun⟩
    · intro list d d' outer kept done
      obtain ⟨us, read, done⟩ := bind_eq_ok.mp done
      obtain rfl := Except.ok.inj done
      rintro rs (⟨⟨⟩⟩ | gids) r member
      · obtain ⟨t, inner, same⟩ := readList_inside read r member
        exact ⟨list, t, outer, inner, same⟩
      · exact kept rs (Or.inr gids) r member
    · intro list d d' outer kept done
      obtain ⟨gs, read, done⟩ := bind_eq_ok.mp done
      obtain rfl := Except.ok.inj done
      rintro rs (uids | ⟨⟨⟩⟩) r member
      · exact kept rs (Or.inl uids) r member
      · obtain ⟨t, inner, same⟩ := readList_inside read r member
        exact ⟨list, t, outer, inner, same⟩
  absent := by
    simp only [record, List.forall_mem_cons]
    refine ⟨nofun, ?_, nofun⟩
    rintro _ ⟨⟩ d kept rs (uids | ⟨⟨⟩⟩) r member
    · exact kept rs (Or.inl uids) r member
    · cases member

theorem exists_part {s : Source} {m : IdMapping} (gives : s.Gives m) :
    ∀ r ∈ m.uids ++ m.gids, ∃ part, s.Has part ∧ part.Gives r := by
  intro r member
  cases s with
  | lists uids gids =>
    obtain ⟨rfl, rfl⟩ := RangeTokens.make_eq_ok.mp gives
    exact ⟨.values r.raw, ⟨r, member, rfl⟩, IdRange.make_eq_ok.mpr ⟨rfl, rfl, rfl, rfl⟩⟩
  | arguments tokens =>
    obtain ⟨xs, ys, -, rfl, uids, gids⟩ := ofTokens_eq_ok.mp gives
    rcases List.mem_append.mp member with listed | listed
    · obtain ⟨x, here, writes⟩ := exists_writes uids listed
      exact ⟨.tokens .uid x, ⟨.uid, x, (infix_listing here).trans (List.infix_append' [] _ _), rfl⟩,
        IdRange.read_eq_ok.mpr writes⟩
    · obtain ⟨y, here, writes⟩ := exists_writes gids listed
      have some : ys ≠ [] := List.ne_nil_of_mem here
      refine ⟨.tokens .gid y, ⟨.gid, y, ?_, rfl⟩, IdRange.read_eq_ok.mpr writes⟩
      rw [RangeTokens.layout, if_neg some]
      exact (infix_listing here).trans (List.suffix_append _ _).isInfix
  | json text =>
    obtain ⟨-, done⟩ := readText_eq_ok.mp gives
    have read := ofJson_eq_ok.mp done
    have kept := Record.read_induction (record_keeps _) (by simp) read
    rcases List.mem_append.mp member with listed | listed
    · obtain ⟨list, t, outer, inner, same⟩ := kept m.uids (Or.inl rfl) r listed
      exact ⟨.tree t, ⟨list, t, outer, inner, rfl⟩, same⟩
    · obtain ⟨list, t, outer, inner, same⟩ := kept m.gids (Or.inr rfl) r listed
      exact ⟨.tree t, ⟨list, t, outer, inner, rfl⟩, same⟩

end IdMapping

/-- Whatever ranges and mappings are made of, they are made just if what is offered is sound, and of
what is offered: four values, as a caller gives them, tokens write them or a text has them, and two
lists of ranges. Every range in a mapping is made of a part of the source of the mapping. -/
theorem sources_validate :
    (∀ (s : IdRange.Source) x, (∃ r, s.Gives r ∧ r.raw = x) ↔ s.Offers x ∧ x.Sound) ∧
    (∀ (s : IdMapping.Source) uids gids,
      (∃ m, s.Gives m ∧ m.uids = uids ∧ m.gids = gids) ↔
        s.Offers uids gids ∧ IdMapping.Sound uids gids) ∧
    ∀ (s : IdMapping.Source) m, s.Gives m →
      ∀ r ∈ m.uids ++ m.gids, r.raw.Sound ∧ ∃ part, s.Has part ∧ part.Gives r := by
  refine ⟨fun s x => ⟨?_, ?_⟩, fun s uids gids => ⟨?_, ?_⟩, fun s m gives r member => ⟨?_, ?_⟩⟩
  · rintro ⟨r, gives, rfl⟩
    exact ⟨IdRange.gives_iff_offers.mp gives, IdRange.sound_iff.mpr ⟨r, rfl⟩⟩
  · rintro ⟨offers, sound⟩
    obtain ⟨r, rfl⟩ := IdRange.sound_iff.mp sound
    exact ⟨r, IdRange.gives_iff_offers.mpr offers, rfl⟩
  · rintro ⟨m, gives, rfl, rfl⟩
    exact ⟨IdMapping.gives_iff_offers.mp gives, m.uids_ne_nil, m.uids_kind, m.gids_kind⟩
  · rintro ⟨offers, some, users, groups⟩
    let m : IdMapping := ⟨uids, gids, some, users, groups⟩
    exact ⟨m, IdMapping.gives_iff_offers.mpr offers, rfl, rfl⟩
  · exact IdRange.sound_iff.mpr ⟨r, rfl⟩
  · exact IdMapping.exists_part gives r member

/-- A range can go as far as the last id but no further, alone and in the text of a mapping. -/
theorem sources_validate_boundary :
    let last : IdRange := ⟨.uid, 0, 4294967294, 1, by decide, by decide, by decide⟩
    let m : IdMapping := ⟨[last], [], by simp, by simp [last], nofun⟩
    let text := "\x7b\"uids\":[[\"uid\",0,4294967294,1]]\x7d"
    (∃ r, (IdRange.Source.json "[\"uid\",0,4294967294,1]").Gives r ∧ r.raw = last.raw) ∧
      (¬∃ r, (IdRange.Source.values ⟨.uid, 0, 4294967295, 1⟩).Gives r ∧
        r.raw = ⟨.uid, 0, 4294967295, 1⟩) ∧
      (IdMapping.Source.json text).Gives m ∧ last ∈ m.uids ++ m.gids ∧ last.raw.Sound ∧
        ∃ part, (IdMapping.Source.json text).Has part ∧ part.Gives last := by
  intro last m text
  have given : (IdMapping.Source.json text).Gives m := by
    show readText IdMapping.ofJson text = .ok m
    decide +kernel
  have listed : last ∈ m.uids ++ m.gids := List.mem_cons_self
  refine ⟨?_, ?_, given, listed, sources_validate.2.2 _ m given last listed⟩
  · exact (sources_validate.1 _ _).mpr ⟨rfl, IdRange.sound_iff.mpr ⟨last, rfl⟩⟩
  · intro given
    exact absurd ((sources_validate.1 _ _).mp given).2.host_fits (by decide)

end NamespaceEntry
