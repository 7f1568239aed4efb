import NamespaceEntry.Proofs.Id.Grammar

/-!
# Mappings as tokens

`rendering` writes a mapping as the tokens that the mapping tools are given for it, behind the
markers of their kinds. `tells_iff_spells` shows that the tokens of a mapping are just its
rendering, up to the zeros and the sign in front of a numeral.
-/

namespace NamespaceEntry.RangeTokens

open IdRange (Triple toolArguments)
open IdRange.Triple (Writes)
open Numeral (Pads)

/-- The tokens of a mapping, as its tools are given them for a process. -/
def rendering (target : ProcessId) (m : IdMapping) : List String :=
  IdKind.uid.marker :: (toolArguments target m.uids).tail ++
    if m.gids = [] then [] else IdKind.gid.marker :: (toolArguments target m.gids).tail

/-- A token says the same as a plain one: a numeral may be padded, nothing else may differ. -/
def Spells (token plain : String) : Prop :=
  token = plain ∨ Pads token plain ∧ ∃ n, plain = Numeral.write n

variable {kind : IdKind} {token : String} {tokens : List String} {n : UInt32} {r : IdRange}
  {rs ss : List IdRange} {m : IdMapping}

/-! ### What spells what -/

theorem marker_ne_write : kind.marker ≠ Numeral.write n := by
  intro same
  have none := ofMarker?_of_literal (Numeral.literal_write n)
  rw [← same, ofMarker?_eq_some.mpr rfl] at none
  cases none

theorem spells_marker : Spells token kind.marker ↔ token = kind.marker := by
  constructor
  · rintro (same | ⟨-, n, number⟩)
    · exact same
    · exact absurd number marker_ne_write
  · exact Or.inl

theorem spells_write : Spells token (Numeral.write n) ↔ Numeral.Literal token n.toNat := by
  rw [Numeral.literal_iff_pads]
  constructor
  · rintro (rfl | ⟨pads, -⟩)
    · exact ⟨0, Or.inl rfl⟩
    · exact pads
  · exact fun pads => Or.inr ⟨pads, n, rfl⟩

theorem spells_fields :
    List.Forall₂ Spells tokens r.fields ↔ ∃ x : Triple, tokens = x.tokens ∧ x.Writes r.kind r := by
  simp only [IdRange.fields, List.map_cons, List.map_nil, List.forall₂_cons_right_iff,
    List.forall₂_nil_right_iff, spells_write]
  constructor
  · rintro ⟨a, _, first, ⟨b, _, second, ⟨c, _, third, rfl, rfl⟩, rfl⟩, rfl⟩
    exact ⟨⟨a, b, c⟩, rfl, rfl, first, second, third⟩
  · rintro ⟨x, rfl, writes⟩
    exact ⟨_, _, writes.namespaceStart, ⟨_, _, writes.hostStart,
      ⟨_, _, writes.count, rfl, rfl⟩, rfl⟩, rfl⟩

theorem forall₂_append_right {α β : Type} {R : α → β → Prop} {l : List α} {bs cs : List β} :
    List.Forall₂ R l (bs ++ cs) ↔
      ∃ front back, l = front ++ back ∧ List.Forall₂ R front bs ∧ List.Forall₂ R back cs := by
  constructor
  · intro all
    refine ⟨l.take bs.length, l.drop bs.length, (List.take_append_drop ..).symm, ?_, ?_⟩
    · exact List.forall₂_take_append l bs cs all
    · exact List.forall₂_drop_append l bs cs all
  · rintro ⟨front, back, rfl, first, second⟩
    exact List.rel_append first second

theorem spells_ranges (same : ∀ r ∈ rs, r.kind = kind) :
    List.Forall₂ Spells tokens (rs.flatMap IdRange.fields) ↔
      ∃ xs : List Triple, tokens = xs.flatMap Triple.tokens ∧ List.Forall₂ (Writes kind) xs rs := by
  induction rs generalizing tokens with
  | nil => simp
  | cons r rs ih =>
    obtain ⟨rfl, others⟩ := List.forall_mem_cons.mp same
    simp only [List.flatMap_cons, forall₂_append_right, spells_fields, ih others,
      List.forall₂_cons_right_iff]
    constructor
    · rintro ⟨_, _, rfl, ⟨x, rfl, writes⟩, xs, rfl, all⟩
      exact ⟨x :: xs, rfl, x, xs, writes, all, rfl⟩
    · rintro ⟨_, rfl, x, xs, writes, all, rfl⟩
      exact ⟨_, _, rfl, ⟨x, rfl, writes⟩, xs, rfl, all⟩

theorem spells_listing (same : ∀ r ∈ rs, r.kind = kind) (target : ProcessId) :
    List.Forall₂ Spells tokens (kind.marker :: (toolArguments target rs).tail) ↔
      ∃ xs : List Triple, tokens = listing kind xs ∧ List.Forall₂ (Writes kind) xs rs := by
  rw [List.forall₂_cons_right_iff]
  simp only [spells_marker, toolArguments, List.tail_cons, spells_ranges same, listing]
  constructor
  · rintro ⟨_, _, rfl, ⟨xs, rfl, all⟩, rfl⟩
    exact ⟨xs, rfl, all⟩
  · rintro ⟨xs, rfl, all⟩
    exact ⟨_, _, rfl, ⟨xs, rfl, all⟩, rfl⟩

/-- The tokens of a mapping are those that spell its rendering. -/
theorem tells_iff_spells (target : ProcessId) :
    Tells tokens m ↔ List.Forall₂ Spells tokens (rendering target m) := by
  rw [rendering, forall₂_append_right]
  simp only [spells_listing m.uids_kind]
  constructor
  · rintro ⟨us, gs, -, rfl, writes, follow⟩
    refine ⟨_, _, rfl, ⟨us, rfl, writes⟩, ?_⟩
    -- The second marker is there just if ranges follow it.
    by_cases none : gs = []
    · subst none
      rw [List.forall₂_nil_left_iff.mp follow]
      exact .nil
    · have some : m.gids ≠ [] := fun empty =>
        none (List.forall₂_nil_right_iff.mp (empty ▸ follow))
      rw [if_neg none, if_neg some]
      exact (spells_listing m.gids_kind target).mpr ⟨gs, rfl, follow⟩
  · rintro ⟨_, back, rfl, ⟨us, rfl, writes⟩, rest⟩
    have more : us ≠ [] := fun empty =>
      m.uids_ne_nil (List.forall₂_nil_left_iff.mp (empty ▸ writes))
    by_cases none : m.gids = []
    · rw [if_pos none] at rest
      obtain rfl := List.forall₂_nil_right_iff.mp rest
      exact ⟨us, [], more, rfl, writes, none ▸ .nil⟩
    · rw [if_neg none] at rest
      obtain ⟨gs, rfl, follow⟩ := (spells_listing m.gids_kind target).mp rest
      have some : gs ≠ [] := fun empty =>
        none (List.forall₂_nil_left_iff.mp (empty ▸ follow))
      exact ⟨us, gs, more, by rw [layout, if_neg some], writes, follow⟩

theorem tells_rendering (target : ProcessId) (m : IdMapping) : Tells (rendering target m) m :=
  (tells_iff_spells target).mpr (List.forall₂_same.mpr fun _ _ => Or.inl rfl)

/-! ### Arguments of a tool -/

theorem length_toolArguments (target : ProcessId) (rs : List IdRange) :
    (toolArguments target rs).length = 1 + 3 * rs.length := by
  have fields : ∀ rs : List IdRange, (rs.flatMap IdRange.fields).length = 3 * rs.length := by
    intro rs
    induction rs with
    | nil => rfl
    | cons r rs ih =>
      rw [List.flatMap_cons, List.length_append, ih, List.length_cons]
      simp only [IdRange.fields, List.length_map, List.length_cons, List.length_nil]
      omega
  rw [toolArguments, List.length_cons, fields, Nat.add_comm]

/-- A range of a known kind can be told from its fields. -/
theorem fields_inj {r s : IdRange} (same : r.kind = s.kind) : r.fields = s.fields ↔ r = s := by
  obtain ⟨kind, a, b, n, _, _, _⟩ := r
  obtain ⟨_, a', b', n', _, _, _⟩ := s
  obtain rfl : kind = _ := same
  simp [IdRange.fields, Numeral.write_inj]

theorem flatMap_fields_inj (first : ∀ r ∈ rs, r.kind = kind) (second : ∀ s ∈ ss, s.kind = kind)
    (same : rs.flatMap IdRange.fields = ss.flatMap IdRange.fields) : rs = ss := by
  induction rs generalizing ss with
  | nil =>
    cases ss with
    | nil => rfl
    | cons s ss => cases same
  | cons r rs ih =>
    cases ss with
    | nil => cases same
    | cons s ss =>
      obtain ⟨kind_r, first⟩ := List.forall_mem_cons.mp first
      obtain ⟨kind_s, second⟩ := List.forall_mem_cons.mp second
      rw [List.flatMap_cons, List.flatMap_cons] at same
      obtain ⟨front, back⟩ := List.append_inj same rfl
      rw [(fields_inj (kind_r.trans kind_s.symm)).mp front, ih first second back]

theorem describe_inj {p q : ProcessId} : p.describe = q.describe ↔ p = q := by
  obtain ⟨p⟩ := p
  obtain ⟨q⟩ := q
  rw [ProcessId.describe, ProcessId.describe, Numeral.toString_inj, Int32.toInt_inj,
    ProcessId.mk.injEq]

/-! ### There and back -/

/-- A mapping is read back from its rendering, and from nothing but what spells this, so that
reading what has been read and rendered changes nothing. The arguments of a tool are the process and
three for each range, and they tell the process and the ranges of a kind. -/
theorem ofTokens_rendering :
    (∀ target m, IdMapping.ofTokens (rendering target m) = .ok m) ∧
    (∀ target tokens m, IdMapping.ofTokens tokens = .ok m ↔
      List.Forall₂ Spells tokens (rendering target m)) ∧
    (∀ target tokens, (IdMapping.ofTokens tokens >>= fun m =>
      IdMapping.ofTokens (rendering target m)) = IdMapping.ofTokens tokens) ∧
    (∀ target rs, (toolArguments target rs).length = 1 + 3 * rs.length) ∧
    ∀ target source kind rs ss, (∀ r ∈ rs, r.kind = kind) → (∀ s ∈ ss, s.kind = kind) →
      toolArguments target rs = toolArguments source ss → target = source ∧ rs = ss := by
  have told : ∀ tokens m, IdMapping.ofTokens tokens = .ok m ↔ Tells tokens m := by
    intro tokens m
    rw [IdMapping.ofTokens, mapError_eq_ok]
    exact ⟨tells_of_read, read_of_tells⟩
  have back : ∀ target m, IdMapping.ofTokens (rendering target m) = .ok m :=
    fun target m => (told _ m).mpr (tells_rendering target m)
  refine ⟨back, ?_, ?_, length_toolArguments, ?_⟩
  · intro target tokens m
    rw [told, tells_iff_spells target]
  · intro target tokens
    cases IdMapping.ofTokens tokens with
    | ok m => exact back target m
    | error cause => rfl
  · intro target source kind rs ss first second same
    obtain ⟨target', fields⟩ := List.cons.inj same
    exact ⟨describe_inj.mp target', flatMap_fields_inj first second fields⟩

/-- Signs and zeros are all that a mapping loses when it is rendered, and its tools are given no
more than tells it. -/
theorem ofTokens_rendering_padded :
    let user : IdRange := ⟨.uid, 0, 1000, 1, by decide, by decide, by decide⟩
    let group : IdRange := ⟨.gid, 5, 6, 7, by decide, by decide, by decide⟩
    let m : IdMapping := ⟨[user], [group], by simp, by simp [user], by simp [group]⟩
    let tokens := ["u", "+0", "0001000", "1", "g", "5", "06", "+007"]
    rendering ⟨42⟩ m = ["u", "0", "1000", "1", "g", "5", "6", "7"] ∧
      (IdMapping.ofTokens tokens = .ok m ∧ List.Forall₂ Spells tokens (rendering ⟨42⟩ m)) ∧
      ((∀ r ∈ m.ranges .gid, r.kind = .gid) ∧ (∀ r ∈ [group], r.kind = .gid) ∧
        toolArguments ⟨40 + 2⟩ (m.ranges .gid) = toolArguments ⟨42⟩ [group]) ∧
      (⟨40 + 2⟩ : ProcessId) = ⟨42⟩ ∧ m.ranges .gid = [group] := by
  intro user group m tokens
  obtain ⟨-, spelled, -, -, injective⟩ := ofTokens_rendering
  have accepted : IdMapping.ofTokens tokens = .ok m := by decide +kernel
  refine ⟨by decide +kernel, ⟨accepted, (spelled ⟨42⟩ tokens m).mp accepted⟩,
    ⟨m.gids_kind, m.gids_kind, rfl⟩, ?_⟩
  exact injective _ _ .gid _ _ m.gids_kind m.gids_kind rfl

end NamespaceEntry.RangeTokens
