import Mathlib.Data.List.Forall2
import NamespaceEntry.Error
import NamespaceEntry.Proofs.Id.Ranges

/-!
# The grammar of a mapping

The tokens of a mapping are a listing of user id ranges and, if there are group id ranges, one of
these. `Reading` ties the tokens that have been taken to what the reader holds of them, so that what
is accepted is laid out like this, and `read_of_tells` takes the reader through every such layout.
-/

namespace NamespaceEntry.RangeTokens

open IdRange (Triple)
open IdRange.Triple (Writes)

/-! ### Layout -/

def listing (kind : IdKind) (xs : List Triple) : List String :=
  kind.marker :: xs.flatMap Triple.tokens

def layout (us gs : List Triple) : List String :=
  listing .uid us ++ if gs = [] then [] else listing .gid gs

/-- The tokens are those of one or more user id ranges and any number of group id ranges. -/
def Grammar (tokens : List String) : Prop :=
  ∃ us gs, us ≠ [] ∧ (∀ x ∈ us ++ gs, x.Valid) ∧ tokens = layout us gs

def Tells (tokens : List String) (m : IdMapping) : Prop :=
  ∃ us gs, us ≠ [] ∧ tokens = layout us gs ∧
    List.Forall₂ (Writes .uid) us m.uids ∧ List.Forall₂ (Writes .gid) gs m.gids

variable {s t : State} {kind : IdKind} {token : String} {tokens before : List String}
  {x : Triple} {r : IdRange} {m : IdMapping}

theorem listing_concat (kind : IdKind) (xs : List Triple) (x : Triple) :
    listing kind (xs ++ [x]) = listing kind xs ++ x.tokens := by
  simp [listing]

theorem ofMarker?_eq_some : IdKind.ofMarker? token = some kind ↔ token = kind.marker := by
  constructor
  · intro found
    unfold IdKind.ofMarker? at found
    split at found <;> cases found <;> rfl
  · rintro rfl
    cases kind <;> rfl

/-- No field of a range is taken for a marker. -/
theorem ofMarker?_of_literal {n : Nat} (literal : Numeral.Literal token n) :
    IdKind.ofMarker? token = none := by
  cases found : IdKind.ofMarker? token with
  | none => rfl
  | some kind =>
    obtain rfl := ofMarker?_eq_some.mp found
    obtain ⟨digits, written, -, all, -⟩ := literal
    rcases written with rfl | signed
    · cases kind <;> simp [IdKind.marker] at all
    · cases kind <;> simp [IdKind.marker] at signed

/-! ### Steps of the reader -/

theorem close_eq_ok : s.close = .ok () ↔
    ∀ kind, s.current = some kind → s.pending = .none ∧ s.ranges kind ≠ [] := by
  unfold State.close
  cases s.current with
  | none => simp
  | some kind =>
    by_cases complete : s.pending = .none <;> by_cases empty : s.ranges kind = [] <;>
      simp [complete, empty]

theorem mayOpen_eq_ok : s.mayOpen kind = .ok () ↔
    s.current = none ∧ kind = .uid ∨ s.current = some .uid ∧ kind = .gid := by
  unfold State.mayOpen
  cases s.current with
  | none => cases kind <;> simp
  | some current => cases current <;> cases kind <;> simp

theorem step_cases (taken : s.step token = .ok t) :
    (∃ kind, token = kind.marker ∧ s.close = .ok () ∧ s.mayOpen kind = .ok () ∧
      t = { s with current := some kind }) ∨
    IdKind.ofMarker? token = none ∧ s.takeField token = .ok t := by
  unfold State.step at taken
  cases found : IdKind.ofMarker? token with
  | none =>
    rw [found] at taken
    exact Or.inr ⟨rfl, taken⟩
  | some kind =>
    rw [found] at taken
    obtain ⟨⟨⟩, closed, taken⟩ := bind_eq_ok.mp taken
    obtain ⟨⟨⟩, opened, taken⟩ := bind_eq_ok.mp taken
    exact Or.inl ⟨kind, ofMarker?_eq_some.mp found, closed, opened, (Except.ok.inj taken).symm⟩

theorem step_marker (closed : s.close = .ok ()) (opened : s.mayOpen kind = .ok ()) :
    s.step kind.marker = .ok { s with current := some kind } := by
  rw [State.step, ofMarker?_eq_some.mpr rfl]
  simp [closed, opened, bind, Except.bind, pure, Except.pure]

theorem takeField_cases (taken : s.takeField token = .ok t) :
    ∃ kind, s.current = some kind ∧
      (s.pending = .none ∧ t = { s with pending := .one token } ∨
        (∃ first, s.pending = .one first ∧ t = { s with pending := .two first token }) ∨
        ∃ first second r, s.pending = .two first second ∧ Writes kind ⟨first, second, token⟩ r ∧
          t = s.add kind r) := by
  unfold State.takeField at taken
  split at taken
  · cases taken
  · rename_i kind here
    refine ⟨kind, here, ?_⟩
    split at taken
    · exact Or.inl ⟨‹_›, (Except.ok.inj taken).symm⟩
    · exact Or.inr (Or.inl ⟨_, ‹_›, (Except.ok.inj taken).symm⟩)
    · rename_i first second held
      split at taken
      · rename_i r done
        exact Or.inr (Or.inr ⟨first, second, r, held, IdRange.read_eq_ok.mp done,
          (Except.ok.inj taken).symm⟩)
      · cases taken

/-! ### What has been read -/

/-- The tokens of complete ranges, and what is held of them. -/
inductive Complete : List String → State → Prop where
  | nothing : Complete [] {}
  | uids (us : List Triple) {uids : List IdRange} (writes : List.Forall₂ (Writes .uid) us uids) :
      Complete (listing .uid us) { current := some .uid, uids }
  | gids (us gs : List Triple) {uids gids : List IdRange} (more : us ≠ [])
      (writes : List.Forall₂ (Writes .uid) us uids)
      (follows : List.Forall₂ (Writes .gid) gs gids) :
      Complete (listing .uid us ++ listing .gid gs) { current := some .gid, uids, gids }

/-- All the tokens that have been taken are held, those of the last range as they are. -/
def Reading (tokens : List String) (s : State) : Prop :=
  ∃ before, Complete before { s with pending := .none } ∧ tokens = before ++ s.pending.toList ∧
    (s.current = none → s.pending = .none)

theorem forall₂_concat {kind : IdKind} {xs : List Triple} {rs : List IdRange}
    (all : List.Forall₂ (Writes kind) xs rs) (writes : x.Writes kind r) :
    List.Forall₂ (Writes kind) (xs ++ [x]) (rs ++ [r]) :=
  List.rel_append all (.cons writes .nil)

theorem Complete.add (complete : Complete before { s with pending := .none })
    (here : s.current = some kind) (writes : x.Writes kind r) :
    Complete (before ++ x.tokens) (s.add kind r) := by
  obtain ⟨current, pending, uids, gids⟩ := s
  obtain rfl : current = some kind := here
  cases complete with
  | uids us all =>
    rw [← listing_concat]
    exact .uids _ (forall₂_concat all writes)
  | gids us gs more all follow =>
    rw [List.append_assoc, ← listing_concat]
    exact .gids us _ more all (forall₂_concat follow writes)

/-- A listing is opened only behind complete ranges, that of the group ids behind the other. -/
theorem Complete.enter (complete : Complete before { s with pending := .none })
    (closed : s.close = .ok ()) (opened : s.mayOpen kind = .ok ()) :
    Complete (before ++ [kind.marker]) { s with current := some kind, pending := .none } := by
  obtain ⟨current, pending, uids, gids⟩ := s
  rcases mayOpen_eq_ok.mp opened with ⟨here, rfl⟩ | ⟨here, rfl⟩
  · obtain rfl : current = none := here
    cases complete
    exact .uids [] .nil
  · obtain rfl : current = some .uid := here
    cases complete with
    | uids us all =>
      refine .gids us [] ?_ all .nil
      rintro rfl
      cases all
      exact (close_eq_ok.mp closed .uid rfl).2 rfl

theorem reading_of_step (reading : Reading tokens s) (taken : s.step token = .ok t) :
    Reading (tokens ++ [token]) t := by
  obtain ⟨before, complete, rfl, idle⟩ := reading
  rcases step_cases taken with ⟨kind, rfl, closed, opened, rfl⟩ | ⟨-, taken⟩
  · have none : s.pending = .none := by
      cases here : s.current with
      | none => exact idle here
      | some current => exact (close_eq_ok.mp closed current here).1
    refine ⟨before ++ [kind.marker], complete.enter closed opened, ?_, nofun⟩
    simp [none, Pending.toList]
  · obtain ⟨kind, here, ⟨held, rfl⟩ | ⟨first, held, rfl⟩ | ⟨first, second, r, held, writes, rfl⟩⟩ :=
      takeField_cases taken
    · exact ⟨before, complete, by simp [held, Pending.toList], by simp [here]⟩
    · exact ⟨before, complete, by simp [held, Pending.toList], by simp [here]⟩
    · have complete := complete.add here writes
      refine ⟨before ++ [first, second, token], ?_, ?_, ?_⟩
      · cases kind <;> exact complete
      · cases kind <;> simp [held, State.add, Pending.toList]
      · cases kind <;> exact fun none => absurd (here.symm.trans none) (by simp)

theorem reading_of_foldlM (reading : Reading before s)
    (taken : tokens.foldlM State.step s = .ok t) : Reading (before ++ tokens) t := by
  -- The tokens that have been taken grow as the others shrink, so the invariant goes with the state.
  induction tokens generalizing before s with
  | nil =>
    obtain rfl := Except.ok.inj taken
    rwa [List.append_nil]
  | cons token rest ih =>
    rw [List.foldlM_cons] at taken
    obtain ⟨next, first, taken⟩ := bind_eq_ok.mp taken
    have later := ih (reading_of_step reading first) taken
    rwa [List.append_assoc] at later

/-! ### The end of the tokens -/

theorem stray?_eq_none {kind : IdKind} {ranges : List IdRange}
    (same : ∀ r ∈ ranges, r.kind = kind) : IdMapping.stray? kind ranges = none := by
  rw [IdMapping.stray?, List.find?_eq_none]
  intro r member
  simp [same r member]

theorem make_eq_ok {uids gids : List IdRange} :
    IdMapping.make uids gids = .ok m ↔ m.uids = uids ∧ m.gids = gids := by
  unfold IdMapping.make
  constructor
  · intro made
    split at made
    · cases made
    · split at made
      · cases made
      · split at made
        · cases made
        · obtain rfl := Except.ok.inj made
          exact ⟨rfl, rfl⟩
  · rintro ⟨rfl, rfl⟩
    rw [dif_neg m.uids_ne_nil]
    split
    · rename_i stray
      cases stray.symm.trans (stray?_eq_none m.uids_kind)
    · split
      · rename_i stray
        cases stray.symm.trans (stray?_eq_none m.gids_kind)
      · rfl

theorem finish_eq_ok :
    s.finish = .ok m ↔ s.close = .ok () ∧ m.uids = s.uids ∧ m.gids = s.gids := by
  rw [State.finish, bind_eq_ok]
  constructor
  · rintro ⟨⟨⟩, closed, done⟩
    split at done
    · cases done
    · exact ⟨closed, make_eq_ok.mp (mapError_eq_ok.mp done)⟩
  · rintro ⟨closed, made⟩
    have some : s.uids ≠ [] := made.1 ▸ m.uids_ne_nil
    refine ⟨(), closed, ?_⟩
    rw [if_neg (by simpa using some)]
    exact mapError_eq_ok.mpr (make_eq_ok.mpr made)

theorem read_eq_ok : read tokens = .ok m ↔
    ∃ s, tokens.foldlM State.step {} = .ok s ∧ s.finish = .ok m := bind_eq_ok

theorem tells_of_read (accepted : read tokens = .ok m) : Tells tokens m := by
  obtain ⟨s, taken, done⟩ := read_eq_ok.mp accepted
  obtain ⟨closed, uids, gids⟩ := finish_eq_ok.mp done
  have reading : Reading [] {} := ⟨[], .nothing, rfl, fun _ => rfl⟩
  obtain ⟨before, complete, rfl, idle⟩ := reading_of_foldlM reading taken
  have some : s.uids ≠ [] := uids ▸ m.uids_ne_nil
  obtain ⟨current, pending, held, heldGids⟩ := s
  cases complete with
  | nothing => exact absurd rfl some
  | uids us writes =>
    obtain ⟨none, -⟩ := close_eq_ok.mp closed .uid rfl
    obtain rfl : pending = .none := none
    refine ⟨us, [], ?_, ?_, uids ▸ writes, gids ▸ .nil⟩
    · rintro rfl
      cases writes
      exact some rfl
    · simp [layout, Pending.toList]
  | gids us gs more writes follow =>
    obtain ⟨none, others⟩ := close_eq_ok.mp closed .gid rfl
    obtain rfl : pending = .none := none
    have further : gs ≠ [] := by
      rintro rfl
      cases follow
      exact others rfl
    refine ⟨us, gs, more, ?_, uids ▸ writes, gids ▸ follow⟩
    simp [layout, further, Pending.toList]

/-! ### Reading what is laid out -/

@[simp] theorem current_add (s : State) (kind : IdKind) (r : IdRange) :
    (s.add kind r).current = s.current := by
  cases kind <;> rfl

@[simp] theorem pending_add (s : State) (kind : IdKind) (r : IdRange) :
    (s.add kind r).pending = .none := by
  cases kind <;> rfl

@[simp] theorem ranges_add (s : State) (kind : IdKind) (r : IdRange) :
    (s.add kind r).ranges kind = s.ranges kind ++ [r] := by
  cases kind <;> rfl

theorem ranges_add_other (s : State) {kind other : IdKind} (differs : other ≠ kind) (r : IdRange) :
    (s.add kind r).ranges other = s.ranges other := by
  cases kind <;> cases other <;> first | rfl | exact absurd rfl differs

theorem foldlM_triple (here : s.current = some kind) (idle : s.pending = .none)
    (writes : x.Writes kind r) : x.tokens.foldlM State.step s = .ok (s.add kind r) := by
  obtain ⟨current, pending, uids, gids⟩ := s
  obtain rfl : current = some kind := here
  obtain rfl : pending = .none := idle
  have done := IdRange.read_eq_ok.mpr writes
  simp only [Triple.tokens, List.foldlM_cons, List.foldlM_nil, State.step,
    ofMarker?_of_literal writes.namespaceStart, ofMarker?_of_literal writes.hostStart,
    ofMarker?_of_literal writes.count, State.takeField, done, bind, Except.bind]
  cases kind <;> rfl

structure Gained (s : State) (kind : IdKind) (rs : List IdRange) (t : State) : Prop where
  current : t.current = some kind
  pending : t.pending = .none
  ranges : t.ranges kind = s.ranges kind ++ rs
  others : ∀ other ≠ kind, t.ranges other = s.ranges other

theorem Gained.close {rs : List IdRange} (gained : Gained s kind rs t) (some : rs ≠ []) :
    t.close = .ok () := by
  rw [close_eq_ok, gained.current]
  rintro _ ⟨⟩
  refine ⟨gained.pending, ?_⟩
  simp [gained.ranges, some]

theorem foldlM_triples {xs : List Triple} {rs : List IdRange} (here : s.current = some kind)
    (idle : s.pending = .none) (all : List.Forall₂ (Writes kind) xs rs) :
    ∃ t, (xs.flatMap Triple.tokens).foldlM State.step s = .ok t ∧ Gained s kind rs t := by
  induction all generalizing s with
  | nil => exact ⟨s, rfl, here, idle, (List.append_nil _).symm, fun _ _ => rfl⟩
  | @cons x r xs rs writes _ ih =>
    obtain ⟨t, taken, gained⟩ := ih (s := s.add kind r) (by simp [here]) (by simp)
    refine ⟨t, ?_, gained.current, gained.pending, ?_, ?_⟩
    · rw [List.flatMap_cons, List.foldlM_append, foldlM_triple here idle writes]
      exact taken
    · rw [gained.ranges, ranges_add, List.append_assoc]
      rfl
    · intro other differs
      rw [gained.others other differs, ranges_add_other s differs]

theorem foldlM_listing {xs : List Triple} {rs : List IdRange} (idle : s.pending = .none)
    (closed : s.close = .ok ()) (opened : s.mayOpen kind = .ok ())
    (all : List.Forall₂ (Writes kind) xs rs) :
    ∃ t, (listing kind xs).foldlM State.step s = .ok t ∧ Gained s kind rs t := by
  obtain ⟨t, taken, gained⟩ := foldlM_triples (s := { s with current := some kind }) rfl idle all
  refine ⟨t, ?_, ?_⟩
  · rw [listing, List.foldlM_cons, step_marker closed opened]
    exact taken
  · cases kind <;> exact ⟨gained.current, gained.pending, gained.ranges, gained.others⟩

theorem read_of_tells (tells : Tells tokens m) : read tokens = .ok m := by
  obtain ⟨us, gs, some, rfl, writes, follow⟩ := tells
  obtain ⟨t, taken, gained⟩ := foldlM_listing (s := {}) rfl rfl rfl writes
  have closed := gained.close m.uids_ne_nil
  have uids : t.uids = m.uids := gained.ranges
  have gids : t.gids = [] := gained.others .gid nofun
  refine read_eq_ok.mpr ?_
  by_cases none : gs = []
  · subst none
    have empty : m.gids = [] := List.forall₂_nil_left_iff.mp follow
    refine ⟨t, ?_, finish_eq_ok.mpr ⟨closed, uids.symm, empty.trans gids.symm⟩⟩
    simpa [layout] using taken
  · have opened : t.mayOpen .gid = .ok () := mayOpen_eq_ok.mpr (Or.inr ⟨gained.current, rfl⟩)
    obtain ⟨u, further, gained'⟩ := foldlM_listing gained.pending closed opened follow
    have others : m.gids ≠ [] := by
      intro empty
      rw [empty] at follow
      exact none (List.forall₂_nil_right_iff.mp follow)
    have uids' : u.uids = m.uids := (gained'.others .uid nofun).trans uids
    have gids' : u.gids = m.gids := by
      have all : u.gids = t.gids ++ m.gids := gained'.ranges
      rwa [gids, List.nil_append] at all
    refine ⟨u, ?_, finish_eq_ok.mpr ⟨gained'.close others, uids'.symm, gids'.symm⟩⟩
    rw [layout, if_neg none, List.foldlM_append, taken]
    exact further

/-! ### The grammar -/

theorem forall₂_of_valid (kind : IdKind) {xs : List Triple} (valid : ∀ x ∈ xs, x.Valid) :
    ∃ rs, List.Forall₂ (Writes kind) xs rs := by
  induction xs with
  | nil => exact ⟨[], .nil⟩
  | cons x xs ih =>
    obtain ⟨r, writes⟩ := (IdRange.valid_iff kind).mp (valid x List.mem_cons_self)
    obtain ⟨rs, all⟩ := ih fun y member => valid y (List.mem_cons_of_mem _ member)
    exact ⟨r :: rs, .cons writes all⟩

theorem valid_of_forall₂ {xs : List Triple} {rs : List IdRange}
    (all : List.Forall₂ (Writes kind) xs rs) : ∀ x ∈ xs, x.Valid := by
  induction all with
  | nil => exact nofun
  | cons writes _ ih => exact List.forall_mem_cons.mpr ⟨(IdRange.valid_iff kind).mpr ⟨_, writes⟩, ih⟩

theorem kind_of_forall₂ {xs : List Triple} {rs : List IdRange}
    (all : List.Forall₂ (Writes kind) xs rs) : ∀ r ∈ rs, r.kind = kind := by
  induction all with
  | nil => exact nofun
  | cons writes _ ih => exact List.forall_mem_cons.mpr ⟨writes.kind, ih⟩

/-- The grammar is just what tells a mapping. -/
theorem grammar_iff : Grammar tokens ↔ ∃ m, Tells tokens m := by
  constructor
  · rintro ⟨us, gs, some, valid, rfl⟩
    obtain ⟨first, second⟩ := List.forall_mem_append.mp valid
    obtain ⟨uids, writes⟩ := forall₂_of_valid .uid first
    obtain ⟨gids, follow⟩ := forall₂_of_valid .gid second
    have more : uids ≠ [] := by
      rintro rfl
      exact some (List.forall₂_nil_right_iff.mp writes)
    exact ⟨⟨uids, gids, more, kind_of_forall₂ writes, kind_of_forall₂ follow⟩,
      us, gs, some, rfl, writes, follow⟩
  · rintro ⟨m, us, gs, some, rfl, writes, follow⟩
    refine ⟨us, gs, some, ?_, rfl⟩
    exact List.forall_mem_append.mpr ⟨valid_of_forall₂ writes, valid_of_forall₂ follow⟩

/-- Tokens are accepted just if they are in the grammar, whatever their number and their texts, and
then they give the ranges that they write and no others, in order. All other tokens are a fault of
the configuration. -/
theorem ofTokens_iff_grammar (tokens : List String) :
    (∀ m, IdMapping.ofTokens tokens = .ok m ↔ Tells tokens m) ∧
    ((∃ m, IdMapping.ofTokens tokens = .ok m) ↔ Grammar tokens) ∧
    ((∃ fault, IdMapping.ofTokens tokens = .error (.invalidConfig (.tokens fault))) ↔
      ¬Grammar tokens) := by
  have accepted : ∀ m, IdMapping.ofTokens tokens = .ok m ↔ Tells tokens m := by
    intro m
    rw [IdMapping.ofTokens, mapError_eq_ok]
    exact ⟨tells_of_read, read_of_tells⟩
  have some : (∃ m, IdMapping.ofTokens tokens = .ok m) ↔ Grammar tokens := by
    rw [grammar_iff]
    exact exists_congr accepted
  refine ⟨accepted, some, ?_⟩
  rw [← some]
  unfold IdMapping.ofTokens
  cases read tokens with
  | ok m =>
    constructor
    · rintro ⟨fault, failed⟩
      cases failed
    · exact fun none => absurd ⟨m, rfl⟩ none
  | error fault =>
    constructor
    · rintro - ⟨m, done⟩
      cases done
    · exact fun _ => ⟨fault, rfl⟩

example : (IdMapping.ofTokens ["u", "+0", "0001000", "1", "g", "5", "6", "7"]).toOption.map
    (fun m => (m.uids.map IdRange.fields, m.gids.map IdRange.fields)) =
      some ([["0", "1000", "1"]], [["5", "6", "7"]]) := by
  decide +kernel

end NamespaceEntry.RangeTokens
