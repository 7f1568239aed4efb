import NamespaceEntry.Proofs.Id.Ranges
import NamespaceEntry.Proofs.Json.Trees

/-!
# Reading records

A value holds fields if they are members of an object, in any order and among others, or the items
of an array. `read_of_holds` takes the reader of a record through every such value, and
`read_induction` says what can be in a record at all: what the parts of its tree are read as.
-/

namespace NamespaceEntry.Json

/-- The fields are the members of an object, in any order and with others between them, or they are
the items of an array. -/
inductive Holds (fields : List (String × Value)) : Value → Prop where
  | object {members : List (String × Value)}
      (h : (members.filter fun m => m.1 ∈ fields.map Prod.fst).Perm fields) :
      Holds fields (.object members)
  | array : Holds fields (.array (fields.map Prod.snd))

theorem ok_bind {α β : Type} (a : α) (f : α → Except Fault β) : (Except.ok a >>= f) = f a := rfl

theorem readItems_trees {α : Type} {read : Reader α} {as : List α} {vs : List Value}
    (all : List.Forall₂ (fun a v => read v.tree = .ok a) as vs) :
    readItems read (itemTrees vs) .closed = .ok as := by
  induction all with
  | nil => rfl
  | cons first _ ih => rw [itemTrees, readItems, first, ok_bind, ih]; rfl

namespace Record

variable {σ : Type} {r : Record σ} {value : String → Value} {draft : List String → σ}

/-- How drafts of a record go with the names of the fields that are known, if the fields have the
values. -/
structure Tracks (r : Record σ) (value : String → Value) (draft : List String → σ) : Prop where
  known : ∀ f ∈ r.fields, ∀ names, f.known (draft names) = decide (f.name ∈ names)
  read : ∀ f ∈ r.fields, ∀ names,
    f.read (value f.name).tree (draft names) = .ok (draft (f.name :: names))

def names (r : Record σ) : List String := r.fields.map Field.name

theorem foldlM_fill {fields : List (Field σ)} {s : σ} (all : ∀ f ∈ fields, f.known s = true) :
    fields.foldlM (fun s f => fill (.missingField f.name) s f) s = .ok s := by
  induction fields with
  | nil => rfl
  | cons f fields ih =>
    obtain ⟨first, others⟩ := List.forall_mem_cons.mp all
    rw [List.foldlM_cons, fill, if_pos first, ok_bind, ih others]

theorem readMembers_cons (s : σ) (key : String) (t : Tree) (rest : List Member) (tail : Tail) :
    r.readMembers s (.mk (.string ⟨.ok key, .ok ()⟩) t :: rest) tail =
      match r.fields.find? fun f => f.name == key with
      | none => ofText t.skip >>= fun _ => r.readMembers s rest tail
      | some f =>
        if f.known s then refuse (.duplicateField f.name)
        else f.read t s >>= fun s => r.readMembers s rest tail := by
  rw [readMembers]
  rfl

theorem readMembers_skipped {key : String} (other : key ∉ r.names) (s : σ) (v : Value)
    (rest : List Member) (tail : Tail) :
    r.readMembers s (.mk (.string ⟨.ok key, .ok ()⟩) v.tree :: rest) tail =
      r.readMembers s rest tail := by
  have unfound : (r.fields.find? fun f => f.name == key) = none := by
    refine List.find?_eq_none.mpr fun f member same => other ?_
    exact List.mem_map.mpr ⟨f, member, beq_iff_eq.mp same⟩
  rw [readMembers_cons, unfound, skip_tree]
  rfl

theorem readMembers_field (tracks : r.Tracks value draft) {key : String} {done : List String}
    (listed : key ∈ r.names) (new : key ∉ done) (rest : List Member) (tail : Tail) :
    r.readMembers (draft done) (.mk (.string ⟨.ok key, .ok ()⟩) (value key).tree :: rest) tail =
      r.readMembers (draft (key :: done)) rest tail := by
  obtain ⟨g, member, named⟩ := List.mem_map.mp listed
  have some : (r.fields.find? fun f => f.name == key).isSome :=
    List.find?_isSome.mpr ⟨g, member, beq_iff_eq.mpr named⟩
  obtain ⟨f, found⟩ := Option.isSome_iff_exists.mp some
  have field : f ∈ r.fields := List.mem_of_find?_eq_some found
  obtain rfl : f.name = key := by simpa using List.find?_some found
  have unknown : f.known (draft done) = false := by rw [tracks.known f field, decide_eq_false new]
  simp only [readMembers_cons, found, unknown, Bool.false_eq_true, if_false, tracks.read f field,
    ok_bind]

/-- Members are read in whatever order they come, those that are no fields are skipped, and fields
that do not come are filled in. -/
theorem readMembers_tracks (tracks : r.Tracks value draft) {members : List (String × Value)}
    {done : List String} (valued : ∀ m ∈ members, m.1 ∈ r.names → m.2 = value m.1)
    (once : (done ++ (members.filter fun m => m.1 ∈ r.names).map Prod.fst).Nodup) :
    ∃ all, all.Perm (done ++ (members.filter fun m => m.1 ∈ r.names).map Prod.fst) ∧
      r.readMembers (draft done) (memberTrees members) .closed =
        r.fields.foldlM (fun s f => fill (.missingField f.name) s f) (draft all) := by
  induction members generalizing done with
  | nil => exact ⟨done, by simp, rfl⟩
  | cons m members ih =>
    obtain ⟨key, v⟩ := m
    obtain ⟨first, others⟩ := List.forall_mem_cons.mp valued
    by_cases listed : key ∈ r.names
    · obtain rfl : v = value key := first listed
      simp only [listed, decide_true, List.filter_cons_of_pos, List.map_cons] at once ⊢
      have apart : (key :: done ++
          (members.filter fun m => m.1 ∈ r.names).map Prod.fst).Nodup :=
        List.perm_middle.nodup_iff.mp once
      have new : key ∉ done := fun known =>
        (List.nodup_cons.mp apart).1 (List.mem_append_left _ known)
      rw [memberTrees, readMembers_field tracks listed new]
      obtain ⟨all, perm, read⟩ := ih others apart
      exact ⟨all, perm.trans List.perm_middle.symm, read⟩
    · simp only [listed, decide_false, Bool.false_eq_true, not_false_eq_true,
        List.filter_cons_of_neg] at once ⊢
      rw [memberTrees, readMembers_skipped listed]
      exact ih others once

theorem readFields_tracks (tracks : r.Tracks value draft) {fields : List (Field σ)}
    (all : ∀ f ∈ fields, f ∈ r.fields) (index : Nat) (done : List String) :
    r.readFields index (draft done) fields
        (itemTrees (fields.map fun f => value f.name)) .closed =
      .ok (draft ((fields.map Field.name).reverse ++ done)) := by
  induction fields generalizing index done with
  | nil => rfl
  | cons f fields ih =>
    obtain ⟨first, others⟩ := List.forall_mem_cons.mp all
    rw [List.map_cons, itemTrees, readFields, tracks.read f first, ok_bind, ih others]
    simp

/-- A value that holds the fields of a record gives the draft in which all of them are known. -/
theorem read_of_holds (tracks : r.Tracks value draft) (distinct : r.names.Nodup) {v : Value}
    (holds : Holds (r.names.map fun name => (name, value name)) v) :
    ∃ all, (∀ name ∈ r.names, name ∈ all) ∧ r.read (draft []) v.tree = .ok (draft all) := by
  have names : (r.names.map fun name => (name, value name)).map Prod.fst = r.names := by
    simp [Function.comp_def]
  cases holds with
  | @object members perm =>
    rw [names] at perm
    have ordered := perm.map Prod.fst
    rw [names] at ordered
    have valued : ∀ m ∈ members, m.1 ∈ r.names → m.2 = value m.1 := by
      intro m member listed
      have kept : m ∈ members.filter fun m => m.1 ∈ r.names :=
        List.mem_filter.mpr ⟨member, by simpa using listed⟩
      obtain ⟨name, -, rfl⟩ := List.mem_map.mp (perm.subset kept)
      rfl
    have once : (([] : List String) ++ (members.filter fun m => m.1 ∈ r.names).map Prod.fst).Nodup :=
      ordered.nodup_iff.mpr distinct
    obtain ⟨all, same, read⟩ := readMembers_tracks tracks valued once
    have listed : ∀ name ∈ r.names, name ∈ all := fun name member =>
      (same.trans ordered).symm.subset member
    refine ⟨all, listed, read.trans (foldlM_fill fun f member => ?_)⟩
    rw [tracks.known f member]
    exact decide_eq_true (listed f.name (List.mem_map_of_mem member))
  | array =>
    refine ⟨r.names.reverse, by simp, ?_⟩
    have read := readFields_tracks tracks (fun _ member => member) 0 []
    rw [List.append_nil] at read
    simpa [Value.tree, Record.read, names, Record.names, Function.comp_def] using read

end Record

/-! ### What a record is made of -/

inductive Inside (t : Tree) : Tree → Prop where
  | item {items : List Tree} {tail : Tail} (h : t ∈ items) : Inside t (.array items tail)
  | member {members : List Member} {tail : Tail} {key : Key} (h : .mk key t ∈ members) :
      Inside t (.object members tail)

variable {α σ : Type}

theorem readText_eq_ok {read : Reader α} {text : String} {a : α} :
    readText read text = .ok a ↔
      (Tree.ofTokens (tokens text)).2 = [] ∧ read (Tree.ofTokens (tokens text)).1 = .ok a := by
  rw [readText]
  dsimp only
  rw [bind_eq_ok]
  constructor
  · rintro ⟨b, done, last⟩
    split at last
    · rename_i none
      obtain rfl := Except.ok.inj last
      exact ⟨List.isEmpty_iff.mp none, done⟩
    · cases last
  · rintro ⟨none, done⟩
    exact ⟨a, done, by rw [none]; rfl⟩

theorem readItems_inside {read : Reader α} {items : List Tree} {tail : Tail} {as : List α}
    (done : readItems read items tail = .ok as) : ∀ a ∈ as, ∃ t ∈ items, read t = .ok a := by
  induction items generalizing as with
  | nil =>
    obtain ⟨⟨⟩, -, last⟩ := bind_eq_ok.mp done
    obtain rfl := Except.ok.inj last
    exact nofun
  | cons t rest ih =>
    obtain ⟨a, first, done⟩ := bind_eq_ok.mp done
    obtain ⟨more, others, last⟩ := bind_eq_ok.mp done
    obtain rfl := Except.ok.inj last
    refine List.forall_mem_cons.mpr ⟨⟨t, List.mem_cons_self, first⟩, fun b member => ?_⟩
    obtain ⟨u, later, same⟩ := ih others b member
    exact ⟨u, List.mem_cons_of_mem t later, same⟩

theorem wrongType_ne_ok {t : Tree} {expected : String} {a : α} : wrongType t expected ≠ .ok a := by
  intro done
  obtain ⟨_, -, last⟩ := bind_eq_ok.mp done
  cases last

theorem readList_inside {read : Reader α} {t : Tree} {as : List α}
    (done : readList read t = .ok as) : ∀ a ∈ as, ∃ u, Inside u t ∧ read u = .ok a := by
  intro a member
  unfold readList at done
  split at done
  · obtain ⟨u, listed, same⟩ := readItems_inside done a member
    exact ⟨u, .item listed, same⟩
  · exact absurd done wrongType_ne_ok

namespace Record

variable {r : Record σ} {P : σ → Prop} {Q : Tree → Prop} {s s' : σ}

/-- What the fields keep as they are read, and as others stand in for them, the record keeps. -/
structure Keeps (r : Record σ) (P : σ → Prop) (Q : Tree → Prop) : Prop where
  read : ∀ f ∈ r.fields, ∀ t s s', Q t → P s → f.read t s = .ok s' → P s'
  absent : ∀ f ∈ r.fields, ∀ g ∈ f.absent, ∀ s, P s → P (g s)

theorem Keeps.fill (keeps : r.Keeps P Q) {f : Field σ} (field : f ∈ r.fields) {fault : DataFault}
    (here : P s) (done : Record.fill fault s f = .ok s') : P s' := by
  unfold Record.fill at done
  split at done
  · obtain rfl := Except.ok.inj done
    exact here
  · split at done
    · rename_i g stand
      obtain rfl := Except.ok.inj done
      exact keeps.absent f field g stand s here
    · cases done

theorem Keeps.foldlM_fill (keeps : r.Keeps P Q) {fields : List (Field σ)}
    (all : ∀ f ∈ fields, f ∈ r.fields) (here : P s)
    (done : fields.foldlM (fun s f => Record.fill (.missingField f.name) s f) s = .ok s') :
    P s' := by
  induction fields generalizing s with
  | nil =>
    obtain rfl := Except.ok.inj done
    exact here
  | cons f fields ih =>
    obtain ⟨first, others⟩ := List.forall_mem_cons.mp all
    rw [List.foldlM_cons] at done
    obtain ⟨next, filled, done⟩ := bind_eq_ok.mp done
    exact ih others (keeps.fill first here filled) done

theorem Keeps.readMembers (keeps : r.Keeps P Q) {members : List Member} {tail : Tail}
    (all : ∀ key t, .mk key t ∈ members → Q t) (here : P s)
    (done : r.readMembers s members tail = .ok s') : P s' := by
  induction members generalizing s with
  | nil =>
    obtain ⟨⟨⟩, -, done⟩ := bind_eq_ok.mp done
    exact keeps.foldlM_fill (fun _ member => member) here done
  | cons m rest ih =>
    have others : ∀ key t, .mk key t ∈ rest → Q t := fun key t member =>
      all key t (List.mem_cons_of_mem m member)
    obtain ⟨key | fault, t⟩ := m
    · obtain ⟨key, -, done⟩ := bind_eq_ok.mp done
      split at done
      · obtain ⟨⟨⟩, -, done⟩ := bind_eq_ok.mp done
        exact ih others here done
      · rename_i f found
        split at done
        · cases done
        · obtain ⟨next, read, done⟩ := bind_eq_ok.mp done
          have now := keeps.read f (List.mem_of_find?_eq_some found) t s next
            (all _ t List.mem_cons_self) here read
          exact ih others now done
    · cases done

theorem Keeps.readFields (keeps : r.Keeps P Q) {index : Nat} {fields : List (Field σ)}
    {items : List Tree} {tail : Tail} (known : ∀ f ∈ fields, f ∈ r.fields)
    (all : ∀ t ∈ items, Q t) (here : P s)
    (done : r.readFields index s fields items tail = .ok s') : P s' := by
  induction fields generalizing index s items with
  | nil =>
    cases items with
    | nil =>
      obtain ⟨⟨⟩, -, done⟩ := bind_eq_ok.mp done
      obtain rfl := Except.ok.inj done
      exact here
    | cons t rest => cases done
  | cons f fields ih =>
    obtain ⟨first, others⟩ := List.forall_mem_cons.mp known
    cases items with
    | nil =>
      obtain ⟨⟨⟩, -, done⟩ := bind_eq_ok.mp done
      obtain ⟨next, filled, done⟩ := bind_eq_ok.mp done
      exact ih others all (keeps.fill first here filled) done
    | cons t rest =>
      obtain ⟨now, later⟩ := List.forall_mem_cons.mp all
      obtain ⟨next, read, done⟩ := bind_eq_ok.mp done
      exact ih others later (keeps.read f first t s next now here read) done

/-- Whatever is read of a record has been read from trees inside that of the record. -/
theorem read_induction {t : Tree} (keeps : r.Keeps P (Inside · t)) (start : P s)
    (done : r.read s t = .ok s') : P s' := by
  unfold Record.read at done
  split at done
  · exact keeps.readMembers (fun _ _ member => .member member) start done
  · exact keeps.readFields (fun _ member => member) (fun _ member => .item member) start done
  · exact absurd done wrongType_ne_ok

end Record

end NamespaceEntry.Json
