import NamespaceEntry.Proofs.Run.Moves

/-!
# Schedules

A run that nobody disturbs takes the steps of its own processes, in any order. `Inevitably`
is what comes about in each of these orders: some process can go on until it does.
-/

namespace NamespaceEntry.Run

variable {w : Setting} {s t : State} {P Q : State → Prop}

def Next (w : Setting) (s t : State) : Prop :=
  ∃ actor, (∀ signal, actor ≠ .killer signal) ∧ step w s actor = some t

/-- The states that a run reaches when nobody kills its child from outside. -/
inductive Undisturbed (w : Setting) : State → Prop where
  | start : Undisturbed w {}
  | next {s t : State} (reached : Undisturbed w s) (taken : Next w s t) : Undisturbed w t

/-- Whatever the order of the steps, a state with the property is reached. -/
inductive Inevitably (w : Setting) (P : State → Prop) : State → Prop where
  | now {s : State} (here : P s) : Inevitably w P s
  | later {s : State} (possible : ∃ t, Next w s t)
      (every : ∀ t, Next w s t → Inevitably w P t) : Inevitably w P s

theorem result?_eq_some {r : Except Error Outcome} : s.result? = some r ↔ s.parent = .finished r := by
  unfold State.result?
  split <;> simp_all

theorem move_of_next (h : Next w s t) : Move w s t := by
  obtain ⟨actor, own, taken⟩ := h
  rcases move_of_step taken with move | ⟨signal, -, rfl, -, -⟩
  · exact move
  · exact absurd rfl (own signal)

theorem next_of_parent (h : parentStep w s = some t) : Next w s t := ⟨.parent, nofun, h⟩

theorem next_of_inner (actor : Child.Actor) {child : Child.State}
    (h : Child.stepOf w.toSetting s.toState actor = some child) :
    Next w s { s with toState := child } :=
  ⟨.inner actor, nofun, by rw [step, h]; rfl⟩

namespace Undisturbed

theorem reachable (reached : Undisturbed w s) : Reachable w s := by
  induction reached with
  | start => exact .start
  | next _ taken ih =>
    obtain ⟨actor, -, taken⟩ := taken
    exact .step actor ih taken

/-- What a run is started with and every move keeps holds throughout. -/
theorem invariant (start : P {}) (kept : ∀ s t, Undisturbed w s → P s → Move w s t → P t)
    (reached : Undisturbed w s) : P s := by
  induction reached with
  | start => exact start
  | next reached taken ih => exact kept _ _ reached ih (move_of_next taken)

/-- The processes can take their steps in any order in which none of them is blocked. -/
theorem follow {actors : List Actor} (reached : Undisturbed w s)
    (calm : ∀ actor ∈ actors, ∀ signal, actor ≠ .killer signal)
    (taken : actors.foldlM (step w) s = some t) : Undisturbed w t := by
  induction actors generalizing s with
  | nil =>
    cases taken
    exact reached
  | cons actor rest ih =>
    obtain ⟨u, first, others⟩ := Option.bind_eq_some_iff.mp (List.foldlM_cons.symm.trans taken)
    have next : Next w s u := ⟨actor, calm actor List.mem_cons_self, first⟩
    exact ih (reached.next next) (fun other member => calm other (List.mem_cons_of_mem _ member))
      others

end Undisturbed

namespace Inevitably

theorem mono (more : ∀ t, P t → Q t) (h : Inevitably w P s) : Inevitably w Q s := by
  induction h with
  | now here => exact .now (more _ here)
  | later possible _ ih => exact .later possible ih

/-- What holds of every state that the run reaches can be had with it. -/
theorem and_undisturbed (reached : Undisturbed w s) (h : Inevitably w P s) :
    Inevitably w (fun t => P t ∧ Undisturbed w t) s := by
  induction h with
  | now here => exact .now ⟨here, reached⟩
  | later possible _ ih => exact .later possible fun t taken => ih t taken (reached.next taken)

end Inevitably

/-! ### The run in which the parent goes first -/

theorem next_of_advance (h : advance w s = some t) : Next w s t := by
  simp only [advance, Child.advance, Option.orElse_eq_orElse, Option.orElse_eq_or,
    Option.or_eq_some_iff, Option.map_eq_some_iff] at h
  rcases h with parent | ⟨-, child, own | ⟨-, orphan | ⟨-, command⟩⟩, rfl⟩
  · exact next_of_parent parent
  · exact next_of_inner .child own
  · exact next_of_inner (.orphan 0) orphan
  · exact next_of_inner .command command

theorem undisturbed_complete (fuel : Nat) (reached : Undisturbed w s) :
    Undisturbed w (complete w fuel s) := by
  induction fuel generalizing s with
  | zero => exact reached
  | succ fuel ih =>
    unfold complete
    cases taken : advance w s with
    | none => exact reached
    | some t => exact ih (reached.next (next_of_advance taken))

theorem undisturbed_run (w : Setting) : Undisturbed w (run w) := undisturbed_complete _ .start

/-! ### Small runs -/

/-- A run on a host that refuses nothing and knows one program, by a mapper that maps all it is
asked to. -/
def lone (namespaces : Namespaces) (isolation : Isolation) (program : Program) : Setting where
  namespaces
  procTarget := Bytes.ofString "/proc"
  command := ⟨Bytes.ofString "task", [], by decide, by decide⟩
  host :=
    { start := fun _ _ => .ok program
      clone := fun _ => .ok ()
      mountProc := fun _ => .ok () }
  isolation
  mapper _ _ _ := {}
  childId := ⟨7⟩

def oneOfEach : IdMapping :=
  ⟨[⟨.uid, 0, 1000, 1, by decide, by decide, by decide⟩],
    [⟨.gid, 0, 1000, 1, by decide, by decide, by decide⟩], by decide, by decide, by decide⟩

def secluded : Namespaces := { mount := false, pid := true, user := true }

end NamespaceEntry.Run
