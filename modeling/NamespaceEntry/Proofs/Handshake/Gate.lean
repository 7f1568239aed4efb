import NamespaceEntry.Proofs.Handshake.ParentMoves
import NamespaceEntry.Proofs.Run.Schedules

/-!
# The gate in front of a command

A command is executed only behind the whole handshake. `clearance` lists what comes first, and
`exec_behind_clearance` shows that an attempt to execute the command has exactly that before it
and no other attempt on either side.
-/

namespace NamespaceEntry

/-- The kinds of id that an isolation maps: user ids always, group ids if there are any. -/
def Isolation.required : Isolation → List IdKind
  | .plain => []
  | .mapped mapping => if mapping.gids = [] then [.uid] else [.uid, .gid]

def Event.isExec : Event → Bool
  | .execAttempted _ => true
  | _ => false

namespace Run

variable {w : Setting} {s : State}

/-- What has to happen before the command may be executed, in order. -/
def clearance (w : Setting) : List Event :=
  [.readySent, .readyReceived] ++
    w.isolation.required.flatMap (fun kind =>
      [.mapperCalled kind w.childId (rangesOf w kind), .mapped kind]) ++
    [.goSent, .goReceived]

theorem kindsToMap_eq (w : Setting) : kindsToMap w = w.isolation.required := by
  unfold kindsToMap Isolation.required
  cases w.isolation with
  | plain => rfl
  | mapped mapping =>
    have some : mapping.uids ≠ [] := mapping.uids_ne_nil
    by_cases none : mapping.gids = [] <;>
      simp [Isolation.mapping?, IdMapping.ranges, some, none]

theorem protocol_eq_clearance (w : Setting) :
    protocol w = clearance w ++ [.execAttempted w.command.argv] := by
  simp [protocol, clearance, calls, closing, kindsToMap_eq]

theorem exec_not_mem_clearance (w : Setting) (argv : List Bytes) :
    .execAttempted argv ∉ clearance w := by
  simp [clearance]

theorem mapped_mem_clearance {kind : IdKind} (required : kind ∈ w.isolation.required) :
    .mapped kind ∈ clearance w := by
  simpa [clearance] using required

theorem exec_mem_gates {argv : List Bytes} {trace : List Event} :
    .execAttempted argv ∈ gates trace ↔ .execAttempted argv ∈ trace := by
  simp [gates, Event.isGate]

theorem countP_isExec_gates (trace : List Event) :
    (gates trace).countP Event.isExec = trace.countP Event.isExec := by
  rw [gates, List.countP_filter]
  apply List.countP_congr
  intro event _
  cases event <;> simp [Event.isExec, Event.isGate]

theorem countP_isExec_clearance (w : Setting) : (clearance w).countP Event.isExec = 0 := by
  rw [List.countP_eq_zero]
  rintro event member exec
  cases event <;> simp only [Event.isExec, reduceCtorEq] at exec
  exact exec_not_mem_clearance w _ member

/-- What stands in a list that ends with something new is that or comes before it. -/
theorem split_last {α : Type} {xs ys zs : List α} {x z : α} (same : xs ++ x :: ys = zs ++ [z])
    (new : x ∉ zs) : xs = zs ∧ x = z ∧ ys = [] := by
  rcases List.eq_nil_or_concat ys with rfl | ⟨front, last, rfl⟩
  · obtain ⟨rfl, last⟩ := List.append_inj' same rfl
    exact ⟨rfl, List.singleton_inj.mp last, rfl⟩
  · have longer : (xs ++ x :: front) ++ [last] = zs ++ [z] := by simpa using same
    obtain ⟨rfl, -⟩ := List.append_inj' longer rfl
    exact absurd (List.mem_append_right xs List.mem_cons_self) new

/-- No step is left exactly once somebody has tried to execute the command. -/
theorem Coherent.attempted_iff {left : List Event} (c : Coherent w s left) :
    .execAttempted w.command.argv ∈ s.trace ↔ left = [] := by
  have order := c.order.trans (protocol_eq_clearance w)
  rw [← exec_mem_gates]
  constructor
  · intro attempted
    obtain ⟨before, after, split⟩ := List.append_of_mem attempted
    rw [split, List.append_assoc] at order
    obtain ⟨-, -, rest⟩ := split_last order (exec_not_mem_clearance w _)
    exact (List.append_eq_nil_iff.mp rest).2
  · rintro rfl
    rw [List.append_nil] at order
    rw [order]
    exact List.mem_append_right _ List.mem_cons_self

/-- One step at most is left exactly once the child has been let go. -/
theorem Coherent.letGo_iff {left : List Event} (c : Coherent w s left) :
    .goReceived ∈ s.trace ↔ left.length ≤ 1 := by
  have gate : .goReceived ∈ s.trace ↔ .goReceived ∈ gates s.trace := by
    simp [gates, Event.isGate]
  have whole := congrArg List.length c.order
  rw [List.length_append] at whole
  have said : gates s.trace <+: protocol w := ⟨left, c.order⟩
  rw [gate]
  constructor
  · intro released
    have before : _ <+: protocol w := ⟨_, protocol_let_go w⟩
    have length := congrArg List.length (protocol_let_go w)
    simp only [List.length_append, List.length_cons, List.length_nil] at length
    apply Classical.byContradiction
    intro many
    have early := List.prefix_of_prefix_length_le said before
      (by simp only [List.length_append, List.length_cons, List.length_nil]; omega)
    simpa [calls] using early.subset released
  · intro few
    have through : _ <+: protocol w := ⟨_, protocol_released w⟩
    have length := congrArg List.length (protocol_released w)
    simp only [List.length_append, List.length_cons, List.length_nil] at length
    have late := List.prefix_of_prefix_length_le through said
      (by simp only [List.length_append, List.length_cons, List.length_nil]; omega)
    exact late.subset (by simp)

/-- A command that somebody tries to execute, in any order of the steps and with a child that may
be killed at any time, has the whole clearance behind it and is tried once. -/
theorem exec_behind_clearance (reached : Reachable w s) :
    s.trace.countP Event.isExec ≤ 1 ∧
      ∀ before argv after, s.trace = before ++ .execAttempted argv :: after →
        argv = w.command.argv ∧ gates before = clearance w ∧ gates after = [] ∧
          ∀ kind ∈ w.isolation.required,
            (w.mapper kind w.childId (rangesOf w kind)).result = .ok () := by
  obtain ⟨left, c⟩ := coherent reached
  have order : gates s.trace ++ left = clearance w ++ [.execAttempted w.command.argv] :=
    c.order.trans (protocol_eq_clearance w)
  have only : ∀ before argv after, s.trace = before ++ .execAttempted argv :: after →
      gates before = clearance w ∧ argv = w.command.argv ∧ gates after = [] := by
    intro before argv after split
    rw [split, gates_append] at order
    have same : gates before ++ .execAttempted argv :: (gates after ++ left) =
        clearance w ++ [.execAttempted w.command.argv] := by
      rw [← order, List.append_assoc]
      rfl
    obtain ⟨whole, command, rest⟩ := split_last same (exec_not_mem_clearance w argv)
    exact ⟨whole, Event.execAttempted.inj command, (List.append_eq_nil_iff.mp rest).1⟩
  refine ⟨?_, ?_⟩
  · have count := congrArg (List.countP Event.isExec) order
    rw [List.countP_append, List.countP_append, countP_isExec_gates,
      countP_isExec_clearance] at count
    simp only [List.countP_singleton, Event.isExec, if_true] at count
    omega
  · intro before argv after split
    obtain ⟨whole, command, rest⟩ := only before argv after split
    refine ⟨command, whole, rest, ?_⟩
    intro kind required
    apply c.answered kind
    rw [split, gates_append, whole]
    exact List.mem_append_left _ (mapped_mem_clearance required)

def guarded : Setting := lone secluded (.mapped oneOfEach) {}

theorem exec_behind_clearance_guarded :
    Reachable guarded (run guarded) ∧ ∃ before after,
      (run guarded).trace = before ++ .execAttempted guarded.command.argv :: after ∧
        gates before = clearance guarded := by
  have reached : Reachable guarded (run guarded) := (undisturbed_run guarded).reachable
  have split : (run guarded).trace =
      (run guarded).trace.takeWhile (fun e => !e.isExec) ++
        .execAttempted guarded.command.argv ::
          ((run guarded).trace.dropWhile fun e => !e.isExec).drop 1 := by decide +kernel
  exact ⟨reached, _, _, split, ((exec_behind_clearance reached).2 _ _ _ split).2.1⟩

end Run

end NamespaceEntry
