import NamespaceEntry.Proofs.Outcome.Faithful

/-!
# Which programs a run starts

A run starts programs only in its steps towards the command: a tool when the mapper is called,
and the command when somebody tries to execute it. So the programs are as ordered as the steps,
and where the steps stop the programs do too.
-/

namespace NamespaceEntry

def Event.start? : Event → Option Launch
  | .toolStarted launch | .commandStarted launch _ => some launch
  | _ => none

def starts (trace : List Event) : List Launch := trace.filterMap Event.start?

theorem starts_append (xs ys : List Event) : starts (xs ++ ys) = starts xs ++ starts ys :=
  List.filterMap_append

namespace Run

variable {w : Setting} {s t : State} {left : List Event}

/-- The programs that a step towards the command starts. -/
def startedBy (w : Setting) : Event → List Launch
  | .mapperCalled kind _ _ => (reply w kind).started.toList
  | .execAttempted _ =>
    match w.host.start .command w.command.launch with
    | .ok _ => [w.command.launch]
    | .error _ => []
  | _ => []

def Accounted (w : Setting) (trace : List Event) : Prop :=
  starts trace = (gates trace).flatMap (startedBy w)

theorem Accounted.append {xs ys : List Event} (first : Accounted w xs) (second : Accounted w ys) :
    Accounted w (xs ++ ys) := by
  unfold Accounted at *
  rw [starts_append, gates_append, List.flatMap_append, first, second]

theorem accounted_call (w : Setting) (kind : IdKind) :
    Accounted w (.mapperCalled kind w.childId (rangesOf w kind) ::
      ((reply w kind).started.map Event.toolStarted).toList) := by
  unfold Accounted
  rw [gates_call]
  show _ = (reply w kind).started.toList ++ []
  cases (reply w kind).started <;> rfl

theorem accounted_of_childMove {s t : Child.State} (before : Accounted w s.trace)
    (move : Child.Move w.toSetting s t) : Accounted w t.trace := by
  cases move with
  | executed program here found | executedBelow init orphans program here found =>
    show Accounted w (s.trace ++ _ ++ _)
    rw [List.append_assoc]
    refine before.append ?_
    show [w.command.launch] = startedBy w (.execAttempted w.command.argv) ++ []
    simp [startedBy, found]
  | unexecuted errno here failed | unexecutedBelow init orphans errno next here failed =>
    show Accounted w (s.trace ++ _ ++ _)
    rw [List.append_assoc]
    refine before.append ?_
    show [] = startedBy w (.execAttempted w.command.argv) ++ []
    simp [startedBy, failed]
  | took init command orphans signal =>
    simp only [Child.State.goto]
    split
    · exact before
    · exact before.append rfl
  | initFailed init command =>
    simp only [Child.State.fail, Child.State.exit, Child.State.log]
    split <;> exact before.append rfl
  | inherited | mounted | forked | concluded | signalled | orphaned | awaited | orphanEnded =>
    exact before
  | _ => exact before.append rfl

theorem accounted_of_move (before : Accounted w s.trace) (move : Move w s t) :
    Accounted w t.trace := by
  have called : ∀ kind, Accounted w (asked w s kind).trace := by
    intro kind
    rw [trace_asked]
    exact before.append (accounted_call w kind)
  cases move with
  | inner child move => exact accounted_of_childMove before move
  | mapped kind => exact (called kind).append rfl
  | unmapped kind => exact called kind
  | cloned | dropped | unready | allMapped | unsentGo => exact before
  | _ => exact before.append rfl

theorem accounted (reached : Reachable w s) : Accounted w s.trace := by
  induction reached with
  | start => rfl
  | step actor _ taken ih =>
    rcases move_of_step taken with move | ⟨signal, child, -, death, rfl⟩
    · exact accounted_of_move ih move
    · obtain ⟨-, -, rfl⟩ := Child.killStep_eq_some death
      exact ih

/-! ### How far the steps get -/

/-- The steps up to the call of the mapper for a kind, when those before it are mapped. -/
def stepsUpTo (w : Setting) (before : List IdKind) (kind : IdKind) : List Event :=
  .readySent :: .readyReceived :: calls w before ++
    [.mapperCalled kind w.childId (rangesOf w kind)]

theorem protocol_eq_stepsUpTo {before after : List IdKind} {kind : IdKind}
    (split : kindsToMap w = before ++ kind :: after) :
    protocol w = stepsUpTo w before kind ++ .mapped kind :: (calls w after ++ closing w) := by
  simp [protocol, stepsUpTo, split, calls]

/-- A child that was let go has everything behind it but the attempt to execute the command. -/
theorem Coherent.gates_of_letGo (c : Coherent w s left) (released : .goReceived ∈ s.trace) :
    gates s.trace =
      if .execAttempted w.command.argv ∈ s.trace then protocol w else clearance w := by
  have few := c.letGo_iff.mp released
  have order := c.order
  split
  · rename_i attempted
    rw [c.attempted_iff.mp attempted, List.append_nil] at order
    exact order
  · rename_i untried
    have one : left.length = 1 := by
      have some : left.length ≠ 0 := fun none =>
        untried (c.attempted_iff.mpr (List.length_eq_zero_iff.mp none))
      omega
    have last : left = [.execAttempted w.command.argv] :=
      left_eq order (protocol_eq_clearance w).symm one
    rw [last, protocol_eq_clearance] at order
    exact List.append_cancel_right order

theorem Coherent.answered_of_letGo (c : Coherent w s left) (released : .goReceived ∈ s.trace)
    {kind : IdKind} (due : kind ∈ kindsToMap w) : (reply w kind).result = .ok () := by
  apply c.answered kind
  rw [c.gates_of_letGo released]
  rw [kindsToMap_eq] at due
  split
  · exact protocol_eq_clearance w ▸ List.mem_append_left _ (mapped_mem_clearance due)
  · exact mapped_mem_clearance due

theorem Coherent.steps_of_denied (c : Coherent w s left) {before after : List IdKind}
    {kind : IdKind} (split : kindsToMap w = before ++ kind :: after)
    (denied : (reply w kind).result ≠ .ok ()) : gates s.trace <+: stepsUpTo w before kind := by
  have order := c.order.trans (protocol_eq_stepsUpTo split)
  rcases List.append_eq_append_iff.mp order with ⟨more, longer, -⟩ | ⟨extra, same, rest⟩
  · exact ⟨more, longer.symm⟩
  · cases extra with
    | nil =>
      have whole : gates s.trace = stepsUpTo w before kind := same.trans (List.append_nil _)
      exact whole ▸ List.prefix_refl _
    | cons event events =>
      have first : event = .mapped kind := (List.cons.inj rest).1.symm
      have said : .mapped kind ∈ gates s.trace := by
        rw [same, first]
        exact List.mem_append_right _ List.mem_cons_self
      exact absurd (c.answered kind said) denied

theorem starts_prefix (reached : Reachable w s) {steps : List Event}
    (few : gates s.trace <+: steps) : starts s.trace <+: steps.flatMap (startedBy w) := by
  obtain ⟨rest, rfl⟩ := few
  rw [accounted reached, List.flatMap_append]
  exact List.prefix_append ..

theorem startedBy_clearance (w : Setting) :
    (clearance w).flatMap (startedBy w) =
      w.isolation.required.flatMap (fun kind => (reply w kind).started.toList) := by
  simp [clearance, List.flatMap_assoc, startedBy]

theorem startedBy_protocol (w : Setting) :
    (protocol w).flatMap (startedBy w) =
      w.isolation.required.flatMap (fun kind => (reply w kind).started.toList) ++
        startedBy w (.execAttempted w.command.argv) := by
  rw [protocol_eq_clearance, List.flatMap_append, startedBy_clearance]
  simp

/-- A child that was let go has the tools of all kinds behind it, and the command if it was
tried. -/
theorem starts_of_letGo (reached : Reachable w s) (released : .goReceived ∈ s.trace) :
    starts s.trace = w.isolation.required.flatMap (fun kind => (reply w kind).started.toList) ++
      if .execAttempted w.command.argv ∈ s.trace then startedBy w (.execAttempted w.command.argv)
      else [] := by
  obtain ⟨left, c⟩ := coherent reached
  rw [accounted reached, c.gates_of_letGo released]
  split
  · exact startedBy_protocol w
  · rw [startedBy_clearance, List.append_nil]

theorem startedBy_stepsUpTo (w : Setting) (before : List IdKind) (kind : IdKind) :
    (stepsUpTo w before kind).flatMap (startedBy w) =
      before.flatMap (fun kind => (reply w kind).started.toList) ++
        (reply w kind).started.toList := by
  simp [stepsUpTo, calls, List.flatMap_assoc, startedBy]

end Run

end NamespaceEntry
