import NamespaceEntry.Proofs.Handshake.Gate
import NamespaceEntry.Proofs.Run.Story

/-!
# How a run is settled

A run that is done has tried and failed to create a child, or has waited for its end: after a
report could be heard, or after a failure that it then returns. In an undisturbed run that
failure is the first kind of id that the mapper denied, unless the mounts could not be made.
-/

namespace NamespaceEntry.Run

variable {w : Setting} {s t : State} {left : List Event} {r : Except Error Outcome}

inductive Settled (w : Setting) (s : State) (left : List Event) : Except Error Outcome → Prop where
  | uncloned (errno : Errno) (failed : w.host.clone w.namespaces = .error errno)
      (unborn : s.phase = .unborn) (whole : left = protocol w) :
      Settled w s left (.error (.resource (.clone errno)))
  | reaped (ending : Ending) (ended : s.phase = .ended ending) (few : left.length ≤ 2) :
      Settled w s left (resultOf (reports s.trace).head? (waited w ending))
  | aborted (cause : Error) (ending : Ending) (ended : s.phase = .ended ending)
      (because : Cause w left cause) :
      Settled w s left (.error (abortError cause (waited w ending)))

theorem Settled.childless (h : Settled w s left r) :
    s.phase = .unborn ∨ ∃ ending, s.phase = .ended ending := by
  cases h with
  | uncloned errno failed unborn => exact Or.inl unborn
  | reaped ending ended => exact Or.inr ⟨ending, ended⟩
  | aborted cause ending ended => exact Or.inr ⟨ending, ended⟩

theorem not_move_of_childless {w : Child.Setting} {s t : Child.State}
    (childless : s.phase = .unborn ∨ ∃ ending, s.phase = .ended ending) : ¬Child.Move w s t := by
  intro move
  rcases childless with here | ⟨ending, here⟩ <;> cases move <;> simp_all

theorem killStep_of_childless {s : Child.State} (signal : Nat)
    (childless : s.phase = .unborn ∨ ∃ ending, s.phase = .ended ending) :
    Child.killStep s signal = none := by
  unfold Child.killStep
  rcases childless with here | ⟨ending, here⟩ <;> rw [here]

theorem settled (reached : Reachable w s) (done : s.parent = .finished r) :
    ∃ left, Coherent w s left ∧ Settled w s left r := by
  induction reached with
  | start => cases done
  | @step s t actor reached taken ih =>
    obtain ⟨left, c⟩ := coherent reached
    rcases move_of_step taken with move | ⟨signal, child, -, death, rfl⟩
    · cases move with
      | inner child move =>
        obtain ⟨left, c, before⟩ := ih done
        exact absurd move (not_move_of_childless before.childless)
      | uncloned errno here failed =>
        cases done
        have unborn := c.cloned here
        have stage := c.child
        rw [unborn] at stage
        exact ⟨left, c.move_uncloned errno here,
          .uncloned errno failed (unborn_of_station unborn) stage⟩
      | reaped report ending here ended =>
        cases done
        have parent := c.parent
        have heard := c.heard report here
        rw [here] at parent
        refine ⟨left, c.move_waited _ (Or.inl ⟨report, here⟩) ended, ?_⟩
        have same := (reports_append s.trace [.reaped ending]).trans (List.append_nil _)
        rw [heard, ← same]
        exact .reaped ending ended parent
      | aborted cause ending here ended =>
        cases done
        have parent := c.parent
        rw [here] at parent
        exact ⟨left, c.move_waited _ (Or.inr ⟨cause, here⟩) ended,
          .aborted cause ending ended parent⟩
      | _ => cases done
    · obtain ⟨left, c, before⟩ := ih done
      rw [killStep_of_childless signal before.childless] at death
      cases death

/-! ### What was granted on the way -/

theorem cloned_of_born (reached : Reachable w s) :
    s.phase = .unborn ∨ w.host.clone w.namespaces = .ok () := by
  refine phase_induction (P := fun phase => phase = .unborn ∨ w.host.clone w.namespaces = .ok ())
    (Or.inl rfl) Or.inr ?_ ?_ reached
  · exact fun phase signal before born => Or.inr (before.resolve_left born)
  · intro s t before move
    refine Or.inr (before.resolve_left ?_)
    exact fun unborn => not_move_of_childless (Or.inl unborn) move

/-- A child gets past its mounts only when they can be made. -/
theorem mounted_of_announcing (reached : Reachable w s) (here : s.phase = .announcing) :
    w.host.mount w.namespaces w.procTarget = .ok () := by
  refine phase_induction
    (P := fun phase => phase = .announcing → w.host.mount w.namespaces w.procTarget = .ok ())
    nofun ?_ ?_ ?_ reached here
  · intro _ there
    cases there
  · intro _ _ _ _ there
    cases there
  · intro s t _ move there
    cases move with
    | mounted _ done => exact done
    | released =>
      simp only [Child.State.goto] at there
      split at there <;> cases there
    | _ => cases there

theorem readySent_of_move {w : Child.Setting} {s t : Child.State} (move : Child.Move w s t)
    (sent : .readySent ∈ t.trace) : .readySent ∈ s.trace ∨ s.phase = .announcing := by
  cases move with
  | announced k here => exact Or.inr here
  | took init command orphans signal =>
    left
    simp only [Child.State.goto] at sent
    split at sent
    · exact sent
    · simpa [Child.State.log] using sent
  | initFailed init command =>
    left
    simp only [Child.State.fail, Child.State.exit, Child.State.log] at sent
    split at sent <;> simpa using sent
  | _ =>
    left
    simpa [Child.State.log, Child.State.goto, Child.State.fail, Child.State.exit] using sent

theorem mounted_of_readySent (reached : Reachable w s) (sent : .readySent ∈ s.trace) :
    w.host.mount w.namespaces w.procTarget = .ok () := by
  induction reached with
  | start => cases sent
  | @step s t actor reached taken ih =>
    rcases move_of_step taken with move | ⟨signal, child, -, death, rfl⟩
    · cases move with
      | inner child move =>
        rcases readySent_of_move move sent with before | here
        · exact ih before
        · exact mounted_of_announcing reached here
      | mapped kind rest here done =>
        have sent : .readySent ∈ (asked w s kind).trace := by
          simpa [State.next, State.note, Child.State.log] using sent
        exact ih (mem_of_asked sent (by simp) (by simp))
      | unmapped kind rest e here failed => exact ih (mem_of_asked sent (by simp) (by simp))
      | _ =>
        exact ih (by simpa [State.next, State.note, State.drop, Child.State.log] using sent)
    · obtain ⟨-, -, rfl⟩ := Child.killStep_eq_some death
      exact ih sent

theorem Coherent.left_of_unmounted (c : Coherent w s left) (reached : Reachable w s)
    (failed : w.host.mount w.namespaces w.procTarget ≠ .ok ()) : left = protocol w := by
  have order := c.order
  cases said : gates s.trace with
  | nil =>
    rw [said] at order
    exact order
  | cons event events =>
    rw [said] at order
    have first : event = .readySent := (List.cons.inj order).1
    have sent : .readySent ∈ gates s.trace := by
      rw [said, first]
      exact List.mem_cons_self
    exact absurd (mounted_of_readySent reached (List.mem_filter.mp sent).1) failed

/-! ### Undisturbed runs in good order -/

def FirstDenied (w : Setting) (kind : IdKind) (cause : Error) : Prop :=
  ∃ before after, kindsToMap w = before ++ kind :: after ∧
    (∀ other ∈ before, (reply w other).result = .ok ()) ∧ (reply w kind).result = .error cause

/-- Nothing keeps a child from being ready, and the mapper does not kill it. -/
structure Willing (w : Setting) : Prop where
  mounts : w.host.mount w.namespaces w.procTarget = .ok ()
  spares : ∀ signal, ¬Kills w signal

def ParentPhase.hungUp : ParentPhase → Bool
  | .aborting _ | .finished _ => true
  | _ => false

/-- A child does not end before it is let go or the parent hung up, and the parent gives up only
when the mapper does. -/
structure Orderly (w : Setting) (s : State) : Prop where
  outlives : ∀ ending, s.phase = .ended ending → .goReceived ∈ s.trace ∨ s.parent.hungUp
  denied : ∀ cause, s.parent = .abandoning cause ∨ s.parent = .aborting cause →
    ∃ kind, FirstDenied w kind cause
  settled : ∀ r, s.parent = .finished r → .goReceived ∈ s.trace ∨
    (∃ errno, w.host.clone w.namespaces = .error errno) ∨
    ∃ kind cause ending, FirstDenied w kind cause ∧ s.phase = .ended ending ∧
      r = .error (abortError cause (waited w ending))

/-- A child that has not been let go finds the channel closed only when its parent hung up. -/
theorem Coherent.hungUp_of_refused (c : Coherent w s left) {e : Error} {k : Socket}
    (here : s.phase = .waiting) (failed : s.socket.await? .child .go = some (.error e, k)) :
    s.parent.hungUp := by
  obtain ⟨closed, -⟩ := c.closed_of_refused failed
  have held := c.held .parent
  have gaveUp := c.gaveUp
  have parent := c.parent
  rw [Socket.get_parent, Socket.isOpen_eq_false.mp closed, here] at held
  rw [here] at gaveUp
  cases there : s.parent <;> rw [there] at held gaveUp parent
  case aborting | finished => rfl
  case reaping report =>
    have few : left.length ≤ 2 := parent
    rcases gaveUp rfl with gone | ⟨-, many⟩
    · cases gone
    · omega
  all_goals cases held

theorem Coherent.letGo_of_station (c : Coherent w s left)
    (place : s.phase.station = .released ∨ s.phase.station = .forked ∨
      s.phase.station = .below ∨ s.phase.station = .running) : .goReceived ∈ s.trace := by
  have stage := c.child
  apply c.letGo_iff.mpr
  rcases place with here | here | here | here <;> rw [here] at stage
  · exact Nat.le_of_eq stage
  · exact Nat.le_of_eq stage
  · exact stage
  · have none : left = [] := stage
    simp [none]

theorem orderly_of_inner (willing : Willing w) (reached : Undisturbed w s) (o : Orderly w s)
    {child : Child.State} (move : Child.Move w.toSetting s.toState child) :
    Orderly w { s with toState := child } := by
  obtain ⟨left, c⟩ := coherent reached.reachable
  have kept := (Child.trace_of_move move).subset
  refine ⟨?_, o.denied, ?_⟩
  · intro ending ended
    cases move with
    | unmounted fault here failed => cases failed.symm.trans willing.mounts
    | unheard e k here failed => exact (c.heard_of_preparing (by rw [here]; rfl) failed).elim
    | refused e k here failed => exact Or.inr (c.hungUp_of_refused here failed)
    | unexecuted errno here failed | unforked errno here failed =>
      exact Or.inl (kept (c.letGo_of_station (Or.inl (by rw [here]; rfl))))
    | initFailed init command orphans errno here failed =>
      refine Or.inl (kept (c.letGo_of_station (Or.inr ?_)))
      rw [here]
      cases command <;> simp [Child.Phase.station]
    | reported o k here | unreported o e k here | commandEnded ending here =>
      exact Or.inl (kept (c.letGo_of_station (by simp [here, Child.Phase.station])))
    | released =>
      simp only [Child.State.goto] at ended
      split at ended <;> cases ended
    | _ => cases ended
  · intro r done
    obtain ⟨left, -, before⟩ := settled reached.reachable done
    exact absurd move (not_move_of_childless before.childless)

namespace Orderly

/-- Until the parent hangs up, a child that is gone has been let go. -/
theorem letGo_of_gone (o : Orderly w s) (c : Coherent w s left)
    (born : s.phase.station ≠ .unborn) (gone : s.phase.station.copies .child = 0)
    (listens : s.parent.hungUp = false) : .goReceived ∈ s.trace := by
  cases here : s.phase with
  | ended ending =>
    rcases o.outlives ending here with released | hungUp
    · exact released
    · cases listens.symm.trans hungUp
  | running ending => exact c.letGo_of_station (by simp [here, Child.Phase.station])
  | unborn => exact absurd (by rw [here]; rfl) born
  | supervising init command orphans => rw [here] at gone; cases command <;> cases gone
  | _ => rw [here] at gone; cases gone

theorem next (o : Orderly w s) (place : t.phase = s.phase) (kept : s.trace <+: t.trace)
    (listens : s.parent.hungUp = false)
    (denied : ∀ cause, t.parent = .abandoning cause ∨ t.parent = .aborting cause →
      ∃ kind, FirstDenied w kind cause)
    (settled : ∀ r, t.parent = .finished r → .goReceived ∈ s.trace ∨
      ∃ errno, w.host.clone w.namespaces = .error errno) : Orderly w t where
  outlives := by
    intro ending ended
    rw [place] at ended
    rcases o.outlives ending ended with released | hungUp
    · exact Or.inl (kept.subset released)
    · cases listens.symm.trans hungUp
  denied
  settled := fun r done => (settled r done).imp (fun released => kept.subset released) Or.inl

theorem firstDenied (c : Coherent w s left) {kind : IdKind} {rest : List IdKind} {e : Error}
    (here : s.parent = .mapping (kind :: rest)) (failed : (reply w kind).result = .error e) :
    FirstDenied w kind e := by
  obtain ⟨⟨before, split⟩, rfl, -⟩ := c.left_of_mapping here
  have order := c.order
  have whole : protocol w = (.readySent :: .readyReceived :: calls w before) ++
      (calls w (kind :: rest) ++ closing w) := by
    simp [protocol, ← split, calls]
  have said : gates s.trace = .readySent :: .readyReceived :: calls w before :=
    List.append_cancel_right (order.trans whole)
  refine ⟨before, rest, split.symm, ?_, failed⟩
  intro other member
  apply c.answered other
  rw [said]
  simp [calls, member]

end Orderly

theorem Willing.asked_eq (willing : Willing w) (c : Coherent w s left) {kind : IdKind}
    {rest : List IdKind} (here : s.parent = .mapping (kind :: rest)) :
    asked w s kind = s.note (.mapperCalled kind w.childId (rangesOf w kind) ::
      ((reply w kind).started.map Event.toolStarted).toList) := by
  obtain ⟨child, rfl | ⟨signal, wish, -⟩, eq⟩ := Run.asked_eq w s kind
  · exact eq
  · have due := (c.left_of_mapping here).1.subset List.mem_cons_self
    exact absurd ⟨kind, due, wish⟩ (willing.spares signal)

theorem orderly_of_move (willing : Willing w) (reached : Undisturbed w s) (o : Orderly w s)
    (move : Move w s t) : Orderly w t := by
  obtain ⟨left, c⟩ := coherent reached.reachable
  cases move with
  | inner child move => exact orderly_of_inner willing reached o move
  | cloned here => exact ⟨nofun, nofun, nofun⟩
  | uncloned errno here failed =>
    exact o.next rfl (List.prefix_append ..) (by rw [here]; rfl) nofun
      (fun _ _ => Or.inr ⟨errno, failed⟩)
  | unready e k here failed =>
    obtain ⟨-, -, gone, rfl⟩ := c.unready_cause here failed
    have born := c.born (by simp [here]) (by simp [here])
    have few := c.letGo_iff.mp (o.letGo_of_gone c born gone (by rw [here]; rfl))
    have many := length_protocol w
    omega
  | mapped kind rest here done =>
    rw [willing.asked_eq c here]
    refine o.next rfl ?_ (by rw [here]; rfl) nofun nofun
    exact (List.prefix_append ..).trans (List.prefix_append ..)
  | unmapped kind rest e here failed =>
    rw [willing.asked_eq c here]
    refine o.next rfl (List.prefix_append ..) (by rw [here]; rfl) ?_ nofun
    rintro _ (⟨⟨⟩⟩ | ⟨⟨⟩⟩)
    exact ⟨kind, Orderly.firstDenied c here failed⟩
  | unsentGo e k here failed =>
    obtain ⟨rfl, -⟩ := c.left_of_releasing here
    obtain ⟨-, -, lost | closed⟩ := Socket.deliver_error failed
    · cases (c.calm_of_parent (by simp [here])).symm.trans lost
    · have held := c.held .child
      have none : (s.socket.get .child).holders = 0 := Socket.isOpen_eq_false.mp closed
      rw [none, here] at held
      have born := c.born (by simp [here]) (by simp [here])
      have gone := (Nat.zero_add _).symm.trans held.symm
      have few := c.letGo_iff.mp (o.letGo_of_gone c born gone (by rw [here]; rfl))
      rw [length_closing] at few
      omega
  | reaped report ending here ended =>
    refine o.next rfl (List.prefix_append ..) (by rw [here]; rfl) nofun ?_
    intro _ _
    left
    exact o.letGo_of_gone c (by rw [ended]; nofun) (by rw [ended]; rfl) (by rw [here]; rfl)
  | abandoned cause here =>
    refine o.next rfl (List.prefix_append ..) (by rw [here]; rfl) ?_ nofun
    rintro _ (⟨⟨⟩⟩ | ⟨⟨⟩⟩)
    exact o.denied cause (Or.inl here)
  | aborted cause ending here ended =>
    obtain ⟨kind, first⟩ := o.denied cause (Or.inr here)
    refine ⟨fun _ _ => Or.inr rfl, nofun, ?_⟩
    rintro _ ⟨⟩
    exact Or.inr (Or.inr ⟨kind, cause, ending, first, ended, rfl⟩)
  | misheard e k here failed => cases (c.hears here failed).1
  | dropped here | allMapped here =>
    exact o.next rfl (List.prefix_refl _) (by rw [here]; rfl) nofun nofun
  | ready k here | sentGo k here | heard report k here =>
    exact o.next rfl (List.prefix_append ..) (by rw [here]; rfl) nofun nofun

theorem orderly (willing : Willing w) (reached : Undisturbed w s) : Orderly w s :=
  reached.invariant (P := Orderly w) ⟨nofun, nofun, nofun⟩
    (fun _ _ reached => orderly_of_move willing reached)

end NamespaceEntry.Run
