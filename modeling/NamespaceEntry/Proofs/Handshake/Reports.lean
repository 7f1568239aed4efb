import NamespaceEntry.Proofs.Run.Deadlock

/-!
# The report of an outcome

A reset of the parent's end would hide a report that is queued there. It cannot: a child
reports only after it has read all that was sent to it, so that its end closes quietly. What
the parent hears is then what was reported, whether the child's end is closed before or after
the parent reads, and it hears nothing only from a child that closed without a report.
-/

namespace NamespaceEntry.Run

variable {w : Setting} {s t : State} {left : List Event} {o : Outcome}

theorem mem_reports {trace : List Event} : o ∈ reports trace ↔ .reported o ∈ trace := by
  unfold reports
  rw [List.mem_filterMap]
  constructor
  · rintro ⟨event, member, reports⟩
    cases event <;> simp only [Event.report?, reduceCtorEq, Option.some.injEq] at reports
    subst reports
    exact member
  · intro member
    exact ⟨_, member, rfl⟩

theorem Coherent.reports_eq (c : Coherent w s left) (told : .reported o ∈ s.trace) :
    reports s.trace = [o] := by
  have once := c.toldOnce
  have member := mem_reports.mpr told
  cases heard : reports s.trace with
  | nil => rw [heard] at member; cases member
  | cons first rest =>
    rw [heard, List.length_cons] at once
    have alone : rest = [] := List.eq_nil_of_length_eq_zero (by omega)
    rw [heard, alone, List.mem_singleton] at member
    rw [alone, member]

theorem Coherent.head?_reports_iff (c : Coherent w s left) :
    (reports s.trace).head? = some o ↔ .reported o ∈ s.trace := by
  constructor
  · intro first
    exact mem_reports.mp (List.mem_of_mem_head? first)
  · intro told
    rw [c.reports_eq told]
    rfl

theorem head?_reports_eq_none :
    (reports s.trace).head? = none ↔ ∀ o, .reported o ∉ s.trace := by
  rw [List.head?_eq_none_iff, List.eq_nil_iff_forall_not_mem]
  constructor
  · intro none o told
    exact none o (mem_reports.mpr told)
  · intro none o member
    exact none o (mem_reports.mp member)

/-! ### Sending the report -/

/-- When a child below its parent speaks, nothing is under way on either side, and each side
holds its own end and no other. -/
theorem Coherent.socket_of_below (c : Coherent w s left) (before : s.phase.station = .below) :
    s.socket = {} := by
  obtain ⟨there, few⟩ := c.parent_of_below before
  have alive : s.phase.station ≠ .ended := by rw [before]; decide
  have parentHeld := c.held .parent
  have childHeld := c.held .child
  rw [there, before] at parentHeld childHeld
  have inbox : s.socket.parent.queue = [] := by
    rw [c.inbox, there, c.untold alive]
    rfl
  have outbox : s.socket.child.queue = [] := by
    rw [c.outbox]
    exact outbox_of_many _ (by omega)
  have parent : s.socket.parent = {} :=
    Endpoint.mk.injEq .. ▸ ⟨parentHeld, inbox, c.parent_calm alive⟩
  have child : s.socket.child = {} :=
    Endpoint.mk.injEq .. ▸ ⟨childHeld, outbox, c.childCalm⟩
  exact Socket.mk.injEq .. ▸ ⟨parent, child⟩

/-- On a pair on which nothing is under way, a report arrives before or after the child lets
go of its end. -/
theorem report_commutes_with_release (o : Outcome) :
    ∃ sent read, ({} : Socket).deliver .child o.encode = (.ok (), sent) ∧
      sent.awaitReport? = some (.ok (some o), read) ∧
      (sent.release .child).awaitReport? = some (.ok (some o), read.release .child) := by
  let sent : Socket := { parent := { queue := [o.encode] } }
  refine ⟨sent, (sent.set .parent {}).release .parent, rfl, ?_, ?_⟩
  · rw [Socket.awaitReport?_of_cons rfl rfl, Socket.decode_encode]
  · rw [Socket.awaitReport?_of_cons rfl rfl, Socket.decode_encode]
    rfl

/-! ### After the report -/

theorem reported_of_move {w : Child.Setting} {s t : Child.State} (move : Child.Move w s t)
    (told : .reported o ∈ t.trace) :
    .reported o ∈ s.trace ∨ t.phase = .ended (.exited o.shellCode) := by
  cases move with
  | reported outcome k here =>
    have said : Event.reported o ∈ s.trace ∨ o = outcome := by
      simpa [Child.State.log, Child.State.goto] using told
    rcases said with before | rfl
    · exact Or.inl before
    · exact Or.inr rfl
  | took init command orphans signal =>
    left
    simp only [Child.State.goto] at told
    split at told
    · exact told
    · simpa [Child.State.log] using told
  | initFailed init command =>
    left
    simp only [Child.State.fail, Child.State.exit, Child.State.log] at told
    split at told <;> simpa using told
  | _ =>
    left
    simpa [Child.State.log, Child.State.goto, Child.State.fail, Child.State.exit] using told

/-- A child that has reported an outcome has ended, and nothing happens to it any more. -/
theorem phase_of_reported (reached : Reachable w s) (told : .reported o ∈ s.trace) :
    s.phase = .ended (.exited o.shellCode) := by
  induction reached with
  | start => cases told
  | @step s t actor reached taken ih =>
    have still : ∀ kind, .reported o ∈ s.trace → (asked w s kind).phase = s.phase := by
      intro kind before
      obtain ⟨child, rfl | ⟨signal, -, death⟩, eq⟩ := asked_eq w s kind
      · rw [eq]
        rfl
      · rw [killStep_of_childless signal (Or.inr ⟨_, ih before⟩)] at death
        cases death
    rcases move_of_step taken with move | ⟨signal, child, -, death, rfl⟩
    · cases move with
      | inner child move =>
        rcases reported_of_move move told with before | ended
        · exact absurd move (not_move_of_childless (Or.inr ⟨_, ih before⟩))
        · exact ended
      | cloned here done =>
        obtain ⟨left, c⟩ := coherent reached
        have unborn := unborn_of_station (c.cloned here)
        rw [ih told] at unborn
        cases unborn
      | mapped kind rest here done =>
        have said : .reported o ∈ (asked w s kind).trace := by
          simpa [State.next, State.note, Child.State.log] using told
        have before := mem_of_asked said (by simp) (by simp)
        exact (still kind before).trans (ih before)
      | unmapped kind rest e here failed =>
        have before := mem_of_asked told (by simp) (by simp)
        exact (still kind before).trans (ih before)
      | _ => exact ih (by simpa [State.next, State.note, State.drop, Child.State.log] using told)
    · obtain ⟨-, -, rfl⟩ := Child.killStep_eq_some death
      rw [killStep_of_childless signal (Or.inr ⟨_, ih told⟩)] at death
      cases death

/-- What was reported reaches the parent: it can still hear it, or it has heard it, or it has
returned it. -/
theorem parent_of_reported (reached : Reachable w s) (told : .reported o ∈ s.trace) :
    s.parent = .awaitingReport ∨ s.parent = .reaping (some o) ∨ s.parent = .finished (.ok o) := by
  obtain ⟨left, c⟩ := coherent reached
  have reports := c.reports_eq told
  obtain ⟨few, ended⟩ := c.told (by rw [reports]; exact List.cons_ne_nil _ _)
  have length := length_protocol w
  have parent := c.parent
  cases there : s.parent <;> rw [there] at parent
  case awaitingReport => exact Or.inl rfl
  case reaping report =>
    have heard := c.heard report there
    rw [reports] at heard
    exact Or.inr (Or.inl (by rw [heard]; rfl))
  case finished r =>
    obtain ⟨left, c, how⟩ := settled reached there
    obtain ⟨few, -⟩ := c.told (by rw [reports]; exact List.cons_ne_nil _ _)
    cases how with
    | uncloned errno failed unborn whole =>
      rw [phase_of_reported reached told] at unborn
      cases unborn
    | aborted cause ending ended because =>
      have many := because.many
      omega
    | reaped ending gone _ =>
      have same : ending = .exited o.shellCode :=
        Child.Phase.ended.inj (gone.symm.trans (phase_of_reported reached told))
      rw [reports, same]
      exact Or.inr (Or.inr rfl)
  case abandoning cause | aborting cause =>
    have many := Cause.many parent
    omega
  case cloning | dropping | awaitingReady =>
    simp only [ParentPhase.Leaves] at parent
    omega
  case mapping kinds =>
    have lengths := congrArg List.length parent.2
    simp only [List.length_append, length_closing] at lengths
    omega
  case releasing =>
    have lengths := congrArg List.length parent
    rw [length_closing] at lengths
    omega

/-! ### Hearing the report -/

theorem isOpen_of_awaiting (reached : Reachable w s) (here : s.parent = .awaitingReport) :
    s.socket.child.isOpen = true ↔ 0 < s.phase.station.copies .child := by
  rw [← Socket.get_child, isOpen_iff_held reached .child, here]
  simp [ParentPhase.copies]

theorem closed_of_reported (reached : Reachable w s) (here : s.parent = .awaitingReport)
    (told : .reported o ∈ s.trace) : s.socket.child.isOpen = false := by
  apply Bool.eq_false_iff.mpr
  rw [ne_eq, isOpen_of_awaiting reached here, phase_of_reported reached told]
  exact Nat.lt_irrefl 0

/-- A parent that waits for the report is blocked exactly while the child's end is open. -/
theorem awaitReport?_blocked_iff (reached : Reachable w s) (here : s.parent = .awaitingReport) :
    s.socket.awaitReport? = none ↔ s.socket.child.isOpen = true := by
  rw [Socket.awaitReport?_eq_none]
  constructor
  · exact fun blocked => blocked.2.2
  · intro opened
    obtain ⟨left, c⟩ := coherent reached
    have alive : s.phase.station ≠ .ended := by
      intro ended
      rw [isOpen_of_awaiting reached here, ended] at opened
      exact Nat.lt_irrefl 0 opened
    refine ⟨c.parent_calm alive, ?_, opened⟩
    rw [c.inbox, here, c.untold alive]
    rfl

theorem closed_of_reaping (reached : Reachable w s) {heard : Option Outcome}
    (here : s.parent = .reaping heard) : s.socket.child.isOpen = false := by
  obtain ⟨left, c⟩ := coherent reached
  have held := c.held .child
  have gaveUp := c.gaveUp
  have parent := c.parent
  rw [here] at held gaveUp parent
  simp only [ParentPhase.Leaves] at parent
  have gone : s.phase.station.copies .child = 0 := by
    rcases gaveUp rfl with gone | ⟨-, many⟩
    · exact gone
    · omega
  rw [gone] at held
  exact Socket.isOpen_eq_false.mpr held

/-- In every order of the steps of parent, child and command, and wherever the child is killed, the
parent hears an outcome exactly if it was reported, and nothing exactly if the child's end was
closed without a report. A report always gets through, and it makes no difference whether the child
lets go of its end before or after the parent reads. -/
theorem report_kept (reached : Reachable w s) :
    (s.parent = .awaitingReport →
      (s.socket.awaitReport? = none ↔ s.socket.child.isOpen = true) ∧
      ((∃ o, .reported o ∈ s.trace) → s.socket.child.isOpen = false) ∧
      ∀ result k, s.socket.awaitReport? = some (result, k) →
        (∀ o, result = .ok (some o) ↔ .reported o ∈ s.trace) ∧
        (result = .ok none ↔ s.socket.child.isOpen = false ∧ ∀ o, .reported o ∉ s.trace) ∧
        ∀ e, result ≠ .error e) ∧
    (∀ heard, s.parent = .reaping heard →
      (∀ o, heard = some o ↔ .reported o ∈ s.trace) ∧
      (heard = none ↔ s.socket.child.isOpen = false ∧ ∀ o, .reported o ∉ s.trace)) ∧
    (∀ o, s.phase = .reporting o → s.parent = .awaitingReport ∧ s.socket.child.queue = [] ∧
      ∃ sent read, s.socket.deliver .child o.encode = (.ok (), sent) ∧
        sent.awaitReport? = some (.ok (some o), read) ∧
        (sent.release .child).awaitReport? = some (.ok (some o), read.release .child)) ∧
    (∀ o, .reported o ∈ s.trace → s.parent = .awaitingReport ∨ s.parent = .reaping (some o) ∨
      s.parent = .finished (.ok o)) := by
  obtain ⟨left, c⟩ := coherent reached
  refine ⟨?_, ?_, ?_, fun o => parent_of_reported reached⟩
  · intro here
    refine ⟨awaitReport?_blocked_iff reached here, ?_, ?_⟩
    · rintro ⟨o, told⟩
      exact closed_of_reported reached here told
    · intro result k got
      obtain ⟨rfl, gone, -⟩ := c.hears here got
      have closed : s.socket.child.isOpen = false := by
        apply Bool.eq_false_iff.mpr
        rw [ne_eq, isOpen_of_awaiting reached here, gone]
        exact Nat.lt_irrefl 0
      refine ⟨fun o => ?_, ?_, nofun⟩
      · rw [Except.ok.injEq, c.head?_reports_iff]
      · rw [Except.ok.injEq, head?_reports_eq_none]
        exact ⟨fun silent => ⟨closed, silent⟩, And.right⟩
  · intro heard here
    rw [c.heard heard here]
    refine ⟨fun o => c.head?_reports_iff, ?_⟩
    rw [head?_reports_eq_none]
    exact ⟨fun silent => ⟨closed_of_reaping reached here, silent⟩, And.right⟩
  · intro o here
    have below : s.phase.station = .below := by rw [here]; rfl
    rw [c.socket_of_below below]
    exact ⟨(c.parent_of_below below).1, rfl, report_commutes_with_release o⟩

def reporting (steps : Nat) : State := complete (lone secluded .plain {}) steps {}

/-- A report is heard after the child has closed its end, and nothing is heard of a child that
was killed before it read that it may go. -/
theorem report_kept_closed :
    Reachable (lone secluded .plain {}) (reporting 15) ∧
      .reported (.exited 0) ∈ (reporting 15).trace ∧
      (reporting 15).socket.child.isOpen = false ∧
      (∃ k, (reporting 15).socket.awaitReport? = some (.ok (some (.exited 0)), k)) ∧
      ∃ killed, step (lone secluded .plain {}) (reporting 8) (.killer 9) = some killed ∧
        killed.socket.parent.reset = true ∧
        ∃ k, killed.socket.awaitReport? = some (.ok none, k) := by
  have reached (steps : Nat) : Reachable (lone secluded .plain {}) (reporting steps) :=
    (undisturbed_complete steps .start).reachable
  have told : .reported (.exited 0) ∈ (reporting 15).trace := by decide
  refine ⟨reached 15, told, by decide, ?_, _, rfl, rfl, ?_⟩
  · obtain ⟨blocked, closes, hears⟩ := (report_kept (reached 15)).1 rfl
    cases got : (reporting 15).socket.awaitReport? with
    | none => cases (blocked.mp got).symm.trans (closes ⟨_, told⟩)
    | some answer =>
      obtain ⟨result, k⟩ := answer
      exact ⟨k, by rw [((hears result k got).1 (.exited 0)).mpr told]⟩
  · obtain ⟨-, -, hears⟩ := (report_kept ((reached 8).step (.killer 9) rfl)).1 rfl
    refine ⟨_, congrArg (fun result => some (result, _)) (((hears _ _ rfl).2.1).mpr ⟨rfl, ?_⟩)⟩
    exact fun o told => List.not_mem_nil (mem_reports.mpr told)

end NamespaceEntry.Run
