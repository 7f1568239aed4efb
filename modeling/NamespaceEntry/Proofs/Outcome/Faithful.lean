import NamespaceEntry.Proofs.Outcome.Fate

/-!
# The outcome of a run is the outcome of its command

`Yields` is total: each order of the steps comes to the result. `faithful_outcome` gives the
result for each way in which a command that was tried can end, directly or below an init. It is
tried when all that the run asks for is granted and an init can fork.
-/

namespace NamespaceEntry.Run

variable {w : Setting} {s : State} {r : Except Error Outcome}

/-- Whatever the order of the steps from here, the run ends with the result. -/
def Yields (w : Setting) (s : State) (r : Except Error Outcome) : Prop :=
  Inevitably w (fun t => t.result? = some r) s

structure Granted (w : Setting) : Prop where
  clone : w.host.clone w.namespaces = .ok ()
  mounts : w.host.mount w.namespaces w.procTarget = .ok ()
  maps : ∀ kind ∈ w.isolation.required,
    (reply w kind).result = .ok () ∧ (reply w kind).kill = none

/-- An init can wait for its signals and pass them on. What it waits for are signals, and it may
signal every process of its namespace, so neither call has a reason to fail. -/
def Steady (w : Setting) : Prop :=
  w.namespaces.pid = true → ∀ errno, ¬w.host.init.Interrupts errno

/-- An init can fork its command, and the forked process can get its signals back. -/
def Able (w : Setting) : Prop :=
  w.namespaces.pid = true → w.host.init.unforked? = none ∧ w.host.init.restoreSignals = none

theorem Granted.willing (granted : Granted w) : Willing w where
  mounts := granted.mounts
  spares := by
    rintro signal ⟨kind, due, wish⟩
    rw [kindsToMap_eq] at due
    cases wish.symm.trans (granted.maps kind due).2

/-- A run whose mapper maps all that it is asked to is done only after its child was let go. -/
theorem letGo_of_mapped (willing : Willing w) (cloned : w.host.clone w.namespaces = .ok ())
    (maps : ∀ kind ∈ w.isolation.required, (reply w kind).result = .ok ())
    (reached : Undisturbed w s) (done : s.parent = .finished r) : .goReceived ∈ s.trace := by
  rcases (orderly willing reached).settled r done with
    released | ⟨errno, failed⟩ | ⟨kind, cause, ending, ⟨before, after, split, -, failed⟩, -, -⟩
  · exact released
  · cases failed.symm.trans cloned
  · have due : kind ∈ w.isolation.required := by
      rw [← kindsToMap_eq, split]
      exact List.mem_append_right _ List.mem_cons_self
    cases failed.symm.trans (maps kind due)

theorem Granted.letGo (granted : Granted w) (reached : Undisturbed w s)
    (done : s.parent = .finished r) : .goReceived ∈ s.trace :=
  letGo_of_mapped granted.willing granted.clone (fun kind due => (granted.maps kind due).1)
    reached done

theorem Granted.fate (granted : Granted w) (reached : Undisturbed w s)
    (done : s.parent = .finished r) : Fate w s.trace r :=
  Run.fate reached done (granted.letGo reached done)

theorem Granted.attempted (granted : Granted w) (able : Able w) (steady : Steady w)
    (reached : Undisturbed w s) (done : s.parent = .finished r) :
    .execAttempted w.command.argv ∈ s.trace := by
  cases granted.fate reached done with
  | outcome tried => exact tried
  | nameless tried => exact tried
  | lost below d said why =>
    cases why with
    | nameless tried => exact tried
    | interrupted errno interrupts => exact absurd interrupts (steady below errno)
    | unforked errno failed => cases failed.symm.trans (able below).1
    | unrestored errno failed => cases failed.symm.trans (able below).2

/-! ### Results that come about -/

/-- The fate of a named command that was tried is its outcome, unless an orphan has none. -/
theorem Fate.eq_ok {trace : List Event} {o : Outcome} (fate : Fate w trace r) (steady : Steady w)
    (tried : .execAttempted w.command.argv ∈ trace)
    (named : w.toSetting.commandEnding.outcome? = some o)
    (orphans : w.namespaces.pid = true → ∀ orphan ∈ w.toSetting.orphans, orphan.outcome? ≠ none) :
    r = .ok o := by
  cases fate with
  | outcome _ other same => rw [Option.some.inj (named.symm.trans same)]
  | nameless _ _ nameless => cases named.symm.trans nameless
  | lost below d said why =>
    cases why with
    | nameless _ ending dead nameless =>
      rcases dead with rfl | lost
      · cases named.symm.trans nameless
      · exact absurd nameless (orphans below ending lost)
    | interrupted errno interrupts => exact absurd interrupts (steady below errno)
    | unforked _ _ untried => exact absurd tried untried
    | unrestored _ _ untried => exact absurd tried untried

/-- A run whose command is or will be tried, and that nothing keeps from its end, yields the only
result that its command can come to. -/
theorem Granted.yields (granted : Granted w) (steady : Steady w) (reached : Undisturbed w s)
    (free : Unhindered w s) (tries : Able w ∨ .execAttempted w.command.argv ∈ s.trace)
    (only : ∀ trace q, .execAttempted w.command.argv ∈ trace → Fate w trace q → q = r) :
    Yields w s r := by
  have done := inevitably_finished
    (Q := fun t => Unhindered w t ∧ (Able w ∨ .execAttempted w.command.argv ∈ t.trace))
    (fun t u here move => ⟨here.1.of_move move, here.2.imp_right fun tried =>
      (trace_of_move move).subset tried⟩)
    (fun t reached here => here.1.not_awaits reached) reached ⟨free, tries⟩
  refine done.mono ?_
  rintro t ⟨reached, ⟨-, tries⟩, q, done⟩
  have tried : .execAttempted w.command.argv ∈ t.trace :=
    tries.elim (fun able => granted.attempted able steady reached done) id
  rw [result?_eq_some, done, only _ _ tried (granted.fate reached done)]

theorem yields_of_named (granted : Granted w) (steady : Steady w) (reached : Undisturbed w s)
    (free : Unhindered w s) (tries : Able w ∨ .execAttempted w.command.argv ∈ s.trace)
    {o : Outcome} (named : w.toSetting.commandEnding.outcome? = some o)
    (orphans : w.namespaces.pid = true → ∀ orphan ∈ w.toSetting.orphans, orphan.outcome? ≠ none) :
    Yields w s (.ok o) :=
  granted.yields steady reached free tries fun _ _ tried fate =>
    fate.eq_ok steady tried named orphans

/-- Without an init a command that has no outcome cannot be waited for. -/
theorem yields_of_nameless (granted : Granted w) (reached : Undisturbed w s)
    (free : Unhindered w s) (direct : w.namespaces.pid = false)
    (nameless : w.toSetting.commandEnding.outcome? = none) :
    Yields w s (.error (.wait (.failed w.childId .invalidArgument))) := by
  have steady : Steady w := fun below => by cases direct.symm.trans below
  have able : Able w := fun below => by cases direct.symm.trans below
  refine granted.yields steady reached free (Or.inl able) ?_
  intro trace q tried fate
  cases fate with
  | outcome _ o named => cases named.symm.trans nameless
  | nameless => rfl
  | lost below => cases direct.symm.trans below

theorem yields_of_unstarted (granted : Granted w) (steady : Steady w) (reached : Undisturbed w s)
    (tries : Able w ∨ .execAttempted w.command.argv ∈ s.trace) {errno : Errno}
    (failed : w.host.start .command w.command.launch = .error errno) :
    Yields w s (.ok (.exited errno.execCode)) := by
  have free : Unhindered w s := by
    refine Or.inr ?_
    intro program found
    cases found.symm.trans failed
  have named : w.toSetting.commandEnding.outcome? = some (.exited errno.execCode) := by
    rw [Child.commandEnding_of_error failed]
    rfl
  have none : w.toSetting.orphans = [] := by
    unfold Child.Setting.orphans
    rw [failed]
  exact yields_of_named granted steady reached free tries named (by rw [none]; nofun)

theorem inevitably_started (granted : Granted w) (able : Able w) (steady : Steady w)
    {program : Program} (found : w.host.start .command w.command.launch = .ok program) :
    Inevitably w (fun t => .execAttempted w.command.argv ∈ t.trace ∧
      .commandStarted w.command.launch w.namespaces.pid ∈ t.trace) {} := by
  have settles := inevitably_over (w := w) (Q := fun _ => True) (fun _ _ _ _ => trivial) .start
    trivial
  refine settles.mono ?_
  rintro t ⟨reached, -, ⟨r, done⟩ | waits⟩
  · have attempted := granted.attempted able steady reached done
    exact ⟨attempted, started_of_reaped reached done attempted found⟩
  · obtain ⟨-, below, attempted, started⟩ := started_of_awaits reached waits
    rw [below]
    exact ⟨attempted, started⟩

theorem execCode_eq (errno : Errno) :
    errno.execCode = if errno = .noEntry ∨ errno = .notDirectory then 127 else 126 := by
  unfold Errno.execCode
  split <;> simp_all

theorem exists_number {number : Nat} (least : 1 ≤ number) (most : number ≤ 31) :
    ∃ signal : Signal, signal.number = number ∧
      (Ending.killed number).outcome? = some (.signaled signal) := by
  have all : ∀ n < 32, 1 ≤ n → ∃ signal ∈ Signal.all, signal.number = n ∧
      (Ending.killed n).outcome? = some (.signaled signal) := by decide
  obtain ⟨signal, -, same, named⟩ := all number (by omega) least
  exact ⟨signal, same, named⟩

/-- A run that is granted all it asks for gives the outcome of its command: an exit code as it is, a
death by a standard signal as that signal, and a command that cannot be executed as 127 or 126.
The command is started and comes to this if an init can fork. Below an init this needs the
orphans to end in ways that have outcomes. -/
theorem faithful_outcome (w : Setting) (granted : Granted w) (steady : Steady w)
    (orphans : w.namespaces.pid = true → ∀ orphan ∈ w.toSetting.orphans, orphan.outcome? ≠ none) :
    (∀ s, Undisturbed w s →
      (∀ code, .commandEnded (.exited code) ∈ s.trace → Yields w s (.ok (.exited code))) ∧
      (∀ number, 1 ≤ number → number ≤ 31 → .commandEnded (.killed number) ∈ s.trace →
        ∃ signal : Signal, signal.number = number ∧ Yields w s (.ok (.signaled signal))) ∧
      ∀ errno, w.host.start .command w.command.launch = .error errno →
        .execAttempted w.command.argv ∈ s.trace →
          Yields w s (.ok (.exited
            (if errno = .noEntry ∨ errno = .notDirectory then 127 else 126)))) ∧
    (Able w →
      (∀ errno, w.host.start .command w.command.launch = .error errno →
        Yields w {} (.ok (.exited
          (if errno = .noEntry ∨ errno = .notDirectory then 127 else 126)))) ∧
      ∀ program, w.host.start .command w.command.launch = .ok program →
        Inevitably w (fun t => .commandStarted w.command.launch w.namespaces.pid ∈ t.trace) {} ∧
        ((w.namespaces.pid = true → ∀ signal, .await signal ∉ program.script) →
          ∀ o, program.ending.outcome? = some o → Yields w {} (.ok o))) := by
  refine ⟨?_, ?_⟩
  · intro s reached
    have yields : ∀ ending o, .commandEnded ending ∈ s.trace → ending.outcome? = some o →
        Yields w s (.ok o) := by
      intro ending o ended named
      obtain ⟨rfl, tried, -⟩ := commandEnded reached ended
      exact yields_of_named granted steady reached (Or.inl ⟨_, ended⟩) (Or.inr tried) named orphans
    refine ⟨fun code ended => yields _ _ ended rfl, ?_, ?_⟩
    · intro number least most ended
      obtain ⟨signal, same, named⟩ := exists_number least most
      exact ⟨signal, same, yields _ _ ended named⟩
    · intro errno failed tried
      rw [← execCode_eq]
      exact yields_of_unstarted granted steady reached (Or.inr tried) failed
  · intro able
    refine ⟨?_, ?_⟩
    · intro errno failed
      rw [← execCode_eq]
      exact yields_of_unstarted granted steady .start (Or.inl able) failed
    · intro program found
      have same := Child.commandEnding_of_ok found
      refine ⟨(inevitably_started granted able steady found).mono fun t began => began.2, ?_⟩
      intro patient o named
      have free : Unhindered w {} := by
        refine Or.inr ?_
        intro other found'
        cases found.symm.trans found'
        exact patient
      exact yields_of_named granted steady .start free (Or.inl able) (same ▸ named) orphans

def bereft : Setting :=
  lone secluded (.mapped oneOfEach)
    { script := [.orphan (.exited 3), .orphan (.killed 9)], ending := .killed 15 }

theorem faithful_outcome_bereft :
    Granted bereft ∧ Steady bereft ∧ Able bereft ∧
      (∀ orphan ∈ bereft.toSetting.orphans, orphan.outcome? ≠ none) ∧
      Yields bereft {} (.ok (.signaled .term)) := by
  have granted : Granted bereft := ⟨rfl, rfl, fun _ _ => ⟨rfl, rfl⟩⟩
  have steady : Steady bereft := by
    intro _ errno interrupts
    exact InitCalls.not_fails errno (.looping interrupts)
  have able : Able bereft := fun _ => ⟨rfl, rfl⟩
  have named : ∀ orphan ∈ bereft.toSetting.orphans, orphan.outcome? ≠ none := by decide +kernel
  have outcome := ((faithful_outcome bereft granted steady fun _ => named).2 able).2 _ rfl
  exact ⟨granted, steady, able, named, outcome.2 (by simp) _ rfl⟩

end NamespaceEntry.Run
