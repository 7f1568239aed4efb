import NamespaceEntry.Proofs.Init.Chronicles

/-!
# Relaying signals

A signal that is sent is pending, once, until the init passes it on. So at every moment a relayed
signal is pending or has been passed on since it was last sent, and the signals that are neither
relayed nor `SIGCHLD` are not even pending. Passing on does not touch the dead, nor the place in
the loop: a history means the same to the rest of the wait when all that was relayed is left out.
-/

namespace NamespaceEntry

namespace Init

open Loop

variable {h : List Happening} {l k : Loop} {e : Happening} {s : Signal}

def passes (h : List Happening) : List Signal :=
  h.filterMap fun
    | .passed signal _ => some signal
    | _ => none

/-- The signal has been passed on, and has not been sent since. -/
def PassedSince (h : List Happening) (s : Signal) : Prop :=
  ∃ before answer after, h = before ++ .passed s answer :: after ∧ .sent s ∉ after

theorem passes_append (h more : List Happening) : passes (h ++ more) = passes h ++ passes more :=
  List.filterMap_append

theorem passedSince_append :
    PassedSince (h ++ [e]) s ↔
      (∃ answer, e = .passed s answer) ∨ PassedSince h s ∧ e ≠ .sent s := by
  constructor
  · rintro ⟨before, answer, after, same, unsent⟩
    rcases List.eq_nil_or_concat after with rfl | ⟨after, last, rfl⟩
    · exact Or.inl ⟨answer, (List.append_inj' same rfl).2 |> List.singleton_inj.mp⟩
    · rw [List.concat_eq_append, ← List.cons_append, ← List.append_assoc] at same
      obtain ⟨rfl, now⟩ := List.append_inj' same rfl
      rw [List.concat_eq_append, List.mem_append, List.mem_singleton, not_or] at unsent
      refine Or.inr ⟨⟨before, answer, after, rfl, unsent.1⟩, ?_⟩
      rw [List.singleton_inj.mp now]
      exact Ne.symm unsent.2
  · rintro (⟨answer, rfl⟩ | ⟨⟨before, answer, after, rfl, unsent⟩, other⟩)
    · exact ⟨h, answer, [], rfl, List.not_mem_nil⟩
    · refine ⟨before, answer, after ++ [e], by simp, ?_⟩
      simp [unsent, Ne.symm other]

theorem watched_eq_true : watched s = true ↔ s = .chld ∨ s ∈ forwards := by
  simp [watched]

theorem ne_chld (relayed : s ∈ forwards) : s ≠ .chld := by
  rintro rfl
  exact absurd relayed (by decide)

/-! ### What is pending and what was passed on -/

/-- What a history tells of the signals that are pending and of those that were passed on. -/
structure Relayed (h : List Happening) (l : Loop) : Prop where
  once : l.init.pending.Nodup
  forwarded : l.init.forwarded = passes h
  known : ∀ s ∈ l.init.pending, s ≠ .chld → s ∈ forwards ∧ .sent s ∈ h
  asked : ∀ s ∈ l.init.forwarded, s ∈ forwards ∧ .sent s ∈ h
  due : ∀ s ∈ forwards, .sent s ∈ h → (s ∈ l.init.pending ↔ ¬PassedSince h s)

theorem Relayed.keep (r : Relayed h l) (once : k.init.pending.Nodup)
    (forwarded : k.init.forwarded = l.init.forwarded)
    (pending : ∀ s, s ≠ .chld → (s ∈ k.init.pending ↔ s ∈ l.init.pending))
    (sent : sends [e] = []) (passed : passes [e] = []) : Relayed (h ++ [e]) k := by
  have unsent : ∀ s, .sent s ∈ h ++ [e] ↔ .sent s ∈ h := by
    simp only [← mem_sends, sends_append, sent, List.append_nil, implies_true]
  have since : ∀ s, PassedSince (h ++ [e]) s ↔ PassedSince h s := by
    intro s
    rw [passedSince_append, or_iff_right, and_iff_left]
    · rintro rfl
      cases sent
    · rintro ⟨answer, rfl⟩
      cases passed
  refine ⟨once, ?_, ?_, ?_, ?_⟩
  · rw [forwarded, r.forwarded, passes_append, passed, List.append_nil]
  · intro s here other
    rw [unsent]
    exact r.known s ((pending s other).mp here) other
  · simpa only [forwarded, unsent] using r.asked
  · intro s relayed
    rw [unsent, since, pending s (ne_chld relayed)]
    exact r.due s relayed

theorem Relayed.sent (r : Relayed h l) (signal : Signal) :
    Relayed (h ++ [.sent signal]) { l with init := l.init.raise signal } := by
  have grown : ∀ {s}, s ∈ forwards ∧ .sent s ∈ h → s ∈ forwards ∧ .sent s ∈ h ++ [.sent signal] :=
    fun here => ⟨here.1, List.mem_append_left _ here.2⟩
  refine ⟨nodup_raise _ r.once, ?_, ?_, ?_, ?_⟩ <;> simp only [forwarded_raise]
  · rw [r.forwarded, passes_append]
    exact (List.append_nil _).symm
  · intro s here other
    rcases mem_pending_raise.mp here with before | ⟨rfl, watches⟩
    · exact grown (r.known s before other)
    · refine ⟨(watched_eq_true.mp watches).resolve_left other, ?_⟩
      exact List.mem_append_right _ List.mem_cons_self
  · exact fun s here => grown (r.asked s here)
  · intro s relayed sent
    rw [mem_pending_raise, passedSince_append]
    by_cases same : s = signal
    · subst same
      simp [watched_eq_true, relayed]
    · have before : .sent s ∈ h := by simpa [same] using sent
      have other : signal ≠ s := Ne.symm same
      simp [same, other, r.due s relayed before]

theorem Relayed.pass {i : Init} (r : Relayed h ⟨i, .waiting⟩) {signal : Signal}
    (pending : signal ∈ i.pending) (other : signal ≠ .chld) (answer : Except Errno Unit) :
    Relayed (h ++ [.passed signal answer]) ⟨i.pass signal answer, .waiting⟩ := by
  have unsent : ∀ s, .sent s ∈ h ++ [.passed signal answer] ↔ .sent s ∈ h := by simp
  refine ⟨r.once.erase _, ?_, ?_, ?_, ?_⟩ <;> simp only [Init.pass, unsent]
  · have forwarded : i.forwarded = passes h := r.forwarded
    rw [forwarded, passes_append]
    rfl
  · exact fun s here => r.known s (List.mem_of_mem_erase here)
  · intro s here
    rcases List.mem_append.mp here with before | now
    · exact r.asked s before
    · rw [List.mem_singleton.mp now]
      exact r.known signal pending other
  · intro s relayed sent
    rw [passedSince_append]
    by_cases same : s = signal
    · subst same
      simp [r.once.not_mem_erase]
    · rw [List.mem_erase_of_ne same, r.due s relayed sent]
      simp [Ne.symm same]

theorem Relayed.happens (r : Relayed h l) (taken : Happens l e k) : Relayed (h ++ [e]) k := by
  cases taken with
  | sent signal => exact r.sent signal
  | passed i signal answer waits pending other => exact r.pass pending other answer
  | died member ending next death =>
    obtain ⟨-, -, -, forwarded, pending, once, -⟩ := step_ended death
    refine r.keep (once r.once) forwarded ?_ rfl rfl
    intro s other
    simp [pending, other]
  | woken i waits pending =>
    exact r.keep (r.once.erase _) rfl (fun s other => List.mem_erase_of_ne other) rfl rfl
  | reaped | failed | drained => exact r.keep r.once rfl (fun _ _ => Iff.rfl) rfl rfl

theorem relayed (past : Past h l) : Relayed h l := by
  induction past with
  | start => exact ⟨List.nodup_nil, rfl, by simp, by simp, by simp⟩
  | step _ taken ih => exact ih.happens taken

/-- When nothing that is relayed is pending, the signals that were passed on are those of the eight
that were sent. -/
theorem mem_forwarded (past : Past h l) (handled : ∀ s ∈ forwards, s ∉ l.init.pending) :
    s ∈ l.init.forwarded ↔ s ∈ forwards ∧ .sent s ∈ h := by
  have r := relayed past
  constructor
  · exact r.asked s
  · rintro ⟨relayed, sent⟩
    have since : PassedSince h s := by
      apply Classical.byContradiction
      exact fun never => handled s relayed ((r.due s relayed sent).mpr never)
    obtain ⟨before, answer, after, rfl, -⟩ := since
    rw [r.forwarded, passes_append]
    exact List.mem_append_right _ List.mem_cons_self

/-! ### The command lives -/

/-- Nothing that is passed on ends the wait for a command that lives. -/
theorem result_eq_none (past : Past h l) (harmless : Harmless h) (named : Named h)
    (alive : l.init.commandAlive = true) : l.init.result = none := by
  cases result : l.init.result with
  | none => rfl
  | some r =>
    cases r with
    | error errno => exact absurd result (ne_error_of_named past harmless named errno)
    | ok o =>
      obtain ⟨ending, died, -⟩ := (judged past).done o result
      cases alive.symm.trans ((buried past).alive.mpr ⟨ending, died⟩)

/-- If nothing else is sent, the init passes on everything that is relayed, and waits. -/
theorem settles_handled (past : Past h l) (harmless : Harmless h) (named : Named h)
    (alive : l.init.commandAlive = true) :
    l.Settles fun k => k.place = .waiting ∧ k.init.result = none ∧ k.init.pending = [] ∧
      ∀ s, s ∈ k.init.forwarded ↔ s ∈ forwards ∧ .sent s ∈ h := by
  refine settles_of_past (·.init.commandAlive = true) past alive ?_ ?_
  · exact fun _ _ _ _ alive step => (commandAlive_of_own step).trans alive
  · intro more l alone alive still
    have waits := result_eq_none alone.past (alone.harmless harmless) (alone.named named) alive
    obtain ⟨here, unwoken⟩ := waiting_of_still still
    refine ⟨here, waits, unwoken waits, ?_⟩
    intro s
    rw [mem_forwarded alone.past (by simp [unwoken waits]), alone.mem_iff id]

/-! ### Leaving out what is relayed -/

/-- Something between those who send signals and the command. -/
def Happening.relays : Happening → Bool
  | .sent signal => forwards.contains signal
  | .passed .. => true
  | _ => false

/-- Two loops that differ at most in the signals that are relayed. -/
structure Loop.Alike (l k : Loop) : Prop where
  place : k.place = l.place
  alive : k.init.commandAlive = l.init.commandAlive
  result : k.init.result = l.init.result
  zombies : k.init.zombies = l.init.zombies
  wakes : .chld ∈ k.init.pending ↔ .chld ∈ l.init.pending

theorem Loop.Alike.skip {l' : Loop} (a : l.Alike k) (taken : Happens l e l')
    (relays : e.relays = true) (harmless : Harmless [e]) : l'.Alike k := by
  cases taken with
  | sent signal =>
    have relayed : signal ∈ forwards := by simpa [Happening.relays] using relays
    refine ⟨a.place, ?_, ?_, ?_, ?_⟩ <;>
      simp only [commandAlive_raise, result_raise, zombies_raise, mem_pending_raise]
    · exact a.alive
    · exact a.result
    · exact a.zombies
    · simp [a.wakes, (ne_chld relayed).symm]
  | passed i signal answer waits pending other =>
    have taken := refusal?_eq_none.mpr (harmless signal answer List.mem_cons_self)
    rw [pass_eq waits taken]
    refine ⟨a.place, a.alive, a.result, a.zombies, a.wakes.trans ?_⟩
    exact (List.mem_erase_of_ne (Ne.symm other)).symm
  | _ => cases relays

theorem Loop.Alike.happens {l' : Loop} (a : l.Alike k) (once : l.init.pending.Nodup)
    (once' : k.init.pending.Nodup) (taken : Happens l e l') (other : e.relays = false) :
    ∃ k', Happens k e k' ∧ l'.Alike k' := by
  obtain ⟨j, place⟩ := k
  obtain ⟨rfl, alive, result, zombies, wakes⟩ := a
  cases taken with
  | sent signal =>
    refine ⟨_, .sent signal, rfl, ?_, ?_, ?_, ?_⟩ <;>
      simp only [commandAlive_raise, result_raise, zombies_raise, mem_pending_raise]
    · exact alive
    · exact result
    · exact zombies
    · rw [wakes]
  | died member ending next death =>
    obtain ⟨next', death', same⟩ := exists_ended alive death
    obtain ⟨buried, chld, result₁, -⟩ := step_ended death
    obtain ⟨buried', chld', result₂, -⟩ := step_ended death'
    refine ⟨_, .died member ending next' death', rfl, same, ?_, ?_, iff_of_true chld' chld⟩
    · rw [result₂, result₁, result]
    · rw [buried', buried, zombies]
  | passed => cases other
  | woken i waits pending =>
    refine ⟨_, .woken j (result.trans waits) (wakes.mpr pending), rfl, alive, result, zombies, ?_⟩
    exact iff_of_false once'.not_mem_erase once.not_mem_erase
  | reaped i found before after member ending o dead named =>
    exact ⟨_, .reaped j found before after member ending o (zombies.trans dead) named,
      rfl, alive, result, rfl, wakes⟩
  | failed i found before after member ending dead nameless =>
    exact ⟨_, .failed j found before after member ending (zombies.trans dead) nameless,
      rfl, alive, rfl, rfl, wakes⟩
  | drained i found empty =>
    exact ⟨_, .drained j found (zombies.trans empty), rfl, alive, rfl, zombies, wakes⟩

/-- Without anything that was relayed the same deaths lead to the same place and result. -/
theorem exists_unrelayed (past : Past h l) (harmless : Harmless h) :
    ∃ k, Past (h.filter fun e => !e.relays) k ∧ l.Alike k := by
  induction past with
  | start => exact ⟨{}, .start, rfl, rfl, rfl, rfl, Iff.rfl⟩
  | @step h l l' e past taken ih =>
    obtain ⟨before, now⟩ := harmless_append.mp harmless
    obtain ⟨k, past', alike⟩ := ih before
    rw [List.filter_append]
    cases relays : e.relays with
    | true =>
      refine ⟨k, ?_, alike.skip taken relays now⟩
      simpa [relays] using past'
    | false =>
      obtain ⟨k', happens, alike'⟩ :=
        alike.happens (relayed past).once (relayed past').once taken relays
      refine ⟨k', ?_, alike'⟩
      simpa [relays] using past'.step happens

end Init

end NamespaceEntry
