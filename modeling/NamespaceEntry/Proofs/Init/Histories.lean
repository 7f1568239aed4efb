import NamespaceEntry.Proofs.Init.Interleavings

/-!
# Histories of an init

What happens to an init in the middle of its loop, and what it does, is written down in order. An
init that passes a signal on takes the answer of the system: that the command is gone is no
failure, and any other error ends the wait. From the history one can tell who has died, who has
been reaped and what has failed, and an init that is left to itself comes to rest.
-/

namespace NamespaceEntry.Init

inductive Happening where
  | sent (signal : Signal)
  | died (member : Member) (ending : Ending)
  | passed (signal : Signal) (answer : Except Errno Unit)
  | woken
  | reaped (member : Member) (ending : Ending)
  | drained

theorem refusal?_eq_none {answer : Except Errno Unit} :
    refusal? answer = none ↔ answer = .ok () ∨ answer = .error .noProcess := by
  rcases answer with errno | ⟨⟩
  · cases errno <;> simp [refusal?]
  · simp [refusal?]

/-- Passes a signal on, which may be refused. -/
def pass (i : Init) (signal : Signal) (answer : Except Errno Unit) : Init :=
  { i with
    pending := i.pending.erase signal
    forwarded := i.forwarded ++ [signal]
    result := (refusal? answer).map .error }

theorem pass_eq {i : Init} {signal : Signal} {answer : Except Errno Unit} (waits : i.result = none)
    (taken : refusal? answer = none) :
    i.pass signal answer = { i with
      pending := i.pending.erase signal, forwarded := i.forwarded ++ [signal] } := by
  rw [pass, taken, waits]
  rfl

/-- A signal that is not refused is taken as an event takes it. -/
theorem step_took_pass {i : Init} {signal : Signal} {answer : Except Errno Unit}
    (waits : i.result = none) (pending : signal ∈ i.pending) (other : signal ≠ .chld)
    (taken : refusal? answer = none) :
    i.step (.took signal) = some (i.pass signal answer) := by
  have free : (i.result.isNone && i.pending.contains signal) = true := by
    rw [waits, List.contains_iff_mem.mpr pending]
    rfl
  rw [step_took, if_pos free, handle, if_neg other, pass_eq waits taken]

/-- What a death changes about the command: it must have lived, and then it does not. -/
theorem commandAlive_ended {i j : Init} {member : Member} {ending : Ending}
    (death : i.step (.ended member ending) = some j) :
    (member = .command → i.commandAlive = true) ∧
      (j.commandAlive = false ↔ i.commandAlive = false ∨ member = .command) := by
  cases member with
  | command =>
    rw [step_commandDied] at death
    split at death
    · rename_i lives
      cases death
      unfold bury
      rw [commandAlive_raise]
      exact ⟨fun _ => lives, by simp⟩
    · cases death
  | orphan =>
    cases death
    unfold bury
    rw [commandAlive_raise]
    exact ⟨nofun, by simp⟩

namespace Happening

/-- What the init does by itself, when it can pass on every signal. -/
def Own : Happening → Prop
  | .sent _ | .died .. => False
  | .passed _ answer => refusal? answer = none
  | .woken | .reaped .. | .drained => True

def failure? : Happening → Option Errno
  | .passed _ answer => refusal? answer
  | .reaped _ ending => if ending.outcome? = none then some .invalidArgument else none
  | _ => none

end Happening

def Harmless (h : List Happening) : Prop :=
  ∀ signal answer, .passed signal answer ∈ h → answer = .ok () ∨ answer = .error .noProcess

def Named (h : List Happening) : Prop :=
  ∀ member ending, .died member ending ∈ h → ending.outcome? ≠ none

namespace Loop

variable {l k : Loop} {e : Happening} {h : List Happening}

inductive Happens : Loop → Happening → Loop → Prop where
  | sent {l : Loop} (signal : Signal) :
      Happens l (.sent signal) { l with init := l.init.raise signal }
  | died {l : Loop} (member : Member) (ending : Ending) (next : Init)
      (death : l.init.step (.ended member ending) = some next) :
      Happens l (.died member ending) { l with init := next }
  | passed (i : Init) (signal : Signal) (answer : Except Errno Unit) (waits : i.result = none)
      (pending : signal ∈ i.pending) (other : signal ≠ .chld) :
      Happens ⟨i, .waiting⟩ (.passed signal answer) ⟨i.pass signal answer, .waiting⟩
  | woken (i : Init) (waits : i.result = none) (pending : .chld ∈ i.pending) :
      Happens ⟨i, .waiting⟩ .woken ⟨{ i with pending := i.pending.erase .chld }, .reaping none⟩
  | reaped (i : Init) (found : Option Outcome) (before after : List (Member × Ending))
      (member : Member) (ending : Ending) (o : Outcome)
      (dead : i.zombies = before ++ (member, ending) :: after) (named : ending.outcome? = some o) :
      Happens ⟨i, .reaping found⟩ (.reaped member ending) ⟨{ i with zombies := before ++ after },
        .reaping (if member = .command then some o else found)⟩
  | failed (i : Init) (found : Option Outcome) (before after : List (Member × Ending))
      (member : Member) (ending : Ending)
      (dead : i.zombies = before ++ (member, ending) :: after) (nameless : ending.outcome? = none) :
      Happens ⟨i, .reaping found⟩ (.reaped member ending) ⟨{ i with
        zombies := before ++ after
        result := some (.error .invalidArgument) }, .waiting⟩
  | drained (i : Init) (found : Option Outcome) (empty : i.zombies = []) :
      Happens ⟨i, .reaping found⟩ .drained ⟨{ i with result := found.map .ok }, .waiting⟩

/-- The histories that lead to a loop, with the latest at the end. -/
inductive Past : List Happening → Loop → Prop where
  | start : Past [] {}
  | step {h : List Happening} {l k : Loop} {e : Happening} (past : Past h l)
      (taken : Happens l e k) : Past (h ++ [e]) k

/-! ### Histories and steps -/

theorem happens_of_own (step : Own l k) : ∃ e, e.Own ∧ Happens l e k := by
  cases step with
  | forwarded i signal waits pending other =>
    refine ⟨.passed signal (.ok ()), rfl, ?_⟩
    have same : i.pass signal (.ok ()) = _ := pass_eq waits rfl
    rw [← same]
    exact .passed i signal (.ok ()) waits pending other
  | woken i waits pending => exact ⟨.woken, trivial, .woken i waits pending⟩
  | reaped i found before after member ending o dead named =>
    exact ⟨.reaped member ending, trivial, .reaped i found before after member ending o dead named⟩
  | failed i found before after member ending dead nameless =>
    exact ⟨.reaped member ending, trivial, .failed i found before after member ending dead nameless⟩
  | done i found empty => exact ⟨.drained, trivial, .drained i found empty⟩

theorem step_of_happens (taken : Happens l e k)
    (harmless : ∀ signal answer, e = .passed signal answer → refusal? answer = none) :
    Step l k := by
  cases taken with
  | sent signal => exact .sent signal
  | died member ending next death => exact .died member ending next death
  | passed i signal answer waits pending other =>
    rw [pass_eq waits (harmless signal answer rfl)]
    exact .own (.forwarded i signal waits pending other)
  | woken i waits pending => exact .own (.woken i waits pending)
  | reaped i found before after member ending o dead named =>
    exact .own (.reaped i found before after member ending o dead named)
  | failed i found before after member ending dead nameless =>
    exact .own (.failed i found before after member ending dead nameless)
  | drained i found empty => exact .own (.done i found empty)

theorem harmless_append {more : List Happening} :
    Harmless (h ++ more) ↔ Harmless h ∧ Harmless more := by
  simp only [Harmless, List.mem_append]
  constructor
  · exact fun all => ⟨fun s a here => all s a (.inl here), fun s a here => all s a (.inr here)⟩
  · rintro ⟨first, second⟩ s a (here | here)
    · exact first s a here
    · exact second s a here

theorem Past.reachable (past : Past h l) (harmless : Harmless h) : Reachable l := by
  induction past with
  | start => exact .start
  | step _ taken ih =>
    obtain ⟨before, now⟩ := harmless_append.mp harmless
    refine (ih before).step (step_of_happens taken ?_)
    rintro signal answer rfl
    exact refusal?_eq_none.mpr (now signal answer List.mem_cons_self)

theorem harmless_of_own (own : e.Own) : Harmless [e] := by
  intro signal answer here
  rw [← List.mem_singleton.mp here] at own
  exact refusal?_eq_none.mp own

/-- The loops that take their steps are those with a history in which nothing was refused. -/
theorem reachable_iff : Reachable l ↔ ∃ h, Past h l ∧ Harmless h := by
  constructor
  · intro reached
    induction reached with
    | start => exact ⟨[], .start, by simp [Harmless]⟩
    | step _ taken ih =>
      obtain ⟨h, past, harmless⟩ := ih
      cases taken with
      | own step =>
        obtain ⟨e, own, happens⟩ := happens_of_own step
        exact ⟨_, past.step happens, harmless_append.mpr ⟨harmless, harmless_of_own own⟩⟩
      | sent signal =>
        refine ⟨_, past.step (.sent signal), harmless_append.mpr ⟨harmless, ?_⟩⟩
        simp [Harmless]
      | died member ending next death =>
        refine ⟨_, past.step (.died member ending next death), harmless_append.mpr ⟨harmless, ?_⟩⟩
        simp [Harmless]
  · rintro ⟨h, past, harmless⟩
    exact past.reachable harmless

/-! ### Left alone -/

/-- The loop has come by itself from a history to where it is. -/
structure Alone (h more : List Happening) (l : Loop) : Prop where
  own : ∀ e ∈ more, e.Own
  past : Past (h ++ more) l

namespace Alone

variable {more : List Happening}

theorem start (past : Past h l) : Alone h [] l := ⟨by simp, by simpa using past⟩

theorem step (a : Alone h more l) (step : Own l k) : ∃ e, Alone h (more ++ [e]) k := by
  obtain ⟨e, own, happens⟩ := happens_of_own step
  refine ⟨e, ?_, ?_⟩
  · rw [List.forall_mem_append]
    exact ⟨a.own, by simpa using own⟩
  · rw [← List.append_assoc]
    exact a.past.step happens

theorem steps (a : Alone h more l) (steps : Relation.ReflTransGen Own l k) :
    ∃ more, Alone h more k := by
  induction steps with
  | refl => exact ⟨more, a⟩
  | tail _ step ih =>
    obtain ⟨more, a⟩ := ih
    obtain ⟨e, a⟩ := a.step step
    exact ⟨_, a⟩

theorem mem_iff (a : Alone h more l) (other : ¬e.Own) : e ∈ h ++ more ↔ e ∈ h := by
  rw [List.mem_append, or_iff_left]
  exact fun here => other (a.own e here)

theorem harmless (a : Alone h more l) (harmless : Harmless h) : Harmless (h ++ more) := by
  refine harmless_append.mpr ⟨harmless, ?_⟩
  exact fun signal answer here => refusal?_eq_none.mp (a.own _ here)

theorem named (a : Alone h more l) (named : Named h) : Named (h ++ more) :=
  fun member ending died => named member ending ((a.mem_iff id).mp died)

end Alone

/-! ### The dead of a history -/

/-- What a history tells of the dead. The command dies once, and whoever has died is reaped or
waits to be. -/
structure Buried (h : List Happening) (l : Loop) : Prop where
  alive : l.init.commandAlive = false ↔ ∃ ending, .died .command ending ∈ h
  alone : ∀ one other, .died .command one ∈ h → .died .command other ∈ h → one = other
  accounted : ∀ member ending,
    .died member ending ∈ h ↔ (member, ending) ∈ l.init.zombies ∨ .reaped member ending ∈ h

theorem Buried.keep (b : Buried h l) (alive : k.init.commandAlive = l.init.commandAlive)
    (zombies : k.init.zombies = l.init.zombies) (died : ∀ member ending, e ≠ .died member ending)
    (reaped : ∀ member ending, e ≠ .reaped member ending) : Buried (h ++ [e]) k := by
  have dead : ∀ member ending, .died member ending ∈ h ++ [e] ↔ .died member ending ∈ h := by
    simp [(died _ _).symm]
  refine ⟨?_, ?_, ?_⟩
  · simp only [alive, dead, b.alive]
  · simpa only [dead] using b.alone
  · simp [dead, zombies, b.accounted, (reaped _ _).symm]

/-- Whoever is reaped was dead and does not wait to be reaped any more. -/
theorem Buried.reap {before after : List (Member × Ending)} {member : Member} {ending : Ending}
    (b : Buried h l) (dead : l.init.zombies = before ++ (member, ending) :: after)
    (alive : k.init.commandAlive = l.init.commandAlive) (left : k.init.zombies = before ++ after) :
    Buried (h ++ [.reaped member ending]) k := by
  refine ⟨by simpa [alive] using b.alive, by simpa using b.alone, ?_⟩
  intro other end_
  have accounted := b.accounted other end_
  simp only [dead, left, List.mem_append, List.mem_cons, Prod.mk.injEq, List.not_mem_nil,
    reduceCtorEq, or_false, Happening.reaped.injEq] at accounted ⊢
  grind

theorem Buried.happens (b : Buried h l) (taken : Happens l e k) : Buried (h ++ [e]) k := by
  cases taken with
  | sent signal => exact b.keep (commandAlive_raise ..) (zombies_raise ..) nofun nofun
  | died member ending next death =>
    obtain ⟨lives, gone⟩ := commandAlive_ended death
    obtain ⟨grown, -⟩ := step_ended death
    have first : member = .command → ∀ other, .died .command other ∉ h :=
      fun same other before => absurd (lives same) (by simp [b.alive.mpr ⟨other, before⟩])
    refine ⟨?_, ?_, ?_⟩
    · rw [gone, b.alive]
      cases member <;> simp
    · intro one other
      simp only [List.mem_append, List.mem_singleton, Happening.died.injEq]
      rintro (before | ⟨rfl, rfl⟩) (earlier | ⟨same, rfl⟩)
      · exact b.alone one other before earlier
      · exact absurd before (first same.symm one)
      · exact absurd earlier (first rfl other)
      · rfl
    · intro other end_
      simp only [grown, List.mem_append, List.mem_singleton, Happening.died.injEq, Prod.mk.injEq,
        reduceCtorEq, or_false, b.accounted]
      grind
  | passed | woken | drained => exact b.keep rfl rfl nofun nofun
  | reaped i found before after member ending o dead => exact b.reap dead rfl rfl
  | failed i found before after member ending dead => exact b.reap dead rfl rfl

theorem buried (past : Past h l) : Buried h l := by
  induction past with
  | start => exact ⟨by simp, nofun, by simp⟩
  | step _ taken ih => exact ih.happens taken

/-! ### The result of a history -/

def Ended (h : List Happening) (o : Outcome) : Prop :=
  ∃ ending, .died .command ending ∈ h ∧ ending.outcome? = some o

theorem Ended.append {o : Outcome} (ended : Ended h o) (e : Happening) : Ended (h ++ [e]) o := by
  obtain ⟨ending, died, named⟩ := ended
  exact ⟨ending, List.mem_append_left _ died, named⟩

/-- What a history tells of the result: an outcome is that of the command, and there is an error
just when something has failed. -/
structure Judged (h : List Happening) (l : Loop) : Prop where
  busy : ∀ found, l.place = .reaping found → l.init.result = none
  met : ∀ o, l.place = .reaping (some o) → Ended h o
  done : ∀ o, l.init.result = some (.ok o) → Ended h o
  failed : ∀ errno, l.init.result = some (.error errno) ↔ ∃ e ∈ h, e.failure? = some errno

/-- As long as there is no result, the next failure is the first one. -/
theorem Judged.fail (j : Judged h l) (waits : l.init.result = none) {errno : Errno} :
    e.failure? = some errno ↔ ∃ e' ∈ h ++ [e], e'.failure? = some errno := by
  have nothing : ∀ e' ∈ h, e'.failure? ≠ some errno := by
    intro e' before failure
    cases waits.symm.trans ((j.failed errno).mpr ⟨e', before, failure⟩)
  constructor
  · exact fun failure => ⟨e, List.mem_append_right _ List.mem_cons_self, failure⟩
  · rintro ⟨e', here, failure⟩
    rcases List.mem_append.mp here with before | now
    · exact absurd failure (nothing e' before)
    · exact List.mem_singleton.mp now ▸ failure

theorem Judged.keep (j : Judged h l) (result : k.init.result = l.init.result)
    (quiet : e.failure? = none) (busy : ∀ found, k.place = .reaping found → l.init.result = none)
    (met : ∀ o, k.place = .reaping (some o) → Ended (h ++ [e]) o) : Judged (h ++ [e]) k := by
  refine ⟨?_, met, ?_, ?_⟩ <;> rw [result]
  · exact busy
  · exact fun o result => (j.done o result).append _
  · intro errno
    rw [j.failed]
    simp [quiet]

theorem Judged.happens (j : Judged h l) (b : Buried h l) (taken : Happens l e k) :
    Judged (h ++ [e]) k := by
  cases taken with
  | sent signal =>
    exact j.keep (result_raise ..) rfl j.busy fun o here => (j.met o here).append _
  | died member ending next death =>
    obtain ⟨-, -, result, -⟩ := step_ended death
    exact j.keep result rfl j.busy fun o here => (j.met o here).append _
  | woken i waits pending => exact j.keep rfl rfl (fun _ _ => waits) nofun
  | reaped i found before after member ending o dead named =>
    refine j.keep rfl (by simp [Happening.failure?, named]) (fun _ _ => j.busy found rfl) ?_
    intro o' here
    by_cases last : member = .command
    · -- the command is among the dead, so its death is in the history
      rw [if_pos last] at here
      cases here
      have body : (member, ending) ∈ i.zombies := by
        rw [dead]
        exact List.mem_append_right _ List.mem_cons_self
      have ended : Ended h o := ⟨ending, last ▸ (b.accounted _ _).mpr (.inl body), named⟩
      exact ended.append _
    · rw [if_neg last] at here
      exact (j.met o' here).append _
  | passed i signal answer waits pending other =>
    refine ⟨nofun, nofun, ?_, ?_⟩
    · simp [pass]
    · intro errno
      rw [← j.fail waits]
      simp [pass, Happening.failure?]
  | failed i found before after member ending dead nameless =>
    refine ⟨nofun, nofun, nofun, ?_⟩
    intro errno
    rw [← j.fail (j.busy found rfl)]
    simp [Happening.failure?, nameless]
  | drained i found empty =>
    refine ⟨nofun, nofun, ?_, ?_⟩
    · intro o result
      obtain ⟨_, rfl, same⟩ := Option.map_eq_some_iff.mp result
      cases same
      exact (j.met o rfl).append _
    · intro errno
      rw [← j.fail (j.busy found rfl)]
      simp [Happening.failure?]

theorem judged (past : Past h l) : Judged h l := by
  induction past with
  | start => exact ⟨nofun, nofun, nofun, by simp⟩
  | step past taken ih => exact ih.happens (buried past) taken

/-- If no signal was refused, only the reaping of a process without an outcome fails. -/
theorem error_iff (past : Past h l) (harmless : Harmless h) {errno : Errno} :
    l.init.result = some (.error errno) ↔
      errno = .invalidArgument ∧ ∃ member ending, .reaped member ending ∈ h ∧
        ending.outcome? = none := by
  rw [(judged past).failed]
  constructor
  · rintro ⟨e, here, failure⟩
    cases e with
    | passed signal answer =>
      cases (refusal?_eq_none.mpr (harmless signal answer here)).symm.trans failure
    | reaped member ending =>
      simp only [Happening.failure?, Option.ite_none_right_eq_some, Option.some.injEq] at failure
      exact ⟨failure.2.symm, member, ending, here, failure.1⟩
    | _ => cases failure
  · rintro ⟨rfl, member, ending, here, nameless⟩
    exact ⟨_, here, if_pos nameless⟩

theorem ne_error_of_named (past : Past h l) (harmless : Harmless h) (named : Named h)
    (errno : Errno) : l.init.result ≠ some (.error errno) := by
  intro result
  obtain ⟨-, member, ending, here, nameless⟩ := (error_iff past harmless).mp result
  exact named member ending ((buried past).accounted member ending |>.mpr (.inr here)) nameless

theorem ended_unique (past : Past h l) {o : Outcome} {ending : Ending}
    (died : .died .command ending ∈ h) (named : ending.outcome? = some o) {o' : Outcome}
    (ended : Ended h o') : o' = o := by
  obtain ⟨other, died', named'⟩ := ended
  rw [(buried past).alone other ending died' died, named] at named'
  exact (Option.some.inj named').symm

theorem harmless_of_waits (past : Past h l) (waits : l.init.result = none) : Harmless h := by
  intro signal answer here
  rw [← refusal?_eq_none]
  cases refused : refusal? answer with
  | none => rfl
  | some errno =>
    cases waits.symm.trans (((judged past).failed errno).mpr ⟨_, here, refused⟩)

/-! ### Coming to rest -/

/-- By its own steps alone, whichever it takes, the loop comes to rest where `P` holds. -/
inductive Settles (P : Loop → Prop) : Loop → Prop where
  | intro {l : Loop} (rest : (∀ k, ¬Own l k) → P l) (later : ∀ k, Own l k → Settles P k) :
      Settles P l

/-- What holds after a history and is kept by the own steps of the loop holds where it rests. -/
theorem settles_of_past {P : Loop → Prop} (Inv : Loop → Prop) (past : Past h l) (holds : Inv l)
    (kept : ∀ more l k, Alone h more l → Inv l → Own l k → Inv k)
    (rest : ∀ more l, Alone h more l → Inv l → (∀ k, ¬Own l k) → P l) : Settles P l := by
  have settles : ∀ n more l, l.rank = n → Alone h more l → Inv l → Settles P l := by
    -- on the rank, which every step of the init lowers
    intro n
    induction n using Nat.strongRecOn with
    | ind n ih =>
      rintro more l rfl alone holds
      refine .intro (rest more l alone holds) ?_
      intro k step
      obtain ⟨e, longer⟩ := alone.step step
      exact ih k.rank (rank_lt_of_own step) _ k rfl longer (kept more l k alone holds step)
  exact settles _ [] l rfl (.start past) holds

/-- A loop that rests has a result, or it waits and nothing is pending. -/
theorem waiting_of_still (still : ∀ k, ¬Own l k) :
    l.place = .waiting ∧ (l.init.result = none → l.init.pending = []) := by
  have stuck : ¬(l.place ≠ .waiting ∨ l.init.result = none ∧ l.init.pending ≠ []) := by
    intro moves
    obtain ⟨k, step⟩ := exists_own moves
    exact still k step
  rw [not_or, not_and, Decidable.not_not] at stuck
  exact ⟨stuck.1, fun waits => Decidable.not_not.mp (stuck.2 waits)⟩

/-- A loop that rests without a result has nobody to reap, and its command lives. -/
theorem idle_of_still (reached : Reachable l) (still : ∀ k, ¬Own l k)
    (waits : l.init.result = none) : l.init.zombies = [] ∧ l.init.commandAlive = true := by
  obtain ⟨here, unwoken⟩ := waiting_of_still still
  exact idle_of_waiting reached here waits (by rw [unwoken waits]; exact nofun)

end Loop

end NamespaceEntry.Init
