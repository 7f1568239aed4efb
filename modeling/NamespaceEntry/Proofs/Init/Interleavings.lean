import Mathlib.Logic.Relation
import NamespaceEntry.Proofs.Init.Wakeups

/-!
# Reaping at once

An event of an init reaps all the dead at once. A loop that reaps them one by one, in any order
and with others dying meanwhile, gets to the same states: whoever dies during the reaping might as
well have died before it.
-/

namespace NamespaceEntry.Init

variable {i j k : Init} {l : Loop} {found : Option Outcome}

inductive Reachable : Init → Prop where
  | start : Reachable {}
  | step {i j : Init} (event : Event) (reached : Reachable i) (taken : i.step event = some j) :
      Reachable j

theorem Reachable.tended (reached : Reachable i) : ∃ death, i.Tended death fun _ => True := by
  induction reached with
  | start => exact ⟨none, tended_start _⟩
  | step event _ taken ih =>
    obtain ⟨death, tended⟩ := ih
    cases event with
    | sent signal => exact ⟨death, tended.sent taken⟩
    | took signal => exact ⟨death, tended.took taken⟩
    | ended member ending =>
      cases member with
      | orphan => exact ⟨death, tended.orphanDied trivial taken⟩
      | command =>
        cases death with
        | none => exact ⟨some ending, tended.commandDied taken⟩
        | some earlier =>
          rw [step_commandDied, tended.alive] at taken
          cases taken

/-- There is one command, so it dies in one way. -/
theorem Reachable.ending_unique (reached : Reachable i) {one other : Ending}
    (first : (.command, one) ∈ i.zombies) (second : (.command, other) ∈ i.zombies) :
    one = other := by
  obtain ⟨death, tended⟩ := reached.tended
  exact Option.some.inj ((tended.command one first).symm.trans (tended.command other second))

/-! ### From all at once to one by one -/

def noted : Except Errno (Option Outcome) → Option (Except Errno Outcome)
  | .ok found => found.map .ok
  | .error errno => some (.error errno)

theorem step_chld (waits : i.result = none) (wakes : .chld ∈ i.pending) :
    i.step (.took .chld) = some { i with
      pending := i.pending.erase .chld
      zombies := (drain none i.zombies).2
      result := noted (drain none i.zombies).1 } := by
  have free : (i.result.isNone && i.pending.contains .chld) = true := by
    rw [waits, List.contains_iff_mem.mpr wakes]
    rfl
  rw [step_took, if_pos free, handle, if_pos rfl, reap]
  obtain ⟨result, rest⟩ := drain none i.zombies
  rcases result with errno | _ | o <;> rfl

namespace Loop

theorem own_of_drain {zombies rest : List (Member × Ending)}
    {result : Except Errno (Option Outcome)} (drained : drain found zombies = (result, rest)) :
    Relation.ReflTransGen Own ⟨{ i with zombies }, .reaping found⟩
      ⟨{ i with zombies := rest, result := noted result }, .waiting⟩ := by
  induction zombies generalizing found with
  | nil =>
    cases drained
    exact .single (.done _ found rfl)
  | cons zombie zombies ih =>
    obtain ⟨member, ending⟩ := zombie
    unfold drain at drained
    cases named : ending.outcome? with
    | none =>
      rw [named] at drained
      cases drained
      exact .single (.failed _ found [] rest member ending rfl named)
    | some o =>
      rw [named] at drained
      exact .head (.reaped _ found [] zombies member ending o rfl named) (ih drained)

theorem own_of_took {signal : Signal} (taken : i.step (.took signal) = some j) :
    Relation.ReflTransGen Own ⟨i, .waiting⟩ ⟨j, .waiting⟩ := by
  have all := taken
  rw [step_took] at taken
  split at taken
  · rename_i free
    simp only [Bool.and_eq_true, Option.isNone_iff_eq_none, List.contains_iff_mem] at free
    obtain ⟨waits, pending⟩ := free
    by_cases wake : signal = .chld
    · subst wake
      rw [step_chld waits pending] at all
      cases all
      exact .head (.woken i waits pending)
        (own_of_drain (i := { i with pending := i.pending.erase .chld }) rfl)
    · rw [handle, if_neg wake] at taken
      cases taken
      exact .single (.forwarded i signal waits pending wake)
  · cases taken

theorem Reachable.own (reached : Loop.Reachable l) {k : Loop}
    (steps : Relation.ReflTransGen Own l k) : Loop.Reachable k := by
  induction steps with
  | refl => exact reached
  | tail _ step ih => exact ih.step (.own step)

/-- An init that reaps all at once is a loop in which nothing happens during the reaping. -/
theorem reachable_of_events (reached : Init.Reachable i) : Loop.Reachable ⟨i, .waiting⟩ := by
  induction reached with
  | start => exact .start
  | step event _ taken ih =>
    cases event with
    | sent signal =>
      cases taken
      exact ih.step (.sent signal)
    | ended member ending => exact ih.step (.died member ending _ taken)
    | took signal => exact ih.own (own_of_took taken)

end Loop

/-! ### From one by one to all at once -/

/-- Two inits that differ at most in the order of what is pending and, after a failure, in who is
left to be reaped. -/
structure Resembles (i j : Init) : Prop where
  alive : i.commandAlive = j.commandAlive
  forwarded : i.forwarded = j.forwarded
  result : i.result = j.result
  pending : ∀ s, s ∈ i.pending ↔ s ∈ j.pending
  zombies : (∀ errno, j.result ≠ some (.error errno)) → i.zombies = j.zombies

/-- An init that is still to reap while `j` has already reaped some, its command with the outcome
`found`. -/
structure Behind (i j : Init) (found : Option Outcome) (gone : List (Member × Ending)) :
    Prop where
  alive : i.commandAlive = j.commandAlive
  forwarded : i.forwarded = j.forwarded
  waits : i.result = none
  wakes : .chld ∈ i.pending
  pending : ∀ s, s ≠ .chld → (s ∈ i.pending ↔ s ∈ j.pending)
  zombies : i.zombies.Perm (gone ++ j.zombies)
  named : ∀ member ending, (member, ending) ∈ gone → ending.outcome? ≠ none
  met : ∀ o, found = some o ↔ ∃ ending, (.command, ending) ∈ gone ∧ ending.outcome? = some o

/-- How an init that reaps at once follows a loop. -/
def Follows (i : Init) (l : Loop) : Prop :=
  match l.place with
  | .waiting => i.Resembles l.init
  | .reaping found => ∃ gone, i.Behind l.init found gone

theorem exists_ended (alive : i.commandAlive = j.commandAlive) {member : Member} {ending : Ending}
    {next : Init} (death : j.step (.ended member ending) = some next) :
    ∃ k, i.step (.ended member ending) = some k ∧ k.commandAlive = next.commandAlive := by
  cases member with
  | orphan =>
    cases death
    refine ⟨_, rfl, ?_⟩
    unfold bury
    rw [commandAlive_raise, commandAlive_raise]
    exact alive
  | command =>
    rw [step_commandDied] at death ⊢
    split at death
    · rename_i lives
      cases death
      refine ⟨_, if_pos (alive.trans lives), ?_⟩
      unfold bury
      rw [commandAlive_raise, commandAlive_raise]
    · cases death

theorem Resembles.raise (r : i.Resembles j) (signal : Signal) :
    (i.raise signal).Resembles (j.raise signal) where
  alive := by rw [commandAlive_raise, commandAlive_raise, r.alive]
  forwarded := by rw [forwarded_raise, forwarded_raise, r.forwarded]
  result := by rw [result_raise, result_raise, r.result]
  pending s := by rw [mem_pending_raise, mem_pending_raise, r.pending]
  zombies well := by
    rw [result_raise] at well
    rw [zombies_raise, zombies_raise, r.zombies well]

theorem Resembles.ended (r : i.Resembles j) {member : Member} {ending : Ending} {i' j' : Init}
    (first : i.step (.ended member ending) = some i')
    (second : j.step (.ended member ending) = some j') (alive : i'.commandAlive = j'.commandAlive) :
    i'.Resembles j' := by
  obtain ⟨buried, -, result, forwarded, pending, -, -⟩ := step_ended first
  obtain ⟨buried', -, result', forwarded', pending', -, -⟩ := step_ended second
  refine ⟨alive, ?_, ?_, ?_, ?_⟩
  · rw [forwarded, forwarded', r.forwarded]
  · rw [result, result', r.result]
  · intro s
    rw [pending, pending', r.pending]
  · rw [buried, buried', result']
    exact fun well => by rw [r.zombies well]

theorem Behind.raise {gone : List (Member × Ending)} (b : i.Behind j found gone) (signal : Signal) :
    (i.raise signal).Behind (j.raise signal) found gone where
  alive := by rw [commandAlive_raise, commandAlive_raise, b.alive]
  forwarded := by rw [forwarded_raise, forwarded_raise, b.forwarded]
  waits := by rw [result_raise, b.waits]
  wakes := pending_raise b.wakes
  pending s other := by rw [mem_pending_raise, mem_pending_raise, b.pending s other]
  zombies := by
    rw [zombies_raise, zombies_raise]
    exact b.zombies
  named := b.named
  met := b.met

theorem Behind.ended {gone : List (Member × Ending)} (b : i.Behind j found gone) {member : Member}
    {ending : Ending} {i' j' : Init} (first : i.step (.ended member ending) = some i')
    (second : j.step (.ended member ending) = some j') (alive : i'.commandAlive = j'.commandAlive) :
    i'.Behind j' found gone := by
  obtain ⟨buried, chld, result, forwarded, pending, -, -⟩ := step_ended first
  obtain ⟨buried', -, -, forwarded', pending', -, -⟩ := step_ended second
  refine ⟨alive, ?_, result.trans b.waits, chld, ?_, ?_, b.named, b.met⟩
  · rw [forwarded, forwarded', b.forwarded]
  · intro s other
    rw [pending, pending', b.pending s other]
  · rw [buried, buried', ← List.append_assoc]
    exact b.zombies.append_right _

/-- A wakeup that came during the reaping is sent to the other init after it. -/
theorem Resembles.catch_up (reached : Reachable k) (alive : k.commandAlive = j.commandAlive)
    (forwarded : k.forwarded = j.forwarded) (result : k.result = j.result)
    (pending : ∀ s, s ≠ .chld → (s ∈ k.pending ↔ s ∈ j.pending)) (unwoken : .chld ∉ k.pending)
    (zombies : (∀ errno, j.result ≠ some (.error errno)) → k.zombies = j.zombies) :
    ∃ i, Reachable i ∧ i.Resembles j := by
  by_cases wake : .chld ∈ j.pending
  · refine ⟨k.raise .chld, reached.step (.sent .chld) rfl, ?_, ?_, ?_, ?_, ?_⟩
    · rw [commandAlive_raise, alive]
    · rw [forwarded_raise, forwarded]
    · rw [result_raise, result]
    · intro s
      rw [mem_pending_raise]
      by_cases same : s = .chld
      · subst same
        exact ⟨fun _ => wake, fun _ => Or.inr ⟨rfl, rfl⟩⟩
      · rw [pending s same]
        exact ⟨fun known => known.resolve_right fun new => same new.1, Or.inl⟩
    · rw [zombies_raise]
      exact zombies
  · refine ⟨k, reached, alive, forwarded, result, ?_, zombies⟩
    intro s
    by_cases same : s = .chld
    · subst same
      exact ⟨fun known => absurd known unwoken, fun known => absurd known wake⟩
    · exact pending s same

theorem named_of_drain_ok {known found : Option Outcome} {zombies rest : List (Member × Ending)}
    (drained : drain known zombies = (.ok found, rest)) {member : Member} {ending : Ending}
    (dead : (member, ending) ∈ zombies) : ending.outcome? ≠ none := by
  induction zombies generalizing known with
  | nil => cases dead
  | cons zombie zombies ih =>
    obtain ⟨first, end_⟩ := zombie
    unfold drain at drained
    cases named : end_.outcome? with
    | none => simp [named] at drained
    | some o =>
      rw [named] at drained
      rcases List.mem_cons.mp dead with same | later
      · rw [(Prod.mk.inj same).2, named]
        exact Option.some_ne_none o
      · exact ih drained later

theorem Behind.reap {gone rest : List (Member × Ending)} (b : i.Behind j found gone) {zombie :
    Member × Ending} {o : Outcome} (reached : Reachable i)
    (dead : j.zombies.Perm (zombie :: rest)) (named : zombie.2.outcome? = some o) :
    i.Behind { j with zombies := rest } (if zombie.1 = .command then some o else found)
      (zombie :: gone) := by
  obtain ⟨member, ending⟩ := zombie
  have shift : i.zombies.Perm ((member, ending) :: gone ++ rest) :=
    b.zombies.trans ((dead.append_left gone).trans List.perm_middle)
  refine ⟨b.alive, b.forwarded, b.waits, b.wakes, b.pending, shift, ?_, ?_⟩
  · intro other end_ body
    rcases List.mem_cons.mp body with same | before
    · rw [(Prod.mk.inj same).2, named]
      exact nofun
    · exact b.named other end_ before
  · intro p
    cases member with
    | orphan =>
      rw [if_neg nofun, b.met]
      simp
    | command =>
      have alone : ∀ {other}, (.command, other) ∈ (.command, ending) :: gone → other = ending := by
        intro other body
        apply reached.ending_unique
        · exact shift.mem_iff.mpr (List.mem_append_left _ body)
        · exact shift.mem_iff.mpr (List.mem_append_left _ List.mem_cons_self)
      rw [if_pos rfl]
      constructor
      · rintro ⟨⟩
        exact ⟨ending, List.mem_cons_self, named⟩
      · rintro ⟨other, body, said⟩
        rw [alone body, named] at said
        exact said

/-- When all are reaped, reaping at once finds the same outcome. -/
theorem Behind.drain_eq {gone : List (Member × Ending)} (b : i.Behind j found gone)
    (empty : j.zombies = []) : drain none i.zombies = (.ok found, []) := by
  have all : i.zombies.Perm gone := by
    have zombies := b.zombies
    rwa [empty, List.append_nil] at zombies
  rcases drained : drain none i.zombies with ⟨result, rest⟩
  cases result with
  | error errno =>
    obtain ⟨-, member, ending, dead, nameless⟩ := drain_error drained
    exact absurd nameless (b.named member ending (all.mem_iff.mp dead))
  | ok met =>
    obtain ⟨rfl, ⟨rfl, absent⟩ | ⟨ending, o, dead, named, rfl⟩⟩ := drain_ok drained
    · cases found with
      | none => rfl
      | some o =>
        obtain ⟨ending, body, -⟩ := (b.met o).mp rfl
        exact absurd (all.mem_iff.mpr body) (absent ending)
    · rw [(b.met o).mpr ⟨ending, all.mem_iff.mp dead, named⟩]

theorem Behind.drain_failed {gone : List (Member × Ending)} (b : i.Behind j found gone)
    {member : Member} {ending : Ending} (dead : (member, ending) ∈ j.zombies)
    (nameless : ending.outcome? = none) :
    (drain none i.zombies).1 = .error .invalidArgument := by
  rcases drained : drain none i.zombies with ⟨result, rest⟩
  cases result with
  | error errno => rw [(drain_error drained).1]
  | ok met =>
    have body := b.zombies.mem_iff.mpr (List.mem_append_right gone dead)
    exact absurd nameless (named_of_drain_ok drained body)

theorem Behind.meet {gone : List (Member × Ending)} (b : i.Behind j found gone)
    (reached : Reachable i) (once : i.pending.Nodup) (next : Init)
    (alive : next.commandAlive = j.commandAlive) (forwarded : next.forwarded = j.forwarded)
    (pending : next.pending = j.pending) (result : next.result = noted (drain none i.zombies).1)
    (zombies : (∀ errno, next.result ≠ some (.error errno)) →
      (drain none i.zombies).2 = next.zombies) :
    ∃ k, Reachable k ∧ k.Resembles next := by
  have taken := step_chld b.waits b.wakes
  refine Resembles.catch_up (reached.step (.took .chld) taken) ?_ ?_ result.symm ?_ ?_ zombies
  · exact b.alive.trans alive.symm
  · exact b.forwarded.trans forwarded.symm
  · intro s other
    rw [pending, ← b.pending s other]
    exact List.mem_erase_of_ne other
  · exact once.not_mem_erase

/-! ### Following a loop -/

theorem Resembles.forward (r : i.Resembles j) (once : i.pending.Nodup) (once' : j.pending.Nodup)
    (waits : j.result = none) {signal : Signal} (pending : signal ∈ j.pending)
    (other : signal ≠ .chld) :
    ∃ k, i.step (.took signal) = some k ∧ k.Resembles { j with
      pending := j.pending.erase signal, forwarded := j.forwarded ++ [signal] } := by
  have free : (i.result.isNone && i.pending.contains signal) = true := by
    rw [r.result, waits, List.contains_iff_mem.mpr ((r.pending _).mpr pending)]
    rfl
  have taken : i.step (.took signal) = some { i with
      pending := i.pending.erase signal, forwarded := i.forwarded ++ [signal] } := by
    rw [step_took, if_pos free, handle, if_neg other]
  refine ⟨_, taken, r.alive, ?_, r.result, ?_, r.zombies⟩
  · simp only [r.forwarded]
  · intro s
    by_cases same : s = signal
    · subst same
      exact iff_of_false once.not_mem_erase once'.not_mem_erase
    · rw [List.mem_erase_of_ne same, List.mem_erase_of_ne same, r.pending]

/-- The other init does not reap before the loop has reaped everybody. -/
theorem Resembles.behind (r : i.Resembles j) (waits : j.result = none)
    (wakes : .chld ∈ j.pending) :
    i.Behind { j with pending := j.pending.erase .chld } none [] := by
  refine ⟨r.alive, r.forwarded, r.result.trans waits, (r.pending _).mpr wakes, ?_, ?_, nofun, ?_⟩
  · intro s other
    rw [r.pending]
    exact (List.mem_erase_of_ne other).symm
  · rw [r.zombies (by rw [waits]; exact nofun)]
    exact .refl _
  · simp

theorem Follows.sent (f : i.Follows l) (signal : Signal) :
    (i.raise signal).Follows { l with init := l.init.raise signal } := by
  obtain ⟨j, place⟩ := l
  cases place with
  | waiting => exact Resembles.raise f signal
  | reaping found =>
    obtain ⟨gone, behind⟩ : ∃ gone, i.Behind j found gone := f
    exact ⟨gone, behind.raise signal⟩

theorem Follows.died (f : i.Follows l) {member : Member} {ending : Ending}
    (death : l.init.step (.ended member ending) = some j) :
    ∃ k, i.step (.ended member ending) = some k ∧ k.Follows { l with init := j } := by
  obtain ⟨init, place⟩ := l
  cases place with
  | waiting =>
    have resembles : i.Resembles init := f
    obtain ⟨k, died, alive⟩ := exists_ended resembles.alive death
    exact ⟨k, died, resembles.ended died death alive⟩
  | reaping found =>
    obtain ⟨gone, behind⟩ : ∃ gone, i.Behind init found gone := f
    obtain ⟨k, died, alive⟩ := exists_ended behind.alive death
    exact ⟨k, died, gone, behind.ended died death alive⟩

theorem Follows.own {l l' : Loop} (f : i.Follows l) (known : Reachable i)
    (reached : Loop.Reachable l) (step : l.Own l') : ∃ k, Reachable k ∧ k.Follows l' := by
  have once := (Loop.watchful (Loop.reachable_of_events known)).once
  cases step with
  | forwarded j signal waits pending other =>
    have resembles : i.Resembles j := f
    obtain ⟨k, taken, same⟩ :=
      resembles.forward once (Loop.watchful reached).once waits pending other
    exact ⟨k, known.step _ taken, same⟩
  | woken j waits pending =>
    have resembles : i.Resembles j := f
    exact ⟨i, known, [], resembles.behind waits pending⟩
  | reaped j found before after member ending o dead named =>
    obtain ⟨gone, behind⟩ : ∃ gone, i.Behind j found gone := f
    exact ⟨i, known, _, behind.reap known (dead ▸ List.perm_middle) named⟩
  | failed j found before after member ending dead nameless =>
    obtain ⟨gone, behind⟩ : ∃ gone, i.Behind j found gone := f
    have body : (member, ending) ∈ j.zombies := by
      rw [dead]
      exact List.mem_append_right _ List.mem_cons_self
    have failed := behind.drain_failed body nameless
    refine behind.meet known once _ rfl rfl rfl ?_ ?_
    · rw [failed]; rfl
    · exact fun well => absurd rfl (well _)
  | done j found empty =>
    obtain ⟨gone, behind⟩ : ∃ gone, i.Behind j found gone := f
    have drained := behind.drain_eq empty
    refine behind.meet known once _ rfl rfl rfl ?_ ?_
    · rw [drained]; rfl
    · exact fun _ => by rw [drained, empty]

/-- Whatever happens to a loop and in whatever order it reaps, some events lead an init that reaps
at once to the same state. -/
theorem follows (reached : Loop.Reachable l) : ∃ i, Reachable i ∧ i.Follows l := by
  induction reached with
  | start => exact ⟨{}, .start, rfl, rfl, rfl, fun _ => Iff.rfl, fun _ => rfl⟩
  | step reached taken ih =>
    obtain ⟨i, known, follows⟩ := ih
    cases taken with
    | sent signal => exact ⟨_, known.step (.sent signal) rfl, follows.sent signal⟩
    | died member ending next death =>
      obtain ⟨k, died, still⟩ := follows.died death
      exact ⟨k, known.step _ died, still⟩
    | own step => exact follows.own known reached step

/-! ### No wakeup is lost -/

/-- The init of a run is one to which events happened. -/
theorem reachable_of_supervising {w : Run.Setting} {s : Run.State} (reached : Run.Reachable w s)
    {command : Child.CommandPhase} {orphans : List Ending}
    (here : s.phase = .supervising i command orphans) : Reachable i := by
  refine Run.phase_induction (P := fun phase => ∀ i command orphans,
    phase = .supervising i command orphans → Reachable i) ?_ ?_ ?_ ?_ reached i _ _ here
  · intro _ _ _ there
    cases there
  · intro _ _ _ _ there
    cases there
  · intro _ _ _ _ _ _ _ there
    cases there
  intro s t before move i command orphans there
  cases move with
  | forked => cases there; exact .start
  | took init _ _ signal next here waits first taken =>
    have said : next = i := by
      by_cases wake : signal = .chld <;> simp only [wake, if_true, if_false] at there <;>
        cases there <;> rfl
    exact said ▸ (before init _ _ here).step _ taken
  | executedBelow init _ program here => cases there; exact before _ _ _ here
  | unexecutedBelow init _ errno next here failed ended
  | unrestored init _ errno next here failed ended =>
    cases there
    exact (before init _ _ here).step _ ended
  | signalled init signal script ending _ next here sent =>
    cases there
    exact (before init _ _ here).step _ sent
  | orphaned init _ _ _ _ here => cases there; exact before _ _ _ here
  | awaited init _ _ _ _ here => cases there; exact before _ _ _ here
  | commandEndedBelow init ending _ next here ended =>
    cases there
    exact (before init _ _ here).step _ ended
  | orphanEnded init _ _ index ending next here found ended =>
    cases there
    exact (before init _ _ here).step _ ended
  | released =>
    simp only [Child.State.goto] at there
    split at there <;> cases there
  | _ => cases there

theorem not_ended_of_commandAlive {w : Run.Setting} {s : Run.State} (reached : Run.Reachable w s)
    {command : Child.CommandPhase} {orphans : List Ending}
    (here : s.phase = .supervising i command orphans) (alive : i.commandAlive = true) :
    command ≠ .ended := by
  have tended := Run.tended reached
  rw [here] at tended
  rintro rfl
  cases alive.symm.trans tended.1.alive

/-- An init that cannot go on waits for a signal, and none is pending. -/
theorem unwoken_of_blocked {w : Child.Setting} {s : Child.State} {command : Child.CommandPhase}
    {orphans : List Ending} (blocked : Child.superviseStep? w s i command orphans = none) :
    i.result = none ∧ .chld ∉ i.pending := by
  unfold Child.superviseStep? at blocked
  split at blocked
  · cases blocked
  · cases blocked
  · rename_i waits
    refine ⟨waits, ?_⟩
    intro pending
    obtain ⟨signal, next, first, taken⟩ := exists_took waits pending
    split at blocked
    · cases blocked
    · rw [first] at blocked
      simp only [Option.bind_eq_bind, Option.bind_some, taken] at blocked
      cases blocked

/-- However deaths and signals fall between the steps of an init that reaps one by one, it never
waits without a wakeup while anyone is left to be reaped or its command is dead, and once the
command is dead it gets to a result by itself. An init that reaps at once gets to the same states,
and the init of every run is such an init. -/
theorem no_wakeup_lost :
    (∀ l, Loop.Reachable l →
      (l.place = .waiting → l.init.result = none → .chld ∉ l.init.pending →
        l.init.zombies = [] ∧ l.init.commandAlive = true) ∧
      (l.init.commandAlive = false → l.Concludes)) ∧
    (∀ i, Reachable i → Loop.Reachable ⟨i, .waiting⟩) ∧
    (∀ l, Loop.Reachable l → ∃ i, Reachable i ∧ i.Follows l) ∧
    (∀ (w : Run.Setting) (s : Run.State) (i : Init) (command : Child.CommandPhase)
      (orphans : List Ending), Run.Reachable w s → s.phase = .supervising i command orphans →
      Reachable i ∧
      (i.result = none → .chld ∉ i.pending → i.zombies = [] ∧ command ≠ .ended) ∧
      (Child.superviseStep? w.toSetting s.toState i command orphans = none →
        i.zombies = [] ∧ command ≠ .ended)) := by
  refine ⟨?_, fun i => Loop.reachable_of_events, fun l => follows, ?_⟩
  · intro l reached
    exact ⟨Loop.idle_of_waiting reached, Loop.concludes_of_dead reached⟩
  · intro w s i command orphans reached here
    have events := reachable_of_supervising reached here
    have idle : i.result = none → .chld ∉ i.pending → i.zombies = [] ∧ command ≠ .ended := by
      intro waits unwoken
      obtain ⟨nobody, alive⟩ :=
        Loop.idle_of_waiting (Loop.reachable_of_events events) rfl waits unwoken
      exact ⟨nobody, not_ended_of_commandAlive reached here alive⟩
    refine ⟨events, idle, ?_⟩
    intro blocked
    obtain ⟨waits, unwoken⟩ := unwoken_of_blocked blocked
    exact idle waits unwoken

def interrupted : Loop :=
  ⟨{ pending := [.chld], zombies := [(.command, .exited 3)], commandAlive := false },
    .reaping none⟩

theorem no_wakeup_lost_interrupted : Loop.Reachable interrupted ∧ interrupted.Concludes := by
  have reached : Loop.Reachable interrupted := by
    refine ((((Loop.Reachable.start.step (.died .orphan (.exited 0) _ rfl)).step
      (.own (.woken _ rfl List.mem_cons_self))).step
      (.own (.reaped _ none [] [] .orphan (.exited 0) (.exited 0) rfl rfl))).step
      (.died .command (.exited 3) _ rfl))
  exact ⟨reached, (no_wakeup_lost.1 interrupted reached).2 rfl⟩

end NamespaceEntry.Init
