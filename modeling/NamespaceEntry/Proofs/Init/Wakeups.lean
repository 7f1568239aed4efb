import NamespaceEntry.Proofs.Init.Reaping

/-!
# Waking up

Between two waits an init reaps one dead process at a time, and others can die meanwhile. `Loop`
is an init in the middle of this. A death raises `SIGCHLD`, also during the reaping, so an init
that goes back to wait either has reaped everybody or is woken at once.
-/

namespace NamespaceEntry.Init

variable {i j : Init}

/-! ### Signals and deaths -/

theorem forwarded_raise (i : Init) (signal : Signal) : (i.raise signal).forwarded = i.forwarded := by
  unfold raise
  split <;> rfl

theorem mem_pending_raise {s signal : Signal} :
    s ∈ (i.raise signal).pending ↔ s ∈ i.pending ∨ s = signal ∧ watched signal = true := by
  unfold raise
  by_cases new : (watched signal && !i.pending.contains signal) = true
  · rw [if_pos new, List.mem_append, List.mem_singleton]
    rw [Bool.and_eq_true] at new
    simp [new.1]
  · rw [if_neg new]
    constructor
    · exact Or.inl
    · rintro (known | ⟨rfl, watches⟩)
      · exact known
      · simpa [watches] using new

theorem nodup_raise (signal : Signal) (once : i.pending.Nodup) : (i.raise signal).pending.Nodup := by
  unfold raise
  split
  · rename_i new
    have absent : signal ∉ i.pending := by
      rw [Bool.and_eq_true] at new
      simpa using new.2
    rw [List.nodup_append]
    refine ⟨once, List.pairwise_singleton _ _, ?_⟩
    intro s member t last same
    rw [List.mem_singleton.mp last] at same
    exact absent (same ▸ member)
  · exact once

theorem step_ended {member : Member} {ending : Ending}
    (death : i.step (.ended member ending) = some j) :
    j.zombies = i.zombies ++ [(member, ending)] ∧ .chld ∈ j.pending ∧ j.result = i.result ∧
      j.forwarded = i.forwarded ∧ (∀ s, s ∈ j.pending ↔ s ∈ i.pending ∨ s = .chld) ∧
      (i.pending.Nodup → j.pending.Nodup) ∧
      (j.commandAlive = false → i.commandAlive = false ∨ member = .command) := by
  have raised : ∀ k : Init, k.pending = i.pending → (∀ s, s ∈ (k.raise .chld).pending ↔
      s ∈ i.pending ∨ s = .chld) ∧ (i.pending.Nodup → (k.raise .chld).pending.Nodup) := by
    intro k same
    refine ⟨fun s => ?_, fun once => nodup_raise _ (same ▸ once)⟩
    rw [mem_pending_raise, same]
    simp [watched]
  cases member with
  | command =>
    rw [step_commandDied] at death
    split at death
    · cases death
      unfold bury
      obtain ⟨grown, kept⟩ := raised { i with
        commandAlive := false, zombies := i.zombies ++ [(.command, ending)] } rfl
      refine ⟨zombies_raise .., chld_raise _, result_raise .., forwarded_raise .., grown, kept, ?_⟩
      exact fun _ => Or.inr rfl
    · cases death
  | orphan =>
    cases death
    unfold bury
    obtain ⟨grown, kept⟩ := raised { i with zombies := i.zombies ++ [(.orphan, ending)] } rfl
    refine ⟨zombies_raise .., chld_raise _, result_raise .., forwarded_raise .., grown, kept, ?_⟩
    rw [commandAlive_raise]
    exact Or.inl

/-! ### The loop -/

/-- Where an init is in its loop. One that is reaping may have met its command. -/
inductive Place where
  | waiting
  | reaping (found : Option Outcome)
  deriving DecidableEq, Repr

/-- An init in the middle of its loop. -/
structure Loop where
  init : Init := {}
  place : Place := .waiting

namespace Loop

/-- The steps of the init itself. It takes any signal that is pending, and any process that has
died may be the next to be reaped. -/
inductive Own : Loop → Loop → Prop where
  | forwarded (i : Init) (signal : Signal) (waits : i.result = none)
      (pending : signal ∈ i.pending) (other : signal ≠ .chld) :
      Own ⟨i, .waiting⟩ ⟨{ i with
        pending := i.pending.erase signal
        forwarded := i.forwarded ++ [signal] }, .waiting⟩
  | woken (i : Init) (waits : i.result = none) (pending : .chld ∈ i.pending) :
      Own ⟨i, .waiting⟩ ⟨{ i with pending := i.pending.erase .chld }, .reaping none⟩
  | reaped (i : Init) (found : Option Outcome) (before after : List (Member × Ending))
      (member : Member) (ending : Ending) (o : Outcome)
      (dead : i.zombies = before ++ (member, ending) :: after) (named : ending.outcome? = some o) :
      Own ⟨i, .reaping found⟩ ⟨{ i with zombies := before ++ after },
        .reaping (if member = .command then some o else found)⟩
  | failed (i : Init) (found : Option Outcome) (before after : List (Member × Ending))
      (member : Member) (ending : Ending)
      (dead : i.zombies = before ++ (member, ending) :: after) (nameless : ending.outcome? = none) :
      Own ⟨i, .reaping found⟩ ⟨{ i with
        zombies := before ++ after
        result := some (.error .invalidArgument) }, .waiting⟩
  | done (i : Init) (found : Option Outcome) (empty : i.zombies = []) :
      Own ⟨i, .reaping found⟩ ⟨{ i with result := found.map .ok }, .waiting⟩

/-- A step of the init, or something that happens to it wherever it is: a signal is sent, or a
process below it dies. -/
inductive Step : Loop → Loop → Prop where
  | own {l k : Loop} (step : Own l k) : Step l k
  | sent {l : Loop} (signal : Signal) : Step l { l with init := l.init.raise signal }
  | died {l : Loop} (member : Member) (ending : Ending) (next : Init)
      (death : l.init.step (.ended member ending) = some next) : Step l { l with init := next }

inductive Reachable : Loop → Prop where
  | start : Reachable {}
  | step {l k : Loop} (reached : Reachable l) (taken : Step l k) : Reachable k

variable {l k : Loop}

/-! ### The invariant -/

/-- What ties the pending signals, the dead and the place in the loop together. -/
structure Watchful (l : Loop) : Prop where
  once : l.init.pending.Nodup
  wakes : l.place = .waiting → l.init.result = none → l.init.zombies ≠ [] → .chld ∈ l.init.pending
  busy : ∀ found, l.place = .reaping found → l.init.result = none
  kept : l.init.commandAlive = false → l.init.result = none →
    (∃ ending, (.command, ending) ∈ l.init.zombies) ∨ ∃ o, l.place = .reaping (some o)

theorem Watchful.own (w : Watchful l) (step : Own l k) : Watchful k := by
  obtain ⟨once, wakes, busy, kept⟩ := w
  cases step with
  | forwarded i signal waits pending other =>
    refine ⟨once.erase _, ?_, nofun, kept⟩
    intro _ _ dead
    exact (List.mem_erase_of_ne (Ne.symm other)).mpr (wakes rfl waits dead)
  | woken i waits pending =>
    refine ⟨once.erase _, nofun, fun _ _ => waits, ?_⟩
    intro gone _
    rcases kept gone waits with dead | ⟨o, ⟨⟩⟩
    exact Or.inl dead
  | reaped i found before after member ending o dead named =>
    refine ⟨once, nofun, fun _ _ => busy found rfl, ?_⟩
    intro gone waits
    by_cases last : member = .command
    · exact Or.inr ⟨o, by rw [if_pos last]⟩
    · rw [if_neg last]
      rcases kept gone waits with ⟨other, body⟩ | met
      · rw [dead, List.mem_append, List.mem_cons] at body
        refine Or.inl ⟨other, List.mem_append.mpr ?_⟩
        rcases body with first | same | later
        · exact Or.inl first
        · exact absurd (congrArg Prod.fst same).symm last
        · exact Or.inr later
      · exact Or.inr met
  | failed => exact ⟨once, nofun, nofun, nofun⟩
  | done i found empty =>
    refine ⟨once, fun _ _ dead => absurd empty dead, nofun, ?_⟩
    intro gone unknown
    have none : found = none := by simpa using unknown
    rcases kept gone (busy found rfl) with ⟨ending, body⟩ | ⟨o, met⟩
    · rw [empty] at body
      cases body
    · rw [none] at met
      cases met

theorem Watchful.step (w : Watchful l) (step : Step l k) : Watchful k := by
  cases step with
  | own step => exact w.own step
  | sent signal =>
    obtain ⟨once, wakes, busy, kept⟩ := w
    refine ⟨nodup_raise _ once, ?_, ?_, ?_⟩ <;>
      simp only [zombies_raise, result_raise, commandAlive_raise]
    · exact fun here waits dead => pending_raise (wakes here waits dead)
    · exact busy
    · exact kept
  | died member ending next death =>
    obtain ⟨once, -, busy, kept⟩ := w
    obtain ⟨zombies, chld, result, -, -, nodup, alive⟩ := step_ended death
    refine ⟨nodup once, fun _ _ _ => chld, ?_, ?_⟩
    · intro found here
      exact result.trans (busy found here)
    · intro gone waits
      rw [zombies]
      rcases alive gone with before | rfl
      · rcases kept before (result.symm.trans waits) with ⟨other, body⟩ | met
        · exact Or.inl ⟨other, List.mem_append_left _ body⟩
        · exact Or.inr met
      · exact Or.inl ⟨ending, List.mem_append_right _ List.mem_cons_self⟩

theorem watchful (reached : Reachable l) : Watchful l := by
  induction reached with
  | start => exact ⟨List.nodup_nil, nofun, nofun, nofun⟩
  | step _ taken ih => exact ih.step taken

/-- An init that waits without a wakeup pending has nobody to reap, and its command lives. -/
theorem idle_of_waiting (reached : Reachable l) (here : l.place = .waiting)
    (waits : l.init.result = none) (unwoken : .chld ∉ l.init.pending) :
    l.init.zombies = [] ∧ l.init.commandAlive = true := by
  obtain ⟨-, wakes, -, kept⟩ := watchful reached
  have nobody : l.init.zombies = [] := by
    apply Classical.byContradiction
    exact fun dead => unwoken (wakes here waits dead)
  refine ⟨nobody, ?_⟩
  cases alive : l.init.commandAlive with
  | true => rfl
  | false =>
    rcases kept alive waits with ⟨ending, body⟩ | ⟨o, met⟩
    · rw [nobody] at body
      cases body
    · rw [here] at met
      cases met

/-! ### The end of the command is noticed -/

/-- An init cannot go on by itself only if it is done or waits, and nothing is pending. -/
theorem exists_own (h : l.place ≠ .waiting ∨ l.init.result = none ∧ l.init.pending ≠ []) :
    ∃ k, Own l k := by
  obtain ⟨i, place⟩ := l
  cases place with
  | waiting =>
    obtain ⟨waits, some⟩ := h.resolve_left (absurd rfl)
    obtain ⟨signal, pending⟩ := List.exists_mem_of_ne_nil _ some
    by_cases wake : signal = .chld
    · exact ⟨_, .woken i waits (wake ▸ pending)⟩
    · exact ⟨_, .forwarded i signal waits pending wake⟩
  | reaping found =>
    cases dead : i.zombies with
    | nil => exact ⟨_, .done i found dead⟩
    | cons zombie rest =>
      obtain ⟨member, ending⟩ := zombie
      cases named : ending.outcome? with
      | none => exact ⟨_, .failed i found [] rest member ending dead named⟩
      | some o => exact ⟨_, .reaped i found [] rest member ending o dead named⟩

def rank (l : Loop) : Nat :=
  2 * l.init.pending.length + l.init.zombies.length + if l.place = .waiting then 0 else 1

theorem rank_lt_of_own (step : Own l k) : k.rank < l.rank := by
  have shorter : ∀ {s : Signal} {pending : List Signal}, s ∈ pending →
      (pending.erase s).length + 1 = pending.length := by
    intro s pending member
    have := List.length_pos_of_mem member
    rw [List.length_erase_of_mem member]
    omega
  cases step with
  | forwarded i signal waits pending other =>
    have fewer := shorter pending
    simp only [rank, if_true]
    omega
  | woken i waits pending =>
    have fewer := shorter pending
    simp only [rank, if_true, reduceCtorEq, if_false]
    omega
  | reaped i found before after member ending o dead named =>
    simp only [rank, dead, List.length_append, List.length_cons, reduceCtorEq, if_false]
    omega
  | failed i found before after member ending dead nameless =>
    simp only [rank, dead, List.length_append, List.length_cons, reduceCtorEq, if_false, if_true]
    omega
  | done i found empty => simp [rank, empty]

/-- By its own steps alone, in whatever order it reaps, the init gets to a result. -/
inductive Concludes : Loop → Prop where
  | now {l : Loop} (done : l.init.result ≠ none) : Concludes l
  | later {l : Loop} (possible : ∃ k, Own l k) (each : ∀ k, Own l k → Concludes k) : Concludes l

theorem commandAlive_of_own (step : Own l k) : k.init.commandAlive = l.init.commandAlive := by
  cases step <;> rfl

theorem concludes_of_dead (reached : Reachable l) (dead : l.init.commandAlive = false) :
    Concludes l := by
  -- on the rank, which every step of the init lowers
  induction steps : l.rank using Nat.strongRecOn generalizing l with
  | ind n ih =>
    cases result : l.init.result with
    | some r => exact .now (by rw [result]; exact nofun)
    | none =>
      refine .later (exists_own ?_) ?_
      · by_cases here : l.place = .waiting
        · right
          refine ⟨result, ?_⟩
          intro nothing
          have alive := (idle_of_waiting reached here result (by rw [nothing]; exact nofun)).2
          cases dead.symm.trans alive
        · exact Or.inl here
      · intro k step
        exact ih k.rank (steps ▸ rank_lt_of_own step) (reached.step (.own step))
          ((commandAlive_of_own step).trans dead) rfl

end Loop

end NamespaceEntry.Init
