import NamespaceEntry.Proofs.Handshake.ParentMoves
import NamespaceEntry.Proofs.Init.Relay

/-!
# What a run passes on

The trace of a run tells which signals its init has passed on. They are those that the init notes,
in the same order, and all of them are relayed signals that the command has sent.
-/

namespace NamespaceEntry

def forwardings (trace : List Event) : List Signal :=
  trace.filterMap fun
    | .forwarded signal => some signal
    | _ => none

theorem forwardings_append (xs ys : List Event) :
    forwardings (xs ++ ys) = forwardings xs ++ forwardings ys := List.filterMap_append

namespace Child

variable {w : Setting} {s t : State}

/-- A signal that the command of a setting can have got back from its init. -/
def Setting.Relayed (w : Setting) (signal : Signal) : Prop :=
  signal ∈ Init.forwards ∧ signal ∈ w.signals

def Phase.Forwards (w : Setting) (trace : List Event) : Phase → Prop
  | .supervising init _ _ => forwardings trace = init.forwarded
  | .reporting _ | .running _ | .ended _ => ∀ signal ∈ forwardings trace, w.Relayed signal
  | _ => forwardings trace = []

theorem Chronicle.relayed {h : List Init.Happening} {i : Init} {command : CommandPhase}
    (c : Chronicle w h i command) {signal : Signal} (forwarded : signal ∈ i.forwarded) :
    w.Relayed signal := by
  obtain ⟨relays, sent⟩ := (Init.relayed c.past).asked signal forwarded
  refine ⟨relays, ?_⟩
  rw [← c.sent]
  exact List.mem_append_left _ (Init.mem_sends.mpr sent)

theorem forwarded_took {i j : Init} {signal : Signal} (taken : i.step (.took signal) = some j) :
    j.forwarded = i.forwarded ++ if signal = .chld then [] else [signal] := by
  rw [Init.step_took] at taken
  split at taken
  · cases taken
    unfold Init.handle
    split
    · exact (List.append_nil _).symm
    · rfl
  · cases taken

theorem forwards_of_move (known : ∀ signal ∈ forwardings s.trace, w.Relayed signal)
    (before : s.phase.Forwards w s.trace) (move : Move w s t) : t.phase.Forwards w t.trace := by
  have once : ∀ e, forwardings [e] = [] → forwardings (s.trace ++ [e]) = forwardings s.trace := by
    intro e other
    rw [forwardings_append, other, List.append_nil]
  have twice : ∀ e e', forwardings [e, e'] = [] →
      forwardings (s.trace ++ [e] ++ [e']) = forwardings s.trace := by
    intro e e' other
    rw [List.append_assoc, forwardings_append, List.singleton_append, other, List.append_nil]
  have late : ∀ {trace}, forwardings trace = forwardings s.trace →
      ∀ signal ∈ forwardings trace, w.Relayed signal := fun same => same ▸ known
  cases move with
  | inherited here | mounted here | forked here | orphaned _ _ _ _ _ here
  | awaited _ _ _ _ _ here =>
    rw [here] at before
    exact before
  | announced k here =>
    rw [here] at before
    exact (once _ rfl).trans before
  | released k here =>
    rw [here] at before
    have same := (once .goReceived rfl).trans before
    simp only [State.goto]
    split <;> exact same
  | took init command orphans signal next here waits first taken =>
    rw [here] at before
    show forwardings (State.trace _) = next.forwarded
    rw [forwarded_took taken, ← before]
    split
    · exact (List.append_nil _).symm
    · exact forwardings_append _ _
  | signalled init signal script ending orphans next here sent =>
    rw [here] at before
    cases sent
    exact before.trans (Init.forwarded_raise ..).symm
  | executedBelow init orphans program here found =>
    rw [here] at before
    exact (twice _ _ rfl).trans before
  | unexecutedBelow init orphans errno next here failed ended =>
    rw [here] at before
    obtain ⟨-, -, -, forwarded, -⟩ := Init.step_ended ended
    exact ((twice _ _ rfl).trans before).trans forwarded.symm
  | unrestored init orphans errno next here failed ended =>
    rw [here] at before
    obtain ⟨-, -, -, forwarded, -⟩ := Init.step_ended ended
    exact ((once _ rfl).trans before).trans forwarded.symm
  | commandEndedBelow init ending orphans next here ended =>
    rw [here] at before
    obtain ⟨-, -, -, forwarded, -⟩ := Init.step_ended ended
    exact ((once _ rfl).trans before).trans forwarded.symm
  | orphanEnded init command orphans index ending next here found ended =>
    rw [here] at before
    obtain ⟨-, -, -, forwarded, -⟩ := Init.step_ended ended
    exact before.trans forwarded.symm
  | concluded => exact known
  | initFailed init command orphans errno =>
    have same := late (once (.diagnostic (.initFailed (.system errno))) rfl)
    simp only [State.fail, State.exit, State.log]
    split <;> exact same
  | executed | unexecuted => exact late (twice _ _ rfl)
  | _ => exact late (once _ rfl)

theorem Phase.Forwards.log {phase : Phase} {trace events : List Event}
    (f : phase.Forwards w trace) (other : forwardings events = []) :
    phase.Forwards w (trace ++ events) := by
  have same : forwardings (trace ++ events) = forwardings trace := by
    rw [forwardings_append, other, List.append_nil]
  cases phase <;> simp only [Phase.Forwards, same] <;> exact f

end Child

namespace Run

variable {w : Setting} {s t : State}

theorem relayed_of_forwards (reached : Reachable w s)
    (f : s.phase.Forwards w.toSetting s.trace) {signal : Signal}
    (told : signal ∈ forwardings s.trace) : w.toSetting.Relayed signal := by
  cases here : s.phase with
  | supervising init command orphans =>
    rw [here] at f
    obtain ⟨h, c⟩ := exists_chronicle reached here
    exact c.relayed (f ▸ told)
  | reporting | running | ended =>
    rw [here] at f
    exact f signal told
  | _ =>
    rw [here] at f
    have nothing : forwardings s.trace = [] := f
    rw [nothing] at told
    cases told

theorem forwards_of_move (reached : Reachable w s) (f : s.phase.Forwards w.toSetting s.trace)
    (move : Move w s t) : t.phase.Forwards w.toSetting t.trace := by
  have called : ∀ kind, (asked w s kind).phase.Forwards w.toSetting (asked w s kind).trace := by
    intro kind
    rw [trace_asked]
    refine Child.Phase.Forwards.log ?_ (by cases (reply w kind).started <;> rfl)
    obtain ⟨child, rfl | ⟨signal, -, death⟩, eq⟩ := asked_eq w s kind
    · rw [eq]
      exact f
    · obtain ⟨-, -, rfl⟩ := Child.killStep_eq_some death
      rw [eq]
      exact fun _ => relayed_of_forwards reached f
  cases move with
  | inner child move =>
    exact Child.forwards_of_move (fun _ => relayed_of_forwards reached f) f move
  | cloned here =>
    obtain ⟨left, c⟩ := coherent reached
    have unborn := c.cloned here
    cases there : s.phase with
    | unborn =>
      rw [there] at f
      exact f
    | supervising init command orphans => cases command <;> simp [there, Child.Phase.station] at unborn
    | _ => simp [there, Child.Phase.station] at unborn
  | mapped kind => exact (called kind).log rfl
  | unmapped kind => exact called kind
  | dropped | unready | allMapped | unsentGo => exact f
  | _ => exact f.log rfl

theorem forwards (reached : Reachable w s) : s.phase.Forwards w.toSetting s.trace := by
  induction reached with
  | start => rfl
  | step actor reached taken ih =>
    rcases move_of_step taken with move | ⟨signal, child, -, death, rfl⟩
    · exact forwards_of_move reached ih move
    · obtain ⟨-, -, rfl⟩ := Child.killStep_eq_some death
      exact fun _ => relayed_of_forwards reached ih

end Run

namespace Init

open Loop

/-- What the init passes on is what was sent. Only the eight relayed signals are passed on, and
each of them that was sent is either pending or has been passed on since it was last sent, so that
those passed on are those that were sent when none is pending. As long as its command lives an init
does not end, and left to itself it passes on everything that is pending and waits. Its result and
the dead are the same without anything that was relayed. The init of every run has such a history,
and the trace of the run tells of the signals that the init has passed on and of no others. -/
theorem relays_exactly :
    (∀ h l, Past h l →
      l.init.forwarded = passes h ∧
      (∀ s ∈ l.init.forwarded, s ∈ forwards ∧ .sent s ∈ h) ∧
      (∀ s ∈ forwards, .sent s ∈ h → (s ∈ l.init.pending ↔ ¬PassedSince h s)) ∧
      ((∀ s ∈ forwards, s ∉ l.init.pending) →
        ∀ s, s ∈ l.init.forwarded ↔ s ∈ forwards ∧ .sent s ∈ h) ∧
      (Harmless h →
        (l.init.commandAlive = true → Named h → l.init.result = none ∧
          l.Settles fun k => k.place = .waiting ∧ k.init.result = none ∧ k.init.pending = [] ∧
            ∀ s, s ∈ k.init.forwarded ↔ s ∈ forwards ∧ .sent s ∈ h) ∧
        ∃ k, Past (h.filter fun e => !e.relays) k ∧ l.Alike k)) ∧
    (∀ (w : Run.Setting) (s : Run.State), Run.Reachable w s →
      (∀ signal ∈ forwardings s.trace, signal ∈ forwards ∧ signal ∈ w.signals) ∧
      (∀ i command orphans, s.phase = .supervising i command orphans →
        forwardings s.trace = i.forwarded ∧ ∃ h, Child.Chronicle w.toSetting h i command)) := by
  refine ⟨?_, ?_⟩
  · intro h l past
    have r := relayed past
    refine ⟨r.forwarded, r.asked, r.due, fun handled s => mem_forwarded past handled, ?_⟩
    intro harmless
    refine ⟨fun alive named => ?_, exists_unrelayed past harmless⟩
    exact ⟨result_eq_none past harmless named alive, settles_handled past harmless named alive⟩
  · intro w s reached
    have f := Run.forwards reached
    refine ⟨fun signal => Run.relayed_of_forwards reached f, ?_⟩
    intro i command orphans here
    rw [here] at f
    exact ⟨f, Run.exists_chronicle reached here⟩

/-- A signal is sent twice, passed on to a command that is gone, and sent again; another one and a
death come between, and a signal that is not relayed. -/
def hailing : List Happening :=
  [.sent .term, .sent .term, .sent .segv, .died .orphan (.exited 0),
   .passed .term (.error .noProcess), .sent .usr1, .sent .term]

def hailed : Loop :=
  ⟨{ pending := [.chld, .usr1, .term]
     zombies := [(.orphan, .exited 0)]
     forwarded := [.term] }, .waiting⟩

theorem relays_exactly_hailed :
    ¬PassedSince hailing .term ∧
      (hailed.Settles fun k => k.place = .waiting ∧ k.init.result = none ∧ k.init.pending = [] ∧
        ∀ s, s ∈ k.init.forwarded ↔ s ∈ forwards ∧ .sent s ∈ hailing) ∧
      ∃ k, Past [.sent .segv, .died .orphan (.exited 0)] k ∧ hailed.Alike k := by
  have past : Past hailing hailed :=
    (((((((Past.start.step (.sent .term)).step (.sent .term)).step (.sent .segv)).step
      (.died .orphan (.exited 0) _ rfl)).step
      (.passed _ .term (.error .noProcess) rfl (by decide) (by decide))).step
      (.sent .usr1)).step (.sent .term))
  have harmless : Harmless hailing := by simp [Harmless, hailing]
  have named : Named hailing := by
    simp only [Named, hailing, List.mem_cons, reduceCtorEq, Happening.died.injEq, false_or,
      List.not_mem_nil, or_false]
    rintro _ _ ⟨-, rfl⟩
    exact Option.some_ne_none _
  obtain ⟨-, -, due, -, rest⟩ := relays_exactly.1 hailing hailed past
  obtain ⟨living, unrelayed⟩ := rest harmless
  exact ⟨(due .term (by decide) (by simp [hailing])).mp (by decide), (living rfl named).2, unrelayed⟩

end Init

end NamespaceEntry
