import Mathlib.Logic.Relation
import NamespaceEntry.Proofs.Run.Stations

/-!
# A parent whose child does as it likes

Between two steps of a parent its child and the pair of sockets may come to be anything: the child
may send what it likes, close its end, die, or not be a child of this program at all. What holds
along every `Leads` holds of every run, and needs nothing of the child.
-/

namespace NamespaceEntry

def Event.isParental : Event → Bool
  | .readyReceived | .mapperCalled .. | .mapped _ | .goSent | .parentClosed | .reaped _ => true
  | _ => false

def parental (trace : List Event) : List Event := trace.filter Event.isParental

@[simp] theorem parental_append (xs ys : List Event) :
    parental (xs ++ ys) = parental xs ++ parental ys := List.filter_append ..

theorem mem_parental {event : Event} (own : event.isParental = true) {trace : List Event} :
    event ∈ parental trace ↔ event ∈ trace := by
  simp [parental, own]

theorem parental_of_childMove {w : Child.Setting} {s t : Child.State} (move : Child.Move w s t) :
    parental t.trace = parental s.trace := by
  cases move with
  | took init command orphans signal =>
    simp only [Child.State.goto]
    split <;> simp [Child.State.log, parental, Event.isParental]
  | initFailed init command =>
    simp only [Child.State.fail, Child.State.exit, Child.State.log]
    split <;> simp [parental, Event.isParental]
  | _ =>
    simp [Child.State.log, Child.State.goto, Child.State.fail, Child.State.exit, parental,
      Event.isParental]

namespace Run

variable {w : Setting} {s t : State}

/-- The parent takes a step, or all but the parent comes to be something else. -/
inductive Turn (w : Setting) (s : State) : State → Prop where
  | own {t : State} (taken : parentStep w s = some t) : Turn w s t
  | other (child : Child.State) (grows : s.trace <+: child.trace)
      (foreign : parental child.trace = parental s.trace) : Turn w s { s with toState := child }

/-- The parent gets from one state to another, whatever its child does. -/
def Leads (w : Setting) : State → State → Prop := Relation.ReflTransGen (Turn w)

theorem turn_of_childMove {child : Child.State} (move : Child.Move w.toSetting s.toState child) :
    Turn w s { s with toState := child } :=
  .other child (Child.trace_of_move move) (parental_of_childMove move)

theorem turn_of_step {actor : Actor} (taken : step w s actor = some t) : Turn w s t := by
  cases actor with
  | parent => exact .own taken
  | inner actor =>
    obtain ⟨child, goes, rfl⟩ := Option.map_eq_some_iff.mp taken
    exact turn_of_childMove (Child.move_of_stepOf goes)
  | killer signal =>
    obtain ⟨child, dies, rfl⟩ := Option.map_eq_some_iff.mp taken
    obtain ⟨-, -, rfl⟩ := Child.killStep_eq_some dies
    exact .other _ (List.prefix_refl _) rfl

/-- A run, in any order of its steps and with a child that may be killed, is a special case. -/
theorem leads_of_reachable (reached : Reachable w s) : Leads w {} s := by
  induction reached with
  | start => exact .refl
  | step actor _ taken ih => exact ih.tail (turn_of_step taken)

theorem trace_of_turn (turn : Turn w s t) : s.trace <+: t.trace := by
  cases turn with
  | own taken => exact trace_of_move (move_of_parentStep taken)
  | other child grows => exact grows

/-! ### Steps of a parent that fail -/

/-- The next step of the parent fails, for a cause. A channel that closes before the child is ready
is a breach of the protocol. -/
inductive Fails (w : Setting) (s : State) : Error → Prop where
  | closedEarly {k : Socket} (here : s.parent = .awaitingReady)
      (failed : s.socket.await? .parent .ready = some (.error .channelClosed, k)) :
      Fails w s (.protocol .endedEarly)
  | unready {e : Error} {k : Socket} (here : s.parent = .awaitingReady)
      (failed : s.socket.await? .parent .ready = some (.error e, k)) (other : e ≠ .channelClosed) :
      Fails w s e
  | unmapped {kind : IdKind} {rest : List IdKind} {e : Error}
      (here : s.parent = .mapping (kind :: rest))
      (failed : (w.mapper kind w.childId (rangesOf w kind)).result = .error e) : Fails w s e
  | unreleased {e : Error} {k : Socket} (here : s.parent = .releasing)
      (failed : s.socket.signal .parent .go = (.error e, k)) : Fails w s e
  | misheard {e : Error} {k : Socket} (here : s.parent = .awaitingReport)
      (failed : s.socket.awaitReport? = some (.error e, k)) : Fails w s e

theorem readyCause_eq {e : Error} (other : e ≠ .channelClosed) : readyCause e = e := by
  cases e with
  | channelClosed => exact absurd rfl other
  | _ => rfl

theorem fails_of_unready {e : Error} {k : Socket} (here : s.parent = .awaitingReady)
    (failed : s.socket.await? .parent .ready = some (.error e, k)) : Fails w s (readyCause e) := by
  by_cases closed : e = .channelClosed
  · subst closed
    exact .closedEarly here failed
  · rw [readyCause_eq closed]
    exact .unready here failed closed

/-- A parent that fails gives up, with its end closed or about to be. -/
theorem parent_of_fails {cause : Error} (fails : Fails w s cause)
    (taken : parentStep w s = some t) :
    t.parent = .abandoning cause ∨ t.parent = .aborting cause := by
  cases fails with
  | closedEarly here failed =>
    simp only [parentStep, here, awaitReady?, failed, Option.map_some, Option.some.injEq] at taken
    exact Or.inl (taken ▸ rfl)
  | unready here failed other =>
    simp only [parentStep, here, awaitReady?, failed, Option.map_some, Option.some.injEq] at taken
    exact Or.inl (taken ▸ congrArg _ (readyCause_eq other))
  | @unmapped kind rest _ here failed =>
    simp only [parentStep, here, Option.some.injEq] at taken
    left
    rw [← taken, mapKind]
    simp only [rangesOf] at failed
    rw [failed]
    rfl
  | unreleased here failed =>
    simp only [parentStep, here, release, failed, Option.some.injEq] at taken
    exact Or.inl (taken ▸ rfl)
  | misheard here failed =>
    simp only [parentStep, here, awaitReport?, failed, Option.map_some, Option.some.injEq] at taken
    exact Or.inr (taken ▸ rfl)

end Run

end NamespaceEntry
