import NamespaceEntry.Proofs.CommandLine.Vectors
import NamespaceEntry.Proofs.Outcome.Statuses

/-!
# What becomes of a container

`starts_by_runtime` says that a container is handed to its runtime once and comes to what the
runtime says of it. The runtime that runs a program says what has become of this program, and
`StartsProgram` tells it for each way in which a program can end or fail to start.
-/

namespace NamespaceEntry

/-! ### Launches -/

def Launch.HoldsNul (l : Launch) : Prop :=
  ∃ word ∈ l.program :: l.arguments, Bytes.nul ∈ word

instance (l : Launch) : Decidable l.HoldsNul :=
  inferInstanceAs (Decidable (∃ word ∈ l.program :: l.arguments, Bytes.nul ∈ word))

namespace Host

variable {h : Host} {l : Launch} {errno : Errno}

theorem launch_of_nul (role : Role) (nul : l.HoldsNul) : h.launch role l = .error .nul := by
  obtain ⟨word, member, here⟩ := nul
  exact if_pos (List.any_eq_true.mpr ⟨word, member, Bytes.isSome_nulPosition?_iff.mpr here⟩)

theorem launch_of_clean (role : Role) (clean : ¬l.HoldsNul) :
    h.launch role l = match h.start role l with
      | .ok program => .ok program.status
      | .error errno => .error (.refused errno) := by
  refine if_neg fun some => clean ?_
  obtain ⟨word, member, here⟩ := List.any_eq_true.mp some
  exact ⟨word, member, Bytes.isSome_nulPosition?_iff.mp here⟩

theorem launch_of_refused {role : Role} (clean : ¬l.HoldsNul)
    (refused : h.start role l = .error errno) : h.launch role l = .error (.refused errno) := by
  rw [launch_of_clean role clean, refused]

/-- The launch is one that a program can be given, and the program starts a container and ends
so. -/
def Runs (h : Host) (l : Launch) (e : Ending) : Prop :=
  ¬l.HoldsNul ∧ ∃ program, h.start .container l = .ok program ∧ program.ending = e

theorem Runs.launch {e : Ending} (runs : h.Runs l e) :
    ∃ dumped, h.launch .container l = .ok (.ofEnding e dumped) := by
  obtain ⟨clean, program, started, rfl⟩ := runs
  exact ⟨program.dumps, by rw [launch_of_clean _ clean, started]; rfl⟩

end Host

/-! ### Deaths -/

theorem ExitStatus.result_of_named {number : Nat} {o : Outcome} (dumped : Bool)
    (named : (Ending.killed number).outcome? = some o) :
    (ofEnding (.killed number) dumped).result = .ok o := by
  obtain ⟨signal, known, rfl⟩ := Option.map_eq_some_iff.mp named
  simp only [result, ofEnding, outcome, known]
  rfl

theorem ExitStatus.result_of_high {number : Nat} (dumped : Bool) (high : 31 < number) :
    (ofEnding (.killed number) dumped).result = .error (.wait (.status (.unknownSignal number))) := by
  have unknown := Option.map_eq_none_iff.mp (Ending.outcome?_of_high high)
  simp only [result, ofEnding, outcome, unknown]
  rfl

/-! ### Wording -/

theorem Error.chain_ne_nil (e : Error) : e.chain ≠ [] := by
  cases e <;> exact List.cons_ne_nil _ _

theorem Error.chain_of_kind {e : Error} (other : e.kind ≠ .system) : e.chain = [e.message] := by
  cases e with
  | system errno => exact absurd rfl other
  | _ => rfl

theorem Failure.message_eq (f : Failure) :
    f.message = f.context.describe ++ ": " ++ ": ".intercalate f.cause.chain :=
  String.intercalate_cons_of_ne_nil f.cause.chain_ne_nil

namespace Container

variable {h : Host} {c : Container} {binary : Bytes} {before : List Launch}

def launch (c : Container) (binary : Bytes) : Launch := ⟨binary, c.arguments⟩

/-! ### Starting a program -/

theorem run_of_launched {status : ExitStatus}
    (launched : h.launch .container (c.launch binary) = .ok status) :
    (c.start (lxcStart h binary)).run before =
      (status.result.mapError (⟨.start c.name, ·⟩), before ++ [c.launch binary]) := by
  have launched : h.launch .container ⟨binary, c.arguments⟩ = .ok status := launched
  simp only [start, lxcStart, launched]
  rfl

theorem run_of_unlaunched {fault : LaunchFault}
    (unlaunched : h.launch .container (c.launch binary) = .error fault) :
    (c.start (lxcStart h binary)).run before =
      (.error ⟨.start c.name, .runtime (.launch binary fault)⟩, before) := by
  have unlaunched : h.launch .container ⟨binary, c.arguments⟩ = .error fault := unlaunched
  simp only [start, lxcStart, unlaunched]
  rfl

theorem started_once (h : Host) (c : Container) (binary : Bytes) (before : List Launch) :
    ((c.start (lxcStart h binary)).run before).2 = before ∨
      ((c.start (lxcStart h binary)).run before).2 = before ++ [c.launch binary] := by
  cases answer : h.launch .container (c.launch binary) with
  | error fault => exact Or.inl (by rw [run_of_unlaunched answer])
  | ok status => exact Or.inr (by rw [run_of_launched answer])

theorem kind_of_error {f : Failure}
    (failed : ((c.start (lxcStart h binary)).run before).1 = .error f) :
    f.context = .start c.name ∧ (f.cause.kind = .runtime ∨ f.cause.kind = .wait) := by
  cases answer : h.launch .container (c.launch binary) with
  | error fault =>
    rw [run_of_unlaunched answer] at failed
    cases failed
    exact ⟨rfl, Or.inl rfl⟩
  | ok status =>
    rw [run_of_launched answer, ExitStatus.result] at failed
    cases read : status.outcome with
    | ok o =>
      rw [read] at failed
      cases failed
    | error fault =>
      rw [read] at failed
      cases failed
      exact ⟨rfl, Or.inr rfl⟩

theorem message_of_error {f : Failure}
    (failed : ((c.start (lxcStart h binary)).run before).1 = .error f) :
    f.message = "Failed to start container " ++ c.name ++ ": " ++ f.cause.message := by
  obtain ⟨context, kind⟩ := kind_of_error failed
  have other : f.cause.kind ≠ .system := by
    rcases kind with launch | wait
    · rw [launch]
      decide
    · rw [wait]
      decide
  rw [Failure.message_eq, Error.chain_of_kind other, context]
  rfl

/-- What comes of starting a container by a program on a host: a result, and the record of what has
been started. -/
structure StartsProgram (h : Host) (c : Container) (binary : Bytes) (before : List Launch)
    (comes : Except Failure Outcome × List Launch) : Prop where
  once : comes.2 = before ∨ ∃ l, comes.2 = before ++ [l] ∧ l.program = binary ∧
    l.arguments = [Bytes.ofString "--name", Bytes.ofString c.name, Bytes.ofString "--lxcpath",
      c.path, Bytes.ofString "--rcfile", c.config, Bytes.ofString "--foreground"]
  exited : ∀ code, h.Runs (c.launch binary) (.exited code) →
    comes = (.ok (.exited code), before ++ [c.launch binary])
  killed : ∀ number, h.Runs (c.launch binary) (.killed number) → 1 ≤ number → number ≤ 31 →
    ∃ signal : Signal, signal.number = number ∧
      comes = (.ok (.signaled signal), before ++ [c.launch binary])
  nameless : ∀ number, h.Runs (c.launch binary) (.killed number) → 31 < number →
    comes = (.error ⟨.start c.name, .wait (.status (.unknownSignal number))⟩,
      before ++ [c.launch binary])
  refused : ∀ errno, ¬(c.launch binary).HoldsNul →
    h.start .container (c.launch binary) = .error errno →
    comes = (.error ⟨.start c.name, .runtime (.launch binary (.refused errno))⟩, before)
  nul : (c.launch binary).HoldsNul →
    comes = (.error ⟨.start c.name, .runtime (.launch binary .nul)⟩, before)
  worded : ∀ f, comes.1 = .error f →
    f.message = "Failed to start container " ++ c.name ++ ": " ++ f.cause.message

theorem startsProgram (h : Host) (c : Container) (binary : Bytes) (before : List Launch) :
    StartsProgram h c binary before ((c.start (lxcStart h binary)).run before) where
  once := (started_once h c binary before).imp_right fun more => ⟨_, more, rfl, rfl⟩
  exited code runs := by
    obtain ⟨dumped, launched⟩ := runs.launch
    exact run_of_launched launched
  killed number runs least most := by
    obtain ⟨signal, same, named⟩ := Run.exists_number least most
    obtain ⟨dumped, launched⟩ := runs.launch
    refine ⟨signal, same, ?_⟩
    rw [run_of_launched launched, ExitStatus.result_of_named dumped named]
    rfl
  nameless number runs high := by
    obtain ⟨dumped, launched⟩ := runs.launch
    rw [run_of_launched launched, ExitStatus.result_of_high dumped high]
    rfl
  refused errno clean refused := run_of_unlaunched (Host.launch_of_refused clean refused)
  nul nul := run_of_unlaunched (Host.launch_of_nul _ nul)
  worded f failed := message_of_error failed

/-! ### Any runtime -/

/-- A runtime with a record of the containers that it was asked to start. -/
def recorded {m : Type → Type} [Monad m] (runtime : ContainerRuntime m) :
    ContainerRuntime (StateT (List Container) m) := fun c => do
  modify (· ++ [c])
  runtime c

theorem run_recorded {m : Type → Type} [Monad m] [LawfulMonad m] (runtime : ContainerRuntime m)
    (c : Container) (asked : List Container) :
    (recorded runtime c).run asked = (fun result => (result, asked ++ [c])) <$> runtime c := by
  rw [recorded, StateT.run_bind, StateT.run_modify, pure_bind]
  exact bind_pure_comp _ _

/-- What a runtime has said of a container; an error is put into its context. -/
def passedOn (c : Container) : Except Error Outcome → Except Failure Outcome
  | .ok o => .ok o
  | .error e => .error ⟨.start c.name, e⟩

theorem mapError_eq_passedOn (c : Container) (result : Except Error Outcome) :
    result.mapError (⟨.start c.name, ·⟩) = c.passedOn result := by
  cases result <;> rfl

/-- A container is handed to its runtime once, whatever this is and does, and what the runtime says
of it is passed on. The context of an error stands in front of its wording. The runtime that runs a
program starts it once at most, with just the arguments that name the container and keep it in the
foreground. An exit code and a death by a signal with a name are the outcome. A death by a higher
number is a failed wait, and a program that cannot be launched is a failure of the runtime that has
started nothing. -/
theorem starts_by_runtime (c : Container) :
    (∀ (h : Host) (binary : Bytes) (before : List Launch),
      StartsProgram h c binary before ((c.start (lxcStart h binary)).run before)) ∧
    (∀ (m : Type → Type) [Monad m] [LawfulMonad m] (runtime : ContainerRuntime m)
      (asked : List Container), (c.start (recorded runtime)).run asked =
        (fun result => (c.passedOn result, asked ++ [c])) <$> runtime c) ∧
    ∀ e : Error, Failure.message ⟨.start c.name, e⟩ =
      "Failed to start container " ++ c.name ++ ": " ++ ": ".intercalate e.chain := by
  refine ⟨fun h binary before => startsProgram h c binary before, ?_, ?_⟩
  · intro m _ _ runtime asked
    rw [start, StateT.run_map, run_recorded, Functor.map_map]
    simp only [mapError_eq_passedOn]
  · exact fun e => Failure.message_eq ⟨.start c.name, e⟩

/-- A host with two programs that start containers, the second one given by a path. Both die, the
first one by a signal without a name. -/
def deadly : Host :=
  { (Run.lone .standard .plain {}).host with
    start := fun _ l =>
      if l.program = defaultBinary then .ok { ending := .killed 34 }
      else if l.program = Bytes.ofString "/opt/lxc-kill" then .ok { ending := .killed 9 }
      else .error .noEntry }

def web : Container where
  name := "web"
  path := Bytes.ofString "/var/lib/lxc"
  config := Bytes.ofString "/var/lib/lxc/web/config"

def failing : ContainerRuntime (StateM Nat) := fun _ => do
  modify (· + 1)
  return .error (.runtime (.other "no such container"))

theorem starts_by_runtime_web :
    (web.start (lxcStart deadly defaultBinary)).run [] =
      (.error ⟨.start "web", .wait (.status (.unknownSignal 34))⟩, [web.launch defaultBinary]) ∧
    (∃ signal : Signal, signal.number = 9 ∧
      (web.start (lxcStart deadly (Bytes.ofString "/opt/lxc-kill"))).run [] =
        (.ok (.signaled signal), [web.launch (Bytes.ofString "/opt/lxc-kill")])) ∧
    (web.start (lxcStart deadly [])).run [] =
      (.error ⟨.start "web", .runtime (.launch [] (.refused .noEntry))⟩, []) ∧
    (web.start (lxcStart deadly [0])).run [] =
      (.error ⟨.start "web", .runtime (.launch [0] .nul)⟩, []) ∧
    ((web.start (recorded failing)).run []).run 0 =
      ((.error ⟨.start "web", .runtime (.other "no such container")⟩, [web]), 1) := by
  obtain ⟨program, any, -⟩ := starts_by_runtime web
  refine ⟨?_, ?_, ?_, ?_, ?_⟩
  · have runs : deadly.Runs (web.launch defaultBinary) (.killed 34) := ⟨by decide, _, rfl, rfl⟩
    exact (program deadly defaultBinary []).nameless 34 runs (by decide)
  · have runs : deadly.Runs (web.launch (Bytes.ofString "/opt/lxc-kill")) (.killed 9) :=
      ⟨by decide, _, rfl, rfl⟩
    exact (program deadly (Bytes.ofString "/opt/lxc-kill") []).killed 9 runs (by decide) (by decide)
  · exact (program deadly [] []).refused .noEntry (by decide) rfl
  · exact (program deadly [0] []).nul (by decide)
  · rw [any]
    rfl

end Container

end NamespaceEntry
