import NamespaceEntry.Executor
import NamespaceEntry.Proofs.Outcome.Endings
import NamespaceEntry.Proofs.Parent.ErrorKinds

/-!
# What a configuration is refused for

The ranges and the command are checked before a run. What the checks refuse comes to the same
failure on every host, even on one that could neither make a pair of sockets nor a child nor start
a tool. What they let pass leads to a run, and a run makes no such error of its own: it could only
pass on one that its mapper made, and mapping tools make none.
-/

namespace NamespaceEntry

/-! ### Errors of runs -/

namespace Run

variable {w : Setting} {t : MappingTools} {s : State} {e : Error} {said : List Event}

theorem denied_of_stops (stops : Stops w e said) (misfit : e.kind = .invalidConfig) :
    ∃ kind, (reply w kind).result = .error e := by
  cases stops with
  | unready fault => cases misfit
  | unmapped before kind after _ split failed => exact ⟨kind, failed⟩
  | unreleased => cases misfit
  | misheard fault => cases misfit

/-- A parent that returns an error of the configuration was given it by its mapper. -/
theorem denied_of_returns (returns : Returns w said (.error e)) (misfit : e.kind = .invalidConfig) :
    ∃ kind, (reply w kind).result = .error e := by
  generalize result : Except.error e = r at returns
  cases returns with
  | unopened closed =>
    obtain ⟨errno, -, rfl⟩ := Option.map_eq_some_iff.mp closed
    cases result
    cases misfit
  | finished opened leads done =>
    have account := account leads
    rw [result?_eq_some.mp done, ← result] at account
    rcases said_of_finished account with
      ⟨errno, failed, fails, -⟩ | ⟨report, ending, fails, -⟩ |
        ⟨cause, before, ending, stops, fails, -⟩
    · obtain rfl := Except.error.inj fails
      cases misfit
    · cases named : ending.outcome? with
      | some o => rw [resultOf_named named] at fails; cases fails
      | none =>
        rw [resultOf_nameless named] at fails
        obtain rfl := Except.error.inj fails
        cases misfit
    · obtain rfl := Except.error.inj fails
      cases named : ending.outcome? with
      | some o =>
        rw [abortError_named named] at misfit ⊢
        exact denied_of_stops stops misfit
      | none =>
        rw [abortError_nameless named] at misfit
        cases misfit

theorem kind_of_denied {kind : IdKind} (denied : (reply (w.withTools t) kind).result = .error e) :
    e.kind = .mapping := by
  have unclean : ¬Clean w t kind := by
    intro clean
    cases denied.symm.trans (result_of_clean clean)
  obtain ⟨fault, failed⟩ := result_of_unclean unclean
  obtain rfl := Except.error.inj (denied.symm.trans failed)
  rfl

theorem kind_of_returns (returns : Returns (w.withTools t) said (.error e)) :
    e.kind ≠ .invalidConfig := by
  intro misfit
  obtain ⟨kind, denied⟩ := denied_of_returns returns misfit
  cases misfit.symm.trans (kind_of_denied denied)

theorem returns_of_reachable {r : Except Error Outcome} (opened : unopened? w = none)
    (reached : Reachable w s) (done : s.result? = some r) : Returns w (parental s.trace) r :=
  .finished opened (leads_of_reachable reached) done

end Run

/-! ### Subcommands -/

def Report.Misconfigured (r : Report) : Prop :=
  ∃ f, r.result = some (.error f) ∧ f.cause.kind = .invalidConfig

/-- What a subcommand makes of its arguments, if `refused` says that its checks refuse them. -/
structure Invocation.Checks (i : Invocation) (refused : Prop) : Prop where
  /-- On every host, in every order of the steps, a failure is one of the configuration exactly if
  the arguments are refused. -/
  exact : ∀ h id r, i.Comes h id r → (r.Misconfigured ↔ refused)
  /-- Refused arguments ask for no run. They come to one failure and an empty trace on all hosts,
  so that nothing can have been tried that a host may deny. -/
  inert : refused → ∃ f : Failure, ∀ h id, i.asked? h id = none ∧
    ∀ r, i.Comes h id r → r = { result := some (.error f) }
  /-- Other arguments ask for a run, which makes no error of the configuration whatever its child
  does and whoever kills it. -/
  sound : ¬refused → ∀ h id, ∃ w, i.asked? h id = some w ∧
    ∀ said e, Run.Returns w said (.error e) → e.kind ≠ .invalidConfig

namespace Invocation

variable {h : Host} {id : ProcessId} {i : Invocation} {w : Run.Setting} {r : Report}

theorem kind_of_asked (asks : i.asked? h id = some w) {said : List Event} {e : Error}
    (returns : Run.Returns w said (.error e)) : e.kind ≠ .invalidConfig := by
  obtain ⟨isolation, tools, command, rfl, -⟩ := exists_of_asked asks
  let mapped : Run.Setting := .ofIsolation h id isolation (MappingTools.map h tools) command
  exact Run.kind_of_returns (w := mapped) (t := tools) returns

theorem not_misconfigured_report {s : Run.State} (asks : i.asked? h id = some w)
    (opened : Run.unopened? w = none) (reached : Run.Undisturbed w s) :
    ¬(Run.report w s).Misconfigured := by
  rintro ⟨f, fails, misfit⟩
  obtain ⟨r, done, failed⟩ := Option.map_eq_some_iff.mp fails
  cases r with
  | ok o => cases failed
  | error e =>
    cases failed
    exact kind_of_asked asks (Run.returns_of_reachable opened reached.reachable done) misfit

theorem not_misconfigured_of_asked (asks : i.asked? h id = some w) (comes : i.Comes h id r) :
    ¬r.Misconfigured := by
  cases comes with
  | scheduled asks' opened reached => exact not_misconfigured_report asks' opened reached
  | planned =>
    obtain ⟨-, -, -, -, carried⟩ := exists_of_asked asks
    rw [carried, runCommand]
    cases opened : Run.unopened? w with
    | none => exact not_misconfigured_report asks opened (Run.undisturbed_run w)
    | some cause =>
      rintro ⟨f, fails, misfit⟩
      cases fails
      exact kind_of_asked asks (.unopened opened) misfit

theorem eq_carryOut_of_unasked (unasked : i.asked? h id = none) (comes : i.Comes h id r) :
    r = i.carryOut h id := by
  cases comes with
  | planned => rfl
  | scheduled asks => cases unasked.symm.trans asks

/-- A subcommand fits its checks if these alone decide whether it asks for a run. -/
theorem checks_of_asked {refused : Prop}
    (turnedDown : refused → ∃ f : Failure, f.cause.kind = .invalidConfig ∧ ∀ h id,
      i.asked? h id = none ∧ i.carryOut h id = { result := some (.error f) })
    (taken : ¬refused → ∀ h id, ∃ w, i.asked? h id = some w) : i.Checks refused where
  exact h id r comes := by
    constructor
    · intro misfit
      refine Classical.byContradiction fun accepted => ?_
      obtain ⟨w, asks⟩ := taken accepted h id
      exact not_misconfigured_of_asked asks comes misfit
    · intro bad
      obtain ⟨f, misfit, same⟩ := turnedDown bad
      obtain ⟨unasked, carried⟩ := same h id
      exact ⟨f, by rw [eq_carryOut_of_unasked unasked comes, carried], misfit⟩
  inert bad := by
    obtain ⟨f, -, same⟩ := turnedDown bad
    refine ⟨f, fun h id => ⟨(same h id).1, fun r comes => ?_⟩⟩
    rw [eq_carryOut_of_unasked (same h id).1 comes, (same h id).2]
  sound accepted h id := by
    obtain ⟨w, asks⟩ := taken accepted h id
    exact ⟨w, asks, fun said e returns => kind_of_asked asks returns⟩

end Invocation

def IdMapping.Refuses (ranges : List String) : Prop := ∃ cause, ofTokens ranges = .error cause

def Command.Refuses (argv : List Bytes) : Prop := ∃ fault, make argv = .error fault

namespace Invocation

theorem kind_of_ofTokens {ranges : List String} {cause : Error}
    (refused : IdMapping.ofTokens ranges = .error cause) : cause.kind = .invalidConfig := by
  unfold IdMapping.ofTokens at refused
  cases read : RangeTokens.read ranges with
  | ok mapping => rw [read] at refused; cases refused
  | error fault => rw [read] at refused; cases refused; rfl

theorem carryOut_of_ranges {ranges : List String} {cause : Error}
    (refused : IdMapping.ofTokens ranges = .error cause) (tools : MappingTools) (argv : List Bytes)
    (h : Host) (id : ProcessId) :
    (usernsexec tools ranges argv).asked? h id = none ∧
      (usernsexec tools ranges argv).carryOut h id = Invocation.refused .checkRanges cause := by
  simp [asked?, carryOut, refused, Except.toOption]

theorem carryOut_of_command {ranges : List String} {argv : List Bytes} {mapping : IdMapping}
    {fault : Command.Fault} (mapped : IdMapping.ofTokens ranges = .ok mapping)
    (made : Command.make argv = .error fault) (tools : MappingTools) (h : Host) (id : ProcessId) :
    (usernsexec tools ranges argv).asked? h id = none ∧
      (usernsexec tools ranges argv).carryOut h id =
        Invocation.refused .checkCommand (.invalidConfig (.command fault)) := by
  simp [asked?, carryOut, runArguments, mapped, made, Except.toOption]

theorem errorText_refused {context : Context} {cause : Error}
    (misfit : cause.kind = .invalidConfig) : (Invocation.refused context cause).errorText =
      [programName ++ ": " ++ (context.describe ++ ": " ++ cause.message)] := by
  cases cause with
  | invalidConfig fault => rfl
  | _ => cases misfit

theorem checks_nsexec (argv : List Bytes) : (nsexec argv).Checks (Command.Refuses argv) := by
  refine checks_of_asked ?_ ?_
  · rintro ⟨fault, made⟩
    refine ⟨⟨.checkCommand, .invalidConfig (.command fault)⟩, rfl, fun h id => ?_⟩
    simp [asked?, carryOut, runArguments, made, Except.toOption, refused]
  · intro accepted h id
    cases made : Command.make argv with
    | error fault => exact absurd ⟨fault, made⟩ accepted
    | ok command => simp [asked?, made, Except.toOption]

theorem checks_usernsexec (tools : MappingTools) (ranges : List String) (argv : List Bytes) :
    (usernsexec tools ranges argv).Checks (IdMapping.Refuses ranges ∨ Command.Refuses argv) := by
  cases mapped : IdMapping.ofTokens ranges with
  | error cause =>
    refine checks_of_asked (fun _ => ?_) (fun accepted => absurd (Or.inl ⟨cause, mapped⟩) accepted)
    exact ⟨⟨.checkRanges, cause⟩, kind_of_ofTokens mapped, carryOut_of_ranges mapped tools argv⟩
  | ok mapping =>
    refine checks_of_asked ?_ ?_
    · rintro (⟨cause, refused⟩ | ⟨fault, made⟩)
      · cases mapped.symm.trans refused
      exact ⟨⟨.checkCommand, .invalidConfig (.command fault)⟩, rfl,
        carryOut_of_command mapped made tools⟩
    · intro accepted h id
      cases made : Command.make argv with
      | error fault => exact absurd (Or.inr ⟨fault, made⟩) accepted
      | ok command => simp [asked?, mapped, made, Except.toOption]

end Invocation

/-! ### Executors -/

/-- What an executor comes to when it is handed an argument vector: what is planned, or what its
run comes to in any other order of its steps, its child killed or not. -/
inductive Executor.Comes (x : Executor) (h : Host) (id : ProcessId) (argv : List Bytes) :
    Execution → Prop where
  | planned : Comes x h id argv (x.execute h id argv)
  | scheduled {command : Command} {s : Run.State} (made : Command.make argv = .ok command)
      (opened : Run.unopened? (x.setting h id command) = none)
      (reached : Run.Reachable (x.setting h id command) s) :
      Comes x h id argv { trace := s.trace, result := s.result? }

structure Executor.Checks (x : Executor) (argv : List Bytes) : Prop where
  /-- What is no command is refused, on every host in the same way, and nothing is started. -/
  inert : ∀ fault, Command.make argv = .error fault → ∀ h id c, x.Comes h id argv c →
    c = { result := some (.error (.invalidConfig (.command fault))) }
  /-- Of a command no error of the configuration is made, unless by the mapper. -/
  foreign : ∀ command, Command.make argv = .ok command → ∀ h id c e, x.Comes h id argv c →
    c.result = some (.error e) → e.kind = .invalidConfig →
      ∃ kind ranges, (x.mapper h kind id ranges).result = .error e
  /-- With mapping tools an error is one of the configuration exactly if there is no command. -/
  exact : ∀ tools : MappingTools, (x.mapper = fun h => tools.map h) → ∀ h id c,
    x.Comes h id argv c →
      ((∃ e, c.result = some (.error e) ∧ e.kind = .invalidConfig) ↔ Command.Refuses argv)

namespace Executor

variable {x : Executor} {h : Host} {id : ProcessId} {argv : List Bytes} {command : Command}
  {c : Execution} {e : Error}

/-- A subcommand does what an executor does, and adds to an error what it was doing. -/
theorem runCommand_eq_run (x : Executor) (h : Host) (id : ProcessId) (command : Command) :
    Invocation.runCommand (x.setting h id command) =
      { trace := (x.run h id command).trace
        result := (x.run h id command).result.map (·.mapError (⟨.run command, ·⟩)) } := by
  simp only [Invocation.runCommand, run]
  cases Run.unopened? (x.setting h id command) with
  | none => rfl
  | some cause => rfl

theorem returns_of_comes (made : Command.make argv = .ok command) (comes : x.Comes h id argv c)
    (failed : c.result = some (.error e)) :
    ∃ said, Run.Returns (x.setting h id command) said (.error e) := by
  cases comes with
  | scheduled made' opened reached =>
    obtain rfl := Except.ok.inj (made.symm.trans made')
    exact ⟨_, Run.returns_of_reachable opened reached failed⟩
  | planned =>
    simp only [execute, made, run] at failed
    cases opened : Run.unopened? (x.setting h id command) with
    | some cause =>
      rw [opened] at failed
      cases failed
      exact ⟨_, .unopened opened⟩
    | none =>
      rw [opened] at failed
      exact ⟨_, Run.returns_of_reachable opened (Run.undisturbed_run _).reachable failed⟩

theorem eq_of_refused {fault : Command.Fault} (refused : Command.make argv = .error fault)
    (comes : x.Comes h id argv c) :
    c = { result := some (.error (.invalidConfig (.command fault))) } := by
  cases comes with
  | planned => rw [execute, refused]
  | scheduled made => cases refused.symm.trans made

theorem checks (x : Executor) (argv : List Bytes) : x.Checks argv where
  inert fault refused h id c comes := eq_of_refused refused comes
  foreign command made h id c e comes failed misfit := by
    obtain ⟨said, returns⟩ := returns_of_comes made comes failed
    obtain ⟨kind, denied⟩ := Run.denied_of_returns returns misfit
    exact ⟨kind, _, denied⟩
  exact tools shadow h id c comes := by
    constructor
    · rintro ⟨e, failed, misfit⟩
      cases made : Command.make argv with
      | error fault => exact ⟨fault, made⟩
      | ok command =>
        obtain ⟨said, returns⟩ := returns_of_comes made comes failed
        have same : x.setting h id command = (x.setting h id command).withTools tools := by
          rw [setting, shadow]
          rfl
        rw [same] at returns
        exact absurd misfit (Run.kind_of_returns returns)
    · rintro ⟨fault, refused⟩
      rw [eq_of_refused refused comes]
      exact ⟨_, rfl, rfl⟩

end Executor

/-! ### All checks -/

/-- What ranges and an argument vector can be refused for, and by whom. -/
structure ConfigurationErrors (tools : MappingTools) (ranges : List String) (argv : List Bytes) :
    Prop where
  nsexec : (Invocation.nsexec argv).Checks (Command.Refuses argv)
  usernsexec : (Invocation.usernsexec tools ranges argv).Checks
    (IdMapping.Refuses ranges ∨ Command.Refuses argv)
  /-- Ranges are refused first, whatever the command, and the failure says so. -/
  rangesFirst : ∀ cause, IdMapping.ofTokens ranges = .error cause → ∀ h id r,
    (Invocation.usernsexec tools ranges argv).Comes h id r →
      r.result = some (.error ⟨.checkRanges, cause⟩) ∧
        r.errorText = [programName ++ ": " ++ ("Invalid id ranges" ++ ": " ++ cause.message)]
  /-- A command that is refused after good ranges is refused as a command. -/
  commandNext : ∀ mapping fault, IdMapping.ofTokens ranges = .ok mapping →
    Command.make argv = .error fault → ∀ h id r,
      (Invocation.usernsexec tools ranges argv).Comes h id r →
        r.result = some (.error ⟨.checkCommand, .invalidConfig (.command fault)⟩)
  executor : ∀ x : Executor, x.Checks argv

/-- Whatever the ranges and the argument vector, both subcommands and every executor fail by the
configuration exactly if these are refused, and then before anything is started. -/
theorem configuration_errors (tools : MappingTools) (ranges : List String) (argv : List Bytes) :
    ConfigurationErrors tools ranges argv where
  nsexec := Invocation.checks_nsexec argv
  usernsexec := Invocation.checks_usernsexec tools ranges argv
  rangesFirst cause refused h id r comes := by
    obtain ⟨unasked, carried⟩ := Invocation.carryOut_of_ranges refused tools argv h id
    rw [Invocation.eq_carryOut_of_unasked unasked comes, carried]
    exact ⟨rfl, Invocation.errorText_refused (Invocation.kind_of_ofTokens refused)⟩
  commandNext mapping fault mapped made h id r comes := by
    obtain ⟨unasked, carried⟩ := Invocation.carryOut_of_command mapped made tools h id
    rw [Invocation.eq_carryOut_of_unasked unasked comes, carried]
    rfl
  executor x := x.checks argv

def barren : Host := { taskHost {} with clone := fun _ => .error .notPermitted }

/-- A range that breaks off is reported even before a command that is empty. With both in order the
same host fails the run, for a reason of its own. -/
theorem configuration_errors_both :
    (IdMapping.Refuses ["u", "0", "100000"] ∧ Command.Refuses []) ∧
    ((Invocation.usernsexec {} ["u", "0", "100000"] []).carryOut barren ⟨7⟩).errorText =
      [programName ++ ": " ++ ("Invalid id ranges" ++ ": " ++
        "Invalid configuration: incomplete uid range '0 100000' " ++
        "(expected <ns start> <host start> <count>)")] ∧
    (taskInvocation.carryOut barren ⟨7⟩).result ≠ none ∧
    ¬(taskInvocation.carryOut barren ⟨7⟩).Misconfigured := by
  have broken : IdMapping.ofTokens ["u", "0", "100000"] =
      .error (.invalidConfig (.tokens (.incomplete .uid ["0", "100000"]))) := rfl
  have reported := (configuration_errors {} ["u", "0", "100000"] []).rangesFirst _ broken barren ⟨7⟩ _
    .planned
  have inOrder := (configuration_errors {} ["u", "0", "100000", "65536"]
    [Bytes.ofString "task"]).usernsexec.exact barren ⟨7⟩ _ .planned
  refine ⟨⟨⟨_, broken⟩, ⟨_, rfl⟩⟩, ?_, by decide, ?_⟩
  · rw [reported.2]
    rfl
  · intro misfit
    rcases inOrder.mp misfit with ⟨cause, refused⟩ | ⟨fault, refused⟩
    · cases refused
    · cases refused

end NamespaceEntry
