import NamespaceEntry.Proofs.Outcome.Starts
import NamespaceEntry.Proofs.Outcome.Tools

/-!
# The programs of a run with mapping tools

With mapping tools a run starts the tool of each kind that has ids to map, user ids first, and
then its command. It stops at the first tool that does not exit with zero, and returns that
tool's failure.
-/

namespace NamespaceEntry.Run

variable {w : Setting} {t : MappingTools} {s : State} {left : List Event}

def Setting.withTools (w : Setting) (t : MappingTools) : Setting :=
  { w with mapper := t.map w.host }

/-- The start of the tool of a kind: the child, and three numbers for each range of the kind. -/
def toolLaunch (w : Setting) (t : MappingTools) (kind : IdKind) : Launch where
  program := t.tool kind
  arguments := (w.childId.describe :: (rangesOf w kind).flatMap fun r =>
    [Numeral.write r.namespaceStart, Numeral.write r.hostStart, Numeral.write r.count]).map
      Bytes.ofString

def Clean (w : Setting) (t : MappingTools) (kind : IdKind) : Prop :=
  w.host.launch (.mapper kind) (toolLaunch w t kind) = .ok (.exited 0)

def launched (w : Setting) (t : MappingTools) (kind : IdKind) : List Launch :=
  match w.host.launch (.mapper kind) (toolLaunch w t kind) with
  | .ok _ => [toolLaunch w t kind]
  | .error _ => []

/-! ### What the tools reply -/

theorem reply_withTools (w : Setting) (t : MappingTools) (kind : IdKind) :
    reply (w.withTools t) kind = t.map w.host kind w.childId (rangesOf w kind) := rfl

theorem launch_eq (w : Setting) (t : MappingTools) (kind : IdKind) :
    t.launch kind w.childId (rangesOf w kind) = toolLaunch w t kind := rfl

theorem started_withTools (w : Setting) (t : MappingTools) (kind : IdKind) :
    (reply (w.withTools t) kind).started.toList = launched w t kind := by
  rw [reply_withTools, MappingTools.map, launched, launch_eq]
  cases w.host.launch (.mapper kind) (toolLaunch w t kind) <;> rfl

theorem kill_withTools (w : Setting) (t : MappingTools) (kind : IdKind) :
    (reply (w.withTools t) kind).kill = none := by
  rw [reply_withTools, MappingTools.map, launch_eq]
  cases w.host.launch (.mapper kind) (toolLaunch w t kind) <;> rfl

theorem result_of_clean {kind : IdKind} (clean : Clean w t kind) :
    (reply (w.withTools t) kind).result = .ok () :=
  MappingTools.result_of_exited clean

theorem launched_of_clean {kind : IdKind} (clean : Clean w t kind) :
    launched w t kind = [toolLaunch w t kind] := by
  rw [launched, clean]

theorem result_of_unclean {kind : IdKind} (unclean : ¬Clean w t kind) :
    ∃ fault, (reply (w.withTools t) kind).result = .error (.mapping kind fault) := by
  rcases MappingTools.clean_or_fails w.host kind (toolLaunch w t kind) with clean | ⟨fault, fails⟩
  · exact absurd clean unclean
  · exact ⟨fault, MappingTools.result_of_fails fails⟩

theorem flatMap_started {kinds : List IdKind} (clean : ∀ kind ∈ kinds, Clean w t kind) :
    kinds.flatMap (fun kind => (reply (w.withTools t) kind).started.toList) =
      kinds.map (toolLaunch w t) := by
  induction kinds with
  | nil => rfl
  | cons kind rest ih =>
    have first := launched_of_clean (clean kind List.mem_cons_self)
    have others := ih fun other member => clean other (List.mem_cons_of_mem _ member)
    rw [List.flatMap_cons, List.map_cons, others, started_withTools, first]
    rfl

/-! ### What has been started -/

theorem clean_or_first (w : Setting) (t : MappingTools) (kinds : List IdKind) :
    (∀ kind ∈ kinds, Clean w t kind) ∨ ∃ before kind after, kinds = before ++ kind :: after ∧
      (∀ other ∈ before, Clean w t other) ∧ ¬Clean w t kind := by
  induction kinds with
  | nil => exact Or.inl nofun
  | cons kind rest ih =>
    by_cases clean : Clean w t kind
    · rcases ih with all | ⟨before, first, after, rfl, earlier, unclean⟩
      · exact Or.inl (by simpa using ⟨clean, all⟩)
      · exact Or.inr ⟨kind :: before, first, after, rfl, by simpa using ⟨clean, earlier⟩, unclean⟩
    · exact Or.inr ⟨[], kind, rest, rfl, nofun, clean⟩

theorem isolation_withTools (w : Setting) (t : MappingTools) :
    (w.withTools t).isolation = w.isolation := rfl

theorem kindsToMap_withTools (w : Setting) (t : MappingTools) :
    kindsToMap (w.withTools t) = w.isolation.required := kindsToMap_eq (w.withTools t)

theorem starts_of_unclean (reached : Reachable (w.withTools t) s) {before after : List IdKind}
    {kind : IdKind} (split : w.isolation.required = before ++ kind :: after)
    (clean : ∀ other ∈ before, Clean w t other) (unclean : ¬Clean w t kind) :
    starts s.trace <+: before.map (toolLaunch w t) ++ launched w t kind := by
  obtain ⟨left, c⟩ := coherent reached
  obtain ⟨fault, failed⟩ := result_of_unclean unclean
  have steps := c.steps_of_denied ((kindsToMap_withTools w t).trans split)
    (by rw [failed]; nofun)
  have few := starts_prefix reached steps
  rw [startedBy_stepsUpTo, flatMap_started clean, started_withTools] at few
  exact few

theorem launched_prefix_tool (w : Setting) (t : MappingTools) (kind : IdKind) :
    launched w t kind <+: [toolLaunch w t kind] := by
  unfold launched
  cases w.host.launch (.mapper kind) (toolLaunch w t kind) with
  | ok => exact List.prefix_refl _
  | error => exact List.nil_prefix

theorem startedBy_exec (w : Setting) :
    startedBy w (.execAttempted w.command.argv) <+: [w.command.launch] := by
  unfold startedBy
  cases w.host.start .command w.command.launch with
  | ok => exact List.prefix_refl _
  | error => exact List.nil_prefix

def programs (w : Setting) (t : MappingTools) : List Launch :=
  w.isolation.required.map (toolLaunch w t) ++ [w.command.launch]

theorem starts_prefix_programs (reached : Reachable (w.withTools t) s) :
    starts s.trace <+: programs w t := by
  unfold programs
  rcases clean_or_first w t w.isolation.required with
    clean | ⟨before, kind, after, split, clean, unclean⟩
  · obtain ⟨left, c⟩ := coherent reached
    have few := starts_prefix reached ⟨left, c.order⟩
    rw [startedBy_protocol, isolation_withTools, flatMap_started clean] at few
    exact few.trans ((List.prefix_append_right_inj _).mpr (startedBy_exec _))
  · have few := starts_of_unclean reached split clean unclean
    have most := (List.prefix_append_right_inj (before.map (toolLaunch w t))).mpr
      (launched_prefix_tool w t kind)
    refine (few.trans most).trans ⟨after.map (toolLaunch w t) ++ [w.command.launch], ?_⟩
    rw [split]
    simp

/-! ### Runs in which the command is not tried -/

theorem stopped_of_untried (spares : ∀ signal, ¬Kills w signal) (reached : Undisturbed w s)
    {ending : Ending} (ended : s.phase = .ended ending)
    (untried : .execAttempted w.command.argv ∉ s.trace) :
    ending = .exited ExitAction.failureCode := by
  have story := story reached
  have untried : .execAttempted w.command.argv ∉ deeds s.trace :=
    fun member => untried ((mem_deeds rfl).mp member)
  generalize deeds s.trace = told at story untried
  rw [ended] at story
  cases story with
  | early place => simp at place
  | stopped d cause => rfl
  | killed signal cause => exact absurd cause (spares signal)
  | unforked errno => rfl
  | ran => simp [Child.started] at untried
  | unstarted => simp [Child.unstarted] at untried
  | initFailed => rfl
  | reported o told forks tale named =>
    have untried : .execAttempted w.command.argv ∉ told :=
      fun member => untried (List.mem_append_left _ member)
    rw [Child.shellCode_of_untried tale untried named]

/-- A run that never tries its command comes to a result. -/
theorem inevitably_of_untried {P : State → Prop}
    (untried : ∀ s, Undisturbed w s → .execAttempted w.command.argv ∉ s.trace)
    (result : ∀ s r, Undisturbed w s → s.parent = .finished r → P s) : Inevitably w P {} := by
  refine (inevitably_finished (Q := fun _ => True) (fun _ _ _ _ => trivial) ?_ .start
    trivial).mono ?_
  · exact fun s reached _ waits => untried s reached (started_of_awaits reached waits).2.2.1
  · rintro s ⟨reached, -, r, done⟩
    exact result s r reached done

theorem unborn_of_uncloned {errno : Errno} (failed : w.host.clone w.namespaces = .error errno)
    (reached : Reachable w s) : s.phase = .unborn := by
  refine (cloned_of_born reached).resolve_right fun cloned => ?_
  cases cloned.symm.trans failed

theorem gates_of_whole (c : Coherent w s (protocol w)) : gates s.trace = [] :=
  List.append_cancel_right (c.order.trans (List.nil_append _).symm)

theorem inevitably_uncloned {errno : Errno}
    (failed : w.host.clone w.namespaces = .error errno) :
    Inevitably w (fun s => s.result? = some (.error (.resource (.clone errno))) ∧
      starts s.trace = []) {} := by
  have whole : ∀ {s}, Reachable w s → Coherent w s (protocol w) := by
    intro s reached
    obtain ⟨left, c⟩ := coherent reached
    have stage := c.child
    rw [unborn_of_uncloned failed reached] at stage
    have same : left = protocol w := stage
    exact same ▸ c
  refine inevitably_of_untried ?_ ?_
  · intro s reached attempted
    cases (whole reached.reachable).attempted_iff.mp attempted
  · intro s r reached done
    have unborn := unborn_of_uncloned failed reached.reachable
    have none := gates_of_whole (whole reached.reachable)
    obtain ⟨left, c, how⟩ := settled reached.reachable done
    refine ⟨result?_eq_some.mpr (done.trans ?_), by rw [accounted reached.reachable, none]; rfl⟩
    cases how with
    | uncloned other refused => rw [Except.error.inj (refused.symm.trans failed)]
    | reaped ending ended => cases unborn.symm.trans ended
    | aborted cause ending ended => cases unborn.symm.trans ended

theorem inevitably_unmounted (cloned : w.host.clone w.namespaces = .ok ())
    (failed : w.host.mount w.namespaces w.procTarget ≠ .ok ())
    (spares : ∀ signal, ¬Kills w signal) :
    Inevitably w (fun s => s.result? = some (.error (.protocol .endedEarly)) ∧
      starts s.trace = []) {} := by
  have untried : ∀ s, Undisturbed w s → .execAttempted w.command.argv ∉ s.trace := by
    intro s reached attempted
    obtain ⟨left, c⟩ := coherent reached.reachable
    have whole := c.left_of_unmounted reached.reachable failed
    rw [c.attempted_iff.mp attempted] at whole
    cases whole
  refine inevitably_of_untried untried ?_
  intro s r reached done
  obtain ⟨left, c, how⟩ := settled reached.reachable done
  obtain rfl := c.left_of_unmounted reached.reachable failed
  have none := gates_of_whole c
  refine ⟨result?_eq_some.mpr (done.trans ?_), by rw [accounted reached.reachable, none]; rfl⟩
  cases how with
  | uncloned errno refused => cases cloned.symm.trans refused
  | reaped ending ended few =>
    rw [length_protocol] at few
    omega
  | aborted cause ending ended because =>
    rw [stopped_of_untried spares reached ended (untried s reached)]
    generalize steps : protocol w = left at because
    cases because with
    | early => rfl
    | unmapped => cases steps
    | lost => cases steps

/-- A child that cannot fork, or whose forked process does not get its signals back, exits with a
code that passes for that of the command. -/
theorem inevitably_unable (willing : Willing w) (cloned : w.host.clone w.namespaces = .ok ())
    (maps : ∀ kind ∈ w.isolation.required, (reply w kind).result = .ok ())
    (unable : ¬Able w) :
    Inevitably w (fun s => s.result? = some (.ok (.exited ExitAction.failureCode)) ∧
      starts s.trace =
        w.isolation.required.flatMap fun kind => (reply w kind).started.toList) {} := by
  have untried : ∀ s, Undisturbed w s → .execAttempted w.command.argv ∉ s.trace := by
    intro s reached attempted
    exact unable fun below =>
      Child.able_of_tried (story reached) below ((mem_deeds rfl).mpr attempted)
  refine inevitably_of_untried untried ?_
  intro s r reached done
  have untried := untried s reached
  have released := letGo_of_mapped willing cloned maps reached done
  have starts := starts_of_letGo reached.reachable released
  rw [if_neg untried, List.append_nil] at starts
  refine ⟨result?_eq_some.mpr (done.trans ?_), starts⟩
  cases fate reached done released with
  | outcome tried => exact absurd tried untried
  | nameless tried => exact absurd tried untried
  | lost => rfl

/-! ### Runs in which a tool fails -/

theorem spares_withTools (w : Setting) (t : MappingTools) (signal : Nat) :
    ¬Kills (w.withTools t) signal := by
  rintro ⟨kind, -, wish⟩
  cases (kill_withTools w t kind).symm.trans wish

/-- The first kind that is denied is the only one. -/
theorem first_unique {before after before' after' : List IdKind} {kind kind' : IdKind}
    (same : before ++ kind :: after = before' ++ kind' :: after')
    (clean : ∀ other ∈ before, (reply w other).result = .ok ())
    (clean' : ∀ other ∈ before', (reply w other).result = .ok ())
    (denied : (reply w kind).result ≠ .ok ()) (denied' : (reply w kind').result ≠ .ok ()) :
    before = before' ∧ kind = kind' := by
  rcases List.append_eq_append_iff.mp same with ⟨more, rfl, rest⟩ | ⟨more, rfl, rest⟩
  · cases more with
    | nil => exact ⟨(List.append_nil _).symm, (List.cons.inj rest).1⟩
    | cons other others =>
      obtain ⟨rfl, -⟩ := List.cons.inj rest
      exact absurd (clean' kind (by simp)) denied
  · cases more with
    | nil => exact ⟨List.append_nil _, (List.cons.inj rest).1.symm⟩
    | cons other others =>
      obtain ⟨rfl, -⟩ := List.cons.inj rest
      exact absurd (clean kind' (by simp)) denied'

theorem gates_of_unmapped {before rest : List IdKind} {kind : IdKind}
    (split : kindsToMap w = before ++ kind :: rest)
    (c : Coherent w s (.mapped kind :: (calls w rest ++ closing w))) :
    gates s.trace = stepsUpTo w before kind :=
  List.append_cancel_right (c.order.trans (protocol_eq_stepsUpTo split))

theorem answered_before {before : List IdKind} {kind : IdKind} (c : Coherent w s left)
    (said : gates s.trace = stepsUpTo w before kind) :
    ∀ other ∈ before, (reply w other).result = .ok () := by
  intro other member
  apply c.answered other
  rw [said]
  simp [stepsUpTo, calls, member]

/-- A run that returns the failure of a mapper has gone no further than the call of it. -/
theorem gates_of_denied (c : Coherent w s left) {before after : List IdKind} {kind : IdKind}
    {fault : MappingFault} (how : Settled w s left (.error (.mapping kind fault)))
    (split : kindsToMap w = before ++ kind :: after)
    (mapped : ∀ other ∈ before, (reply w other).result = .ok ())
    (denied : (reply w kind).result = .error (.mapping kind fault)) :
    gates s.trace = stepsUpTo w before kind := by
  have denies : (reply w kind).result ≠ .ok () := by simp [denied]
  generalize result : Except.error (Error.mapping kind fault) = r at how
  cases how with
  | uncloned errno failed => cases result
  | reaped ending ended few =>
    have most := (c.steps_of_denied split denies).length_le
    have lengths := congrArg List.length (c.order.trans (protocol_eq_stepsUpTo split))
    simp only [List.length_append, List.length_cons, length_calls, length_closing] at lengths
    omega
  | aborted cause ending ended because =>
    obtain rfl : Error.mapping kind fault = cause := by
      cases wait : waited w ending <;> rw [wait] at result <;> cases result
      rfl
    cases because with
    | unmapped kind' rest _ due failed =>
      obtain ⟨before', split'⟩ := due
      have said := gates_of_unmapped split'.symm c
      obtain ⟨rfl, rfl⟩ := first_unique (split.symm.trans split'.symm) mapped
        (answered_before c said) denies (by simp [failed])
      exact said

theorem inevitably_denied (cloned : w.host.clone w.namespaces = .ok ()) (willing : Willing w)
    {before after : List IdKind} {kind : IdKind} {fault : MappingFault}
    (split : kindsToMap w = before ++ kind :: after)
    (mapped : ∀ other ∈ before, (reply w other).result = .ok ())
    (denied : (reply w kind).result = .error (.mapping kind fault)) :
    Inevitably w (fun s => s.result? = some (.error (.mapping kind fault)) ∧
      starts s.trace = (stepsUpTo w before kind).flatMap (startedBy w)) {} := by
  have due : kind ∈ kindsToMap w := by
    rw [split]
    exact List.mem_append_right _ List.mem_cons_self
  have untried : ∀ s, Undisturbed w s → .execAttempted w.command.argv ∉ s.trace := by
    intro s reached attempted
    obtain ⟨left, c⟩ := coherent reached.reachable
    have released := letGo_of_attempted reached.reachable attempted
    cases (c.answered_of_letGo released due).symm.trans denied
  refine inevitably_of_untried untried ?_
  intro s r reached done
  rcases (orderly willing reached).settled r done with
    released | ⟨errno, failed⟩ | ⟨kind', cause, ending, first, ended, rfl⟩
  · obtain ⟨left, c⟩ := coherent reached.reachable
    cases (c.answered_of_letGo released due).symm.trans denied
  · cases failed.symm.trans cloned
  · obtain ⟨before', after', split', mapped', denied'⟩ := first
    obtain ⟨rfl, rfl⟩ := first_unique (split.symm.trans split') mapped mapped'
      (by simp [denied]) (by simp [denied'])
    obtain rfl := Except.error.inj (denied'.symm.trans denied)
    rw [stopped_of_untried willing.spares reached ended (untried s reached)] at done
    obtain ⟨left, c, how⟩ := settled reached.reachable done
    refine ⟨result?_eq_some.mpr done, ?_⟩
    rw [accounted reached.reachable, gates_of_denied c how split mapped denied]

/-! ### Runs that start their command -/

theorem granted_withTools (cloned : w.host.clone w.namespaces = .ok ())
    (mounted : w.host.mount w.namespaces w.procTarget = .ok ())
    (clean : ∀ kind ∈ w.isolation.required, Clean w t kind) : Granted (w.withTools t) where
  clone := cloned
  mounts := mounted
  maps kind due := ⟨result_of_clean (clean kind due), kill_withTools w t kind⟩

theorem starts_of_attempted (reached : Reachable (w.withTools t) s)
    (clean : ∀ kind ∈ w.isolation.required, Clean w t kind)
    (attempted : .execAttempted w.command.argv ∈ s.trace) :
    starts s.trace = w.isolation.required.map (toolLaunch w t) ++
      startedBy w (.execAttempted w.command.argv) := by
  have tried : .execAttempted (w.withTools t).command.argv ∈ s.trace := attempted
  have starts := starts_of_letGo reached (letGo_of_attempted reached tried)
  rw [isolation_withTools, flatMap_started clean, if_pos tried] at starts
  exact starts

theorem fate_of_clean (cloned : w.host.clone w.namespaces = .ok ())
    (mounted : w.host.mount w.namespaces w.procTarget = .ok ())
    (clean : ∀ kind ∈ w.isolation.required, Clean w t kind)
    (reached : Undisturbed (w.withTools t) s) {r : Except Error Outcome}
    (done : s.parent = .finished r) :
    w.isolation.required.map (toolLaunch w t) <+: starts s.trace ∧
      Fate (w.withTools t) s.trace r := by
  have released := letGo_of_mapped (w := w.withTools t) ⟨mounted, spares_withTools w t⟩ cloned
    (fun kind due => result_of_clean (clean kind due)) reached done
  refine ⟨?_, fate reached done released⟩
  rw [starts_of_letGo reached.reachable released, isolation_withTools, flatMap_started clean]
  exact List.prefix_append ..

/-- Whatever the order of the steps from here, the run ends with the result, and has started the
programs. -/
def Concludes (w : Setting) (s : State) (r : Except Error Outcome) (launches : List Launch) :
    Prop :=
  Inevitably w (fun u => u.result? = some r ∧ starts u.trace = launches) s

theorem concludes_of_yields (granted : Granted (w.withTools t)) (able : Able w)
    (steady : Steady w) (clean : ∀ kind ∈ w.isolation.required, Clean w t kind)
    {r : Except Error Outcome} (reached : Undisturbed (w.withTools t) s)
    (yields : Yields (w.withTools t) s r) :
    Concludes (w.withTools t) s r (w.isolation.required.map (toolLaunch w t) ++
      startedBy w (.execAttempted w.command.argv)) := by
  refine (yields.and_undisturbed reached).mono ?_
  rintro u ⟨result, reached⟩
  have attempted := granted.attempted able steady reached (result?_eq_some.mp result)
  exact ⟨result, starts_of_attempted reached.reachable clean attempted⟩

/-- A run with mapping tools starts the tools of the kinds that it maps, in order, and then its
command, and never more than a beginning of this, even if its child is killed. What it has started
and its result in the end are decided by what fails first: the creation of the child, its mounts, a
tool, a call of its init, the execution of the command, or nothing. -/
theorem programs_of_run (w : Setting) (t : MappingTools) :
    (∀ s, Reachable (w.withTools t) s → starts s.trace <+: programs w t) ∧
    (∀ errno, w.host.clone w.namespaces = .error errno →
      Concludes (w.withTools t) {} (.error (.resource (.clone errno))) []) ∧
    (w.host.clone w.namespaces = .ok () →
      w.host.mount w.namespaces w.procTarget ≠ .ok () →
        Concludes (w.withTools t) {} (.error (.protocol .endedEarly)) []) ∧
    (∀ before kind after, w.isolation.required = before ++ kind :: after →
      (∀ other ∈ before, Clean w t other) → ¬Clean w t kind →
        (∀ s, Reachable (w.withTools t) s →
          starts s.trace <+: before.map (toolLaunch w t) ++ launched w t kind) ∧
        (w.host.clone w.namespaces = .ok () →
          w.host.mount w.namespaces w.procTarget = .ok () →
            ∃ fault, Concludes (w.withTools t) {} (.error (.mapping kind fault))
              (before.map (toolLaunch w t) ++ launched w t kind))) ∧
    (w.host.clone w.namespaces = .ok () → w.host.mount w.namespaces w.procTarget = .ok () →
      (∀ kind ∈ w.isolation.required, Clean w t kind) →
        (¬Able w → Concludes (w.withTools t) {} (.ok (.exited 125))
          (w.isolation.required.map (toolLaunch w t))) ∧
        (∀ s r, Undisturbed (w.withTools t) s → s.result? = some r →
          w.isolation.required.map (toolLaunch w t) <+: starts s.trace ∧
            Fate (w.withTools t) s.trace r) ∧
        (Able w → Steady w →
          (∀ errno, w.host.start .command w.command.launch = .error errno →
            Concludes (w.withTools t) {} (.ok (.exited errno.execCode))
              (w.isolation.required.map (toolLaunch w t))) ∧
          ∀ program, w.host.start .command w.command.launch = .ok program →
            Inevitably (w.withTools t) (fun s => starts s.trace = programs w t) {} ∧
            ∀ s, Undisturbed (w.withTools t) s → Unhindered (w.withTools t) s →
              (∀ o, program.ending.outcome? = some o →
                (w.namespaces.pid = true →
                  ∀ orphan ∈ w.toSetting.orphans, orphan.outcome? ≠ none) →
                Concludes (w.withTools t) s (.ok o) (programs w t)) ∧
              (w.namespaces.pid = false → program.ending.outcome? = none →
                Concludes (w.withTools t) s
                  (.error (.wait (.failed w.childId .invalidArgument))) (programs w t)))) := by
  refine ⟨fun s reached => starts_prefix_programs reached, ?_, ?_, ?_, ?_⟩
  · intro errno failed
    exact inevitably_uncloned (w := w.withTools t) failed
  · intro cloned failed
    exact inevitably_unmounted (w := w.withTools t) cloned failed (spares_withTools w t)
  · intro before kind after split clean unclean
    refine ⟨fun s reached => starts_of_unclean reached split clean unclean, ?_⟩
    intro cloned mounted
    obtain ⟨fault, denied⟩ := result_of_unclean unclean
    have ends := inevitably_denied (w := w.withTools t) cloned
      ⟨mounted, spares_withTools w t⟩ ((kindsToMap_withTools w t).trans split)
      (fun other member => result_of_clean (clean other member)) denied
    rw [startedBy_stepsUpTo, flatMap_started clean, started_withTools] at ends
    exact ⟨fault, ends⟩
  · intro cloned mounted clean
    refine ⟨?_, fun s r reached done =>
      fate_of_clean cloned mounted clean reached (result?_eq_some.mp done), ?_⟩
    · intro unable
      have ends := inevitably_unable (w := w.withTools t) ⟨mounted, spares_withTools w t⟩ cloned
        (fun kind due => result_of_clean (clean kind due)) unable
      rw [isolation_withTools, flatMap_started clean] at ends
      exact ends
    intro able steady
    have granted : Granted (w.withTools t) := granted_withTools cloned mounted clean
    refine ⟨?_, ?_⟩
    · intro errno failed
      have none : startedBy w (.execAttempted w.command.argv) = [] := by rw [startedBy, failed]
      have ends := concludes_of_yields granted able steady clean .start
        (yields_of_unstarted granted steady .start (Or.inl able) failed)
      rw [none, List.append_nil] at ends
      exact ends
    · intro program found
      have last : startedBy w (.execAttempted w.command.argv) = [w.command.launch] := by
        rw [startedBy, found]
      refine ⟨?_, ?_⟩
      · refine ((inevitably_started granted able steady found).and_undisturbed .start).mono ?_
        rintro s ⟨⟨attempted, -⟩, reached⟩
        rw [starts_of_attempted reached.reachable clean attempted, last]
        rfl
      · intro s reached free
        rw [← Child.commandEnding_of_ok found]
        refine ⟨?_, ?_⟩
        · intro o named orphans
          have ends := concludes_of_yields granted able steady clean reached
            (yields_of_named granted steady reached free (Or.inl able) named orphans)
          rw [last] at ends
          exact ends
        · intro direct nameless
          have ends := concludes_of_yields granted able steady clean reached
            (yields_of_nameless granted reached free direct nameless)
          rw [last] at ends
          exact ends

def Setting.on (w : Setting) (host : Host) : Setting := { w with host }

def refusing : Setting :=
  let w := lone secluded (.mapped oneOfEach) {}
  w.on { w.host with
    start := fun role _ => .ok { ending := .exited (if role = .mapper .gid then 1 else 0) } }

theorem programs_of_run_refusing :
    refusing.isolation.required = [.uid] ++ .gid :: [] ∧
      (∀ other ∈ [IdKind.uid], Clean refusing {} other) ∧ ¬Clean refusing {} .gid ∧
      refusing.host.clone refusing.namespaces = .ok () ∧
      refusing.host.mount refusing.namespaces refusing.procTarget = .ok () ∧
      ∃ fault, Concludes (refusing.withTools {}) {} (.error (.mapping .gid fault))
        [toolLaunch refusing {} .uid, toolLaunch refusing {} .gid] := by
  have clean : ∀ other ∈ [IdKind.uid], Clean refusing {} other := by
    intro other member
    rw [List.mem_singleton.mp member]
    rfl
  have unclean : ¬Clean refusing {} .gid := by
    intro clean
    cases clean
  have ends := ((programs_of_run refusing {}).2.2.2.1 [.uid] .gid [] rfl clean unclean).2 rfl rfl
  exact ⟨rfl, clean, unclean, rfl, rfl, ends⟩

def powerless : Setting :=
  let w := lone secluded .plain {}
  w.on { w.host with clone := fun _ => .error .notPermitted }

def childless : Setting :=
  let w := lone secluded .plain {}
  w.on { w.host with init := { fork := some .tryAgain } }

def nameless : Setting :=
  lone { mount := false, pid := false, user := false } .plain { ending := .killed 34 }

/-- No tool fails and the mounts are made, and still there is no outcome of the command: a child
that cannot be created starts nothing, nor does an init that cannot fork, whose code is returned,
and a command that has been started can be beyond waiting for. -/
theorem no_outcome_of_uncloned_or_nameless :
    (powerless.isolation.required = [] ∧
      powerless.host.mount powerless.namespaces powerless.procTarget = .ok () ∧
      (run (powerless.withTools {})).result? = some (.error (.resource (.clone .notPermitted))) ∧
      starts (run (powerless.withTools {})).trace = []) ∧
    (childless.isolation.required = [] ∧
      childless.host.mount childless.namespaces childless.procTarget = .ok () ∧
      (run (childless.withTools {})).result? = some (.ok (.exited 125)) ∧
      starts (run (childless.withTools {})).trace = []) ∧
    (nameless.isolation.required = [] ∧
      nameless.host.mount nameless.namespaces nameless.procTarget = .ok () ∧
      (run (nameless.withTools {})).result? =
        some (.error (.wait (.failed nameless.childId .invalidArgument))) ∧
      starts (run (nameless.withTools {})).trace = programs nameless {}) :=
  ⟨⟨rfl, rfl, rfl, rfl⟩, ⟨rfl, rfl, rfl, rfl⟩, ⟨rfl, rfl, rfl, by decide +kernel⟩⟩

end NamespaceEntry.Run
