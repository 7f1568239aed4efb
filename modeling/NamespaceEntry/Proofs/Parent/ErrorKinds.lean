import NamespaceEntry.Proofs.Outcome.Programs
import NamespaceEntry.Proofs.Parent.Reaped

/-!
# The errors of a run

A run with mapping tools fails for want of a resource, by a breach of the protocol, by a tool, or by
a wait. There is one exception, which takes a child that dies after it is ready and before it is let
go: the parent that cannot let it go returns a bare closed channel.
-/

namespace NamespaceEntry.Run

variable {w : Setting} {t : MappingTools} {s : State} {e : Error} {said : List Event}

/-- What a run can return, whatever its child does, and what its parent has done by then. -/
inductive Returns (w : Setting) : List Event → Except Error Outcome → Prop where
  | unopened {e : Error} (closed : unopened? w = some e) : Returns w [] (.error e)
  | finished {s : State} {r : Except Error Outcome} (opened : unopened? w = none)
      (leads : Leads w {} s) (done : s.result? = some r) : Returns w (parental s.trace) r

/-- The errors that a run with tools is meant to have. -/
inductive Foreseen (w : Setting) (t : MappingTools) (said : List Event) : Error → Prop where
  | channel {errno : Errno} (failed : w.host.channel = some errno) :
      Foreseen w t said (.resource (.channel errno))
  | clone {errno : Errno} (failed : w.host.clone w.namespaces = .error errno) :
      Foreseen w t said (.resource (.clone errno))
  | unready (fault : ProtocolFault) (early : .readyReceived ∉ said) :
      Foreseen w t said (.protocol fault)
  | misheard (fault : ProtocolFault) (released : .goSent ∈ said) :
      Foreseen w t said (.protocol fault)
  | tool {kind : IdKind} (fault : MappingFault) (due : kind ∈ w.isolation.required)
      (unclean : ¬Clean w t kind) : Foreseen w t said (.mapping kind fault)
  | unreaped {ending : Ending} (fault : WaitFault) (waited : .reaped ending ∈ said)
      (nameless : ending.outcome? = none) : Foreseen w t said (.wait fault)
  | unreapedInAbort {ending : Ending} (fault : WaitFault) (cause : Error)
      (waited : .reaped ending ∈ said) (nameless : ending.outcome? = none) :
      Foreseen w t said (.waitInAbort fault cause)

/-- The parent had all ids mapped, could not let its child go, and saw how the child ended. -/
def LostBeforeGo (w : Setting) (said : List Event) : Prop :=
  ∃ ending o, said = prepared w (kindsToMap w) ++ [.parentClosed, .reaped ending] ∧
    ending.outcome? = some o

theorem Foreseen.kind (foreseen : Foreseen w t said e) :
    e.kind = .resource ∨ e.kind = .protocol ∨ e.kind = .mapping ∨ e.kind = .wait := by
  cases foreseen <;> simp [Error.kind]

/-! ### The account of a parent that could not let its child go -/

theorem goSent_mem (w : Setting) (kinds : List IdKind) (more : List Event) :
    .goSent ∈ prepared w kinds ++ .goSent :: more :=
  List.mem_append_right _ List.mem_cons_self

theorem not_lost_of_goSent (released : .goSent ∈ said) : ¬LostBeforeGo w said := by
  rintro ⟨ending, o, rfl, -⟩
  simp [prepared, calls] at released

theorem not_lost_of_early (early : .readyReceived ∉ said) : ¬LostBeforeGo w said := by
  rintro ⟨ending, o, rfl, -⟩
  exact early List.mem_cons_self

theorem not_lost_of_unmapped {before after : List IdKind} {kind : IdKind} {more : List Event}
    (split : before ++ kind :: after = kindsToMap w) (silent : .mapped kind ∉ more) :
    ¬LostBeforeGo w
      (prepared w before ++ .mapperCalled kind w.childId (rangesOf w kind) :: more) := by
  rintro ⟨ending, o, same, -⟩
  rw [← split] at same
  simp only [prepared, calls, List.flatMap_append, List.flatMap_cons, List.cons_append,
    List.append_assoc, List.nil_append, List.cons.injEq, true_and,
    List.append_cancel_left_eq] at same
  refine silent ?_
  rw [same]
  exact List.mem_cons_self

/-- Why a parent with tools stops is foreseen, unless it could not let its child go. -/
theorem foreseen_of_stops {cause : Error} {before : List Event} (ending : Ending)
    (stops : Stops (w.withTools t) cause before)
    (told : said = before ++ [.parentClosed, .reaped ending]) :
    Foreseen w t said cause ∧ ¬LostBeforeGo (w.withTools t) said ∨
      cause = .channelClosed ∧ said = prepared (w.withTools t) (kindsToMap (w.withTools t)) ++
        [.parentClosed, .reaped ending] := by
  subst told
  cases stops with
  | unready fault =>
    have early : Event.readyReceived ∉ [.parentClosed, .reaped ending] := by simp
    exact Or.inl ⟨.unready fault early, not_lost_of_early early⟩
  | unmapped before kind after e split failed =>
    have due : kind ∈ w.isolation.required := by
      rw [← kindsToMap_withTools w t, ← split]
      exact List.mem_append_right _ List.mem_cons_self
    have unclean : ¬Clean w t kind := by
      intro clean
      cases failed.symm.trans (result_of_clean clean)
    obtain ⟨fault, because⟩ := result_of_unclean unclean
    obtain rfl := Except.error.inj (failed.symm.trans because)
    rw [List.append_assoc]
    exact Or.inl ⟨.tool fault due unclean, not_lost_of_unmapped split (by simp)⟩
  | unreleased => exact Or.inr ⟨rfl, rfl⟩
  | misheard fault =>
    rw [List.append_assoc]
    have released := goSent_mem (w.withTools t) (kindsToMap (w.withTools t))
      [.parentClosed, .reaped ending]
    exact Or.inl ⟨.misheard fault released, not_lost_of_goSent released⟩

theorem not_lost_of_nameless {before : List Event} {ending : Ending}
    (told : said = before ++ [.parentClosed, .reaped ending])
    (nameless : ending.outcome? = none) : ¬LostBeforeGo w said := by
  rintro ⟨other, o, rfl, named⟩
  obtain ⟨-, same⟩ := List.append_inj' told rfl
  obtain rfl : other = ending := by simpa using same
  cases named.symm.trans nameless

theorem foreseen_of_account (account : Account (w.withTools t) (.finished (.error e)) said) :
    Foreseen w t said e ∧ ¬LostBeforeGo (w.withTools t) said ∨
      e = .channelClosed ∧ LostBeforeGo (w.withTools t) said := by
  rcases said_of_finished account with
    ⟨errno, failed, fails, rfl⟩ | ⟨report, ending, fails, rfl⟩ |
      ⟨cause, before, ending, stops, fails, rfl⟩
  · obtain rfl := Except.error.inj fails
    exact Or.inl ⟨.clone failed, not_lost_of_early (by simp)⟩
  · have released := goSent_mem (w.withTools t) (kindsToMap (w.withTools t))
      [.parentClosed, .reaped ending]
    cases named : ending.outcome? with
    | some o => rw [resultOf_named named] at fails; cases fails
    | none =>
      rw [resultOf_nameless named] at fails
      obtain rfl := Except.error.inj fails
      exact Or.inl ⟨.unreaped _ (by simp) named, not_lost_of_goSent released⟩
  · obtain rfl := Except.error.inj fails
    cases named : ending.outcome? with
    | none =>
      rw [abortError_nameless named]
      exact Or.inl ⟨.unreapedInAbort _ cause (by simp) named, not_lost_of_nameless rfl named⟩
    | some o =>
      rw [abortError_named named]
      refine (foreseen_of_stops ending stops rfl).imp_right ?_
      rintro ⟨rfl, lost⟩
      exact ⟨rfl, ending, o, lost, named⟩

/-! ### Runs that nobody disturbs -/

theorem resultOf_ne_channelClosed (report : Option Outcome) (ending : Ending) :
    resultOf report (waited w ending) ≠ .error .channelClosed := by
  cases named : ending.outcome? with
  | some o => rw [resultOf_named named]; nofun
  | none => rw [resultOf_nameless named]; nofun

theorem cause_eq_channelClosed {cause : Error} {ending : Ending}
    (closed : abortError cause (waited w ending) = .channelClosed) : cause = .channelClosed := by
  cases named : ending.outcome? with
  | some o => rwa [abortError_named named] at closed
  | none => rw [abortError_nameless named] at closed; cases closed

/-- A tool that fails is not taken for a closed channel. -/
theorem result_ne_channelClosed (w : Setting) (t : MappingTools) (kind : IdKind) :
    (reply (w.withTools t) kind).result ≠ .error .channelClosed := by
  by_cases clean : Clean w t kind
  · rw [result_of_clean clean]
    nofun
  · obtain ⟨fault, failed⟩ := result_of_unclean clean
    rw [failed]
    nofun

/-- It takes a killer to lose a child between its readiness and its release. -/
theorem ne_channelClosed_of_undisturbed (reached : Undisturbed (w.withTools t) s) :
    s.result? ≠ some (.error .channelClosed) := by
  intro closed
  have done := result?_eq_some.mp closed
  obtain ⟨left, c, how⟩ := settled reached.reachable done
  generalize result : Except.error Error.channelClosed = r at how
  cases how with
  | uncloned errno failed => cases result
  | reaped ending ended => exact resultOf_ne_channelClosed _ _ result.symm
  | aborted cause ending ended because =>
    obtain rfl := cause_eq_channelClosed (Except.error.inj result).symm
    cases because with
    | unmapped kind rest _ due failed => exact result_ne_channelClosed w t kind failed
    | lost =>
      -- The child was ready, so its mounts were made, and then only a tool can end such a run early.
      have mounts : w.host.mount w.namespaces w.procTarget = .ok () := by
        refine Classical.byContradiction fun failed => ?_
        have whole := congrArg List.length (c.left_of_unmounted reached.reachable failed)
        rw [length_protocol, length_closing] at whole
        omega
      have willing : Willing (w.withTools t) := ⟨mounts, spares_withTools w t⟩
      rcases (orderly willing reached).settled _ done with
        released | ⟨errno, failed⟩ | ⟨kind, cause, ending', first, -, same⟩
      · have few := c.letGo_iff.mp released
        rw [length_closing] at few
        omega
      · cases (unborn_of_uncloned failed reached.reachable).symm.trans ended
      · obtain ⟨before, after, -, -, failed⟩ := first
        obtain rfl := cause_eq_channelClosed (Except.error.inj same).symm
        exact result_ne_channelClosed w t kind failed

/-! ### All errors -/

/-- Whatever its child does, a run with tools that fails returns an error of one of four kinds, and
for a reason of that kind, unless its child was lost between its readiness and its release, and then
it returns a bare closed channel. In a run that nobody disturbs that does not happen. -/
theorem kinds_of_errors (w : Setting) (t : MappingTools) :
    (∀ said e, Returns (w.withTools t) said (.error e) →
      ((e.kind = .resource ∨ e.kind = .protocol ∨ e.kind = .mapping ∨ e.kind = .wait) ∧
          Foreseen w t said e ∨ e = .channelClosed) ∧
        (e = .channelClosed ↔ LostBeforeGo (w.withTools t) said)) ∧
    ∀ s, Undisturbed (w.withTools t) s → s.result? ≠ some (.error .channelClosed) := by
  refine ⟨?_, fun s reached => ne_channelClosed_of_undisturbed reached⟩
  intro said e returns
  have either : Foreseen w t said e ∧ ¬LostBeforeGo (w.withTools t) said ∨
      e = .channelClosed ∧ LostBeforeGo (w.withTools t) said := by
    generalize result : Except.error e = r at returns
    cases returns with
    | unopened closed =>
      cases result
      obtain ⟨errno, failed, rfl⟩ := Option.map_eq_some_iff.mp closed
      exact Or.inl ⟨.channel failed, not_lost_of_early (by simp)⟩
    | finished opened leads done =>
      have account := account leads
      rw [result?_eq_some.mp done, ← result] at account
      exact foreseen_of_account account
  rcases either with ⟨foreseen, kept⟩ | ⟨rfl, lost⟩
  · refine ⟨Or.inl ⟨foreseen.kind, foreseen⟩, ?_, fun lost => absurd lost kept⟩
    rintro rfl
    have kinds := foreseen.kind
    simp [Error.kind] at kinds
  · exact ⟨Or.inr rfl, fun _ => lost, fun _ => rfl⟩

def obliging : Setting := lone secluded (.mapped oneOfEach) {}

def forsaken (steps : Nat) : State :=
  complete (obliging.withTools {}) steps (killed (complete (obliging.withTools {}) 9 {}) 9)

theorem reachable_forsaken : Reachable (obliging.withTools {}) (forsaken 3) := by
  have ready : Reachable (obliging.withTools {}) (complete (obliging.withTools {}) 9 {}) :=
    (undisturbed_complete 9 .start).reachable
  have unreleased : Reachable (obliging.withTools {}) (forsaken 0) := .step (.killer 9) ready rfl
  have abandoning : Reachable (obliging.withTools {}) (forsaken 1) := .step .parent unreleased rfl
  have aborting : Reachable (obliging.withTools {}) (forsaken 2) := .step .parent abandoning rfl
  exact .step .parent aborting rfl

theorem kinds_of_errors_forsaken :
    Returns (obliging.withTools {}) (parental (forsaken 3).trace) (.error .channelClosed) ∧
      LostBeforeGo (obliging.withTools {}) (parental (forsaken 3).trace) := by
  have returned : Returns (obliging.withTools {}) (parental (forsaken 3).trace)
      (.error .channelClosed) := .finished rfl (leads_of_reachable reachable_forsaken) rfl
  exact ⟨returned, (((kinds_of_errors obliging {}).1 _ _ returned).2).mp rfl⟩

/-- A child that is killed before it is let go makes an error of none of the four kinds. -/
theorem channelClosed_of_killed :
    ¬∀ s e, Reachable (obliging.withTools {}) s → s.result? = some (.error e) →
      e.kind = .resource ∨ e.kind = .protocol ∨ e.kind = .mapping ∨ e.kind = .wait := by
  intro kinds
  have kind := kinds (forsaken 3) .channelClosed reachable_forsaken rfl
  simp [Error.kind] at kind

end NamespaceEntry.Run
