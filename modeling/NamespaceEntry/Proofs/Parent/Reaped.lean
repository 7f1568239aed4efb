import NamespaceEntry.Proofs.Parent.Account
import NamespaceEntry.Proofs.Run.Schedules

/-!
# Every child is reaped once

Whatever its child does, a parent that returns has closed its end and reaped the child, in this
order and each once. When one of its own steps failed it returns the error of that step, and when it
cannot reap the child either, an error that names both.
-/

namespace NamespaceEntry.Run

variable {w : Setting} {s t : State} {r : Except Error Outcome} {cause : Error}

/-! ### What has come before -/

def FailedWith (w : Setting) (s : State) (cause : Error) : Prop :=
  ∃ u t, Leads w {} u ∧ Fails w u cause ∧ parentStep w u = some t ∧ Leads w t s

/-- On the way to a state the parent has received a report, or has seen that none will come. -/
def HeardReport (w : Setting) (s : State) (report : Option Outcome) : Prop :=
  ∃ u t k, Leads w {} u ∧ u.parent = .awaitingReport ∧
    u.socket.awaitReport? = some (.ok report, k) ∧ parentStep w u = some t ∧ Leads w t s

theorem FailedWith.turn (failed : FailedWith w s cause) (turn : Turn w s t) :
    FailedWith w t cause := by
  obtain ⟨u, v, leads, fails, taken, after⟩ := failed
  exact ⟨u, v, leads, fails, taken, after.tail turn⟩

theorem HeardReport.turn {report : Option Outcome} (heard : HeardReport w s report)
    (turn : Turn w s t) : HeardReport w t report := by
  obtain ⟨u, v, k, leads, here, got, taken, after⟩ := heard
  exact ⟨u, v, k, leads, here, got, taken, after.tail turn⟩

/-- What brought the parent to where it is, once it only waits for the end of its child. -/
inductive Grounds (w : Setting) (s : State) : ParentPhase → Prop where
  | open_ {phase : ParentPhase} (listens : phase.gaveUp = false) : Grounds w s phase
  | abandoning {cause : Error} (failed : FailedWith w s cause) : Grounds w s (.abandoning cause)
  | aborting {cause : Error} (failed : FailedWith w s cause) : Grounds w s (.aborting cause)
  | reaping {report : Option Outcome} (heard : HeardReport w s report) :
      Grounds w s (.reaping report)
  | uncloned {errno : Errno} (failed : w.host.clone w.namespaces = .error errno) :
      Grounds w s (.finished (.error (.resource (.clone errno))))
  | reaped {report : Option Outcome} {ending : Ending} (heard : HeardReport w s report)
      (waited : .reaped ending ∈ s.trace) :
      Grounds w s (.finished (resultOf report (Run.waited w ending)))
  | aborted {cause : Error} {ending : Ending} (failed : FailedWith w s cause)
      (waited : .reaped ending ∈ s.trace) :
      Grounds w s (.finished (.error (abortError cause (Run.waited w ending))))

theorem Grounds.turn {phase : ParentPhase} (grounds : Grounds w s phase) (turn : Turn w s t) :
    Grounds w t phase := by
  have grows := (trace_of_turn turn).subset
  cases grounds with
  | open_ listens => exact .open_ listens
  | abandoning failed => exact .abandoning (failed.turn turn)
  | aborting failed => exact .aborting (failed.turn turn)
  | reaping heard => exact .reaping (heard.turn turn)
  | uncloned failed => exact .uncloned failed
  | reaped heard waited => exact .reaped (heard.turn turn) (grows waited)
  | aborted failed waited => exact .aborted (failed.turn turn) (grows waited)

theorem grounds_of_parentStep (leads : Leads w {} s) (grounds : Grounds w s s.parent)
    (taken : parentStep w s = some t) : Grounds w t t.parent := by
  have turn : Turn w s t := .own taken
  have failing : ∀ {cause}, Fails w s cause → FailedWith w t cause :=
    fun fails => ⟨s, t, leads, fails, taken, .refl⟩
  cases move_of_parentStep taken with
  | inner child move => exact grounds.turn turn
  | cloned | dropped | ready | mapped | allMapped | sentGo => exact .open_ rfl
  | uncloned errno here failed => exact .uncloned failed
  | unready e k here failed => exact .abandoning (failing (fails_of_unready here failed))
  | unmapped kind rest e here failed => exact .abandoning (failing (.unmapped here failed))
  | unsentGo e k here failed => exact .abandoning (failing (.unreleased here failed))
  | misheard e k here failed => exact .aborting (failing (.misheard here failed))
  | heard report k here got => exact .reaping ⟨s, _, k, leads, here, got, taken, .refl⟩
  | reaped report ending here ended =>
    rw [here] at grounds
    cases grounds with
    | open_ listens => cases listens
    | reaping heard => exact .reaped (heard.turn turn) List.mem_concat_self
  | abandoned cause here =>
    rw [here] at grounds
    cases grounds with
    | open_ listens => cases listens
    | abandoning failed => exact .aborting (failed.turn turn)
  | aborted cause ending here ended =>
    rw [here] at grounds
    cases grounds with
    | open_ listens => cases listens
    | aborting failed => exact .aborted (failed.turn turn) List.mem_concat_self

theorem grounds (leads : Leads w {} s) : Grounds w s s.parent := by
  induction leads with
  | refl => exact .open_ rfl
  | tail leads turn ih =>
    cases turn with
    | own taken => exact grounds_of_parentStep leads ih taken
    | other child grows foreign => exact ih.turn (.other child grows foreign)

/-! ### A failure is returned -/

inductive Returning (w : Setting) (s : State) (cause : Error) : ParentPhase → Prop where
  | abandoning : Returning w s cause (.abandoning cause)
  | aborting : Returning w s cause (.aborting cause)
  | aborted {ending : Ending} (waited : .reaped ending ∈ s.trace) :
      Returning w s cause (.finished (.error (abortError cause (Run.waited w ending))))

theorem returning_of_leads (returning : Returning w s cause s.parent) (leads : Leads w s t) :
    Returning w t cause t.parent := by
  induction leads with
  | refl => exact returning
  | @tail u v _ turn ih =>
    have grows := (trace_of_turn turn).subset
    have kept : Returning w v cause u.parent := by
      generalize u.parent = phase at ih
      cases ih with
      | abandoning => exact .abandoning
      | aborting => exact .aborting
      | aborted waited => exact .aborted (grows waited)
    cases turn with
    | other child => exact kept
    | own taken =>
      cases move_of_parentStep taken with
      | inner child move => exact kept
      | abandoned other here =>
        rw [here] at ih
        cases ih
        exact .aborting
      | aborted other ending here =>
        rw [here] at ih
        cases ih
        exact .aborted List.mem_concat_self
      | cloned here | uncloned errno here | dropped here | ready k here | unready e k here
      | mapped kind rest here | unmapped kind rest e here | allMapped here | sentGo k here
      | unsentGo e k here | heard report k here | misheard e k here | reaped report ending here =>
        rw [here] at ih
        cases ih

theorem returning_of_failed (failed : FailedWith w s cause) : Returning w s cause s.parent := by
  obtain ⟨u, v, -, fails, taken, after⟩ := failed
  refine returning_of_leads ?_ after
  rcases parent_of_fails fails taken with there | there <;> rw [there]
  · exact .abandoning
  · exact .aborting

/-! ### The two last deeds -/

theorem not_mem_prepared (w : Setting) (kinds : List IdKind) :
    .parentClosed ∉ prepared w kinds ∧ ∀ ending, .reaped ending ∉ prepared w kinds := by
  simp [prepared, calls]

theorem not_mem_of_stops {said : List Event} (stops : Stops w cause said) :
    .parentClosed ∉ said ∧ ∀ ending, .reaped ending ∉ said := by
  cases stops with
  | unready fault => simp
  | unmapped before kind after e split failed =>
    obtain ⟨open_, alive⟩ := not_mem_prepared w before
    simp [open_, alive]
  | unreleased => exact not_mem_prepared w _
  | misheard fault =>
    obtain ⟨open_, alive⟩ := not_mem_prepared w (kindsToMap w)
    simp [open_, alive]

theorem last_of_account (cloned : w.host.clone w.namespaces = .ok ()) {said : List Event}
    (account : Account w (.finished r) said) :
    ∃ before ending, said = before ++ [.parentClosed, .reaped ending] ∧ .parentClosed ∉ before ∧
      ∀ other, .reaped other ∉ before := by
  rcases said_of_finished account with
    ⟨errno, failed, -, -⟩ | ⟨report, ending, -, rfl⟩ | ⟨cause, before, ending, stops, -, rfl⟩
  · cases failed.symm.trans cloned
  · obtain ⟨open_, alive⟩ := not_mem_prepared w (kindsToMap w)
    refine ⟨prepared w (kindsToMap w) ++ [.goSent], ending, by simp, by simp [open_], ?_⟩
    intro other
    simp [alive]
  · obtain ⟨open_, alive⟩ := not_mem_of_stops stops
    exact ⟨before, ending, rfl, open_, alive⟩

/-- Only one child is reaped, so an ending that was seen is the last deed. -/
theorem ending_unique {before : List Event} {ending other : Ending} {trace : List Event}
    (last : parental trace = before ++ [.parentClosed, .reaped ending])
    (alive : ∀ other, .reaped other ∉ before) (waited : .reaped other ∈ trace) :
    other = ending := by
  have member : .reaped other ∈ parental trace := (mem_parental rfl).mpr waited
  rw [last] at member
  simpa [alive] using member

theorem message_waitInAbort (fault : WaitFault) (cause : Error) :
    (Error.waitInAbort fault cause).message =
      "Wait error: " ++ (Error.wait fault).message ++ " (while aborting after: " ++
        cause.message ++ ")" := by
  -- The equations of the message are too many to rewrite with: both sides unfold to the same text.
  show "Wait error: Wait error: " ++ fault.message ++ " (while aborting after: " ++
      cause.message ++ ")" = "Wait error: " ++ ("Wait error: " ++ fault.message) ++
        " (while aborting after: " ++ cause.message ++ ")"
  simp [← String.append_assoc]

/-- Whatever its child does, a parent that returns after it has created the child has closed its end
and then reaped the child, each once and both last. Either it received a report, or saw that none
will come, and returns that or what it saw of the child's end; or a step of its own failed. Then it
returns the cause of the failure, however the child ended, or if the child cannot be reaped an error
of the wait that names the cause as well. -/
theorem reaped_once (cloned : w.host.clone w.namespaces = .ok ()) (leads : Leads w {} s)
    (done : s.result? = some r) :
    ∃ before ending, parental s.trace = before ++ [.parentClosed, .reaped ending] ∧
      .parentClosed ∉ before ∧ (∀ other, .reaped other ∉ before) ∧
      ((∃ cause, FailedWith w s cause) ∨ ∃ report, HeardReport w s report ∧
        (∀ o, ending.outcome? = some o → r = .ok (report.getD o)) ∧
        (ending.outcome? = none → r = .error (.wait (.failed w.childId .invalidArgument)))) ∧
      ∀ cause, FailedWith w s cause →
        (∀ o, ending.outcome? = some o → r = .error cause) ∧
        (ending.outcome? = none → ∃ e, r = .error e ∧ e.kind = .wait ∧
          e.message = "Wait error: " ++
            (Error.wait (.failed w.childId .invalidArgument)).message ++
            " (while aborting after: " ++ cause.message ++ ")") := by
  have finished := result?_eq_some.mp done
  have account := account leads
  have grounds := grounds leads
  rw [finished] at account grounds
  obtain ⟨before, ending, last, open_, alive⟩ := last_of_account cloned account
  refine ⟨before, ending, last, open_, alive, ?_, ?_⟩
  · generalize there : ParentPhase.finished r = phase at grounds
    cases grounds with
    | open_ listens => subst there; cases listens
    | uncloned failed => cases failed.symm.trans cloned
    | aborted failed => exact Or.inl ⟨_, failed⟩
    | @reaped report other heard waited =>
      cases there
      obtain rfl := ending_unique last alive waited
      refine Or.inr ⟨report, heard, ?_, ?_⟩
      · exact fun o named => resultOf_named named report
      · exact fun nameless => resultOf_nameless nameless report
    | _ => cases there
  · intro cause failed
    have returning := returning_of_failed failed
    rw [finished] at returning
    cases returning with
    | @aborted other waited =>
      obtain rfl := ending_unique last alive waited
      constructor
      · intro o named
        rw [abortError_named named]
      · intro nameless
        rw [abortError_nameless nameless]
        exact ⟨_, rfl, rfl, message_waitInAbort _ cause⟩

def attentive : State := complete (lone secluded .plain {}) 8 {}

/-- The child has exited and left three bytes where a report takes two. The parent goes on. -/
def garbled (steps : Nat) : State :=
  complete (lone secluded .plain {}) steps
    { attentive with
      socket := { parent := { queue := [[1, 2, 3]] }, child := .closed }
      phase := .ended (.exited 0) }

/-- The child exited with zero, and still it is the garbled report that is returned. -/
theorem reaped_once_garbled :
    (lone secluded .plain {}).host.clone secluded = .ok () ∧
      Leads (lone secluded .plain {}) {} (garbled 2) ∧
      FailedWith (lone secluded .plain {}) (garbled 2) (.protocol (.malformedReport 3)) ∧
      (garbled 2).result? = some (.error (.protocol (.malformedReport 3))) ∧
      ∃ before, parental (garbled 2).trace = before ++ [.parentClosed, .reaped (.exited 0)] ∧
        .parentClosed ∉ before ∧ ∀ other, .reaped other ∉ before := by
  have waiting : Leads (lone secluded .plain {}) {} (garbled 0) :=
    (leads_of_reachable (undisturbed_complete 8 .start).reachable).tail
      (.other { (garbled 0).toState with } (List.prefix_refl _) rfl)
  have stopping : Turn (lone secluded .plain {}) (garbled 1) (garbled 2) := .own rfl
  have failed : FailedWith (lone secluded .plain {}) (garbled 2) (.protocol (.malformedReport 3)) :=
    ⟨garbled 0, garbled 1, waiting, .misheard rfl rfl, rfl, .single stopping⟩
  have ended : Leads (lone secluded .plain {}) {} (garbled 2) :=
    (waiting.tail (.own rfl)).tail stopping
  obtain ⟨before, ending, last, open_, alive, -⟩ := reaped_once rfl ended rfl
  have seen : .reaped (.exited 0) ∈ (garbled 2).trace := List.mem_concat_self
  obtain rfl := ending_unique last alive seen
  exact ⟨rfl, ended, failed, rfl, before, last, open_, alive⟩

end NamespaceEntry.Run
