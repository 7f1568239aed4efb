import NamespaceEntry.Proofs.Channel.Ends
import NamespaceEntry.Proofs.Handshake.Coherent
import NamespaceEntry.Proofs.Parent.Turns

/-!
# The account of a parent

Where a parent is decides what it has done. `account` shows this for every `Leads`, so that it rests
on the steps of the parent alone.
-/

namespace NamespaceEntry.Run

variable {w : Setting} {s t : State}

def prepared (w : Setting) (kinds : List IdKind) : List Event := .readyReceived :: calls w kinds

/-- Why a parent stops before its child's end is all that it waits for, and what it has done. -/
inductive Stops (w : Setting) : Error → List Event → Prop where
  | unready (fault : ProtocolFault) : Stops w (.protocol fault) []
  | unmapped (before : List IdKind) (kind : IdKind) (after : List IdKind) (e : Error)
      (split : before ++ kind :: after = kindsToMap w)
      (failed : (reply w kind).result = .error e) :
      Stops w e (prepared w before ++ [.mapperCalled kind w.childId (rangesOf w kind)])
  | unreleased : Stops w .channelClosed (prepared w (kindsToMap w))
  | misheard (fault : ProtocolFault) :
      Stops w (.protocol fault) (prepared w (kindsToMap w) ++ [.goSent])

inductive Account (w : Setting) : ParentPhase → List Event → Prop where
  | early {phase : ParentPhase}
      (place : phase = .cloning ∨ phase = .dropping ∨ phase = .awaitingReady) : Account w phase []
  | uncloned {errno : Errno} (failed : w.host.clone w.namespaces = .error errno) :
      Account w (.finished (.error (.resource (.clone errno)))) [.parentClosed]
  | mapping (before : List IdKind) {kinds : List IdKind} (split : before ++ kinds = kindsToMap w) :
      Account w (.mapping kinds) (prepared w before)
  | releasing : Account w .releasing (prepared w (kindsToMap w))
  | released : Account w .awaitingReport (prepared w (kindsToMap w) ++ [.goSent])
  | heard (report : Option Outcome) :
      Account w (.reaping report) (prepared w (kindsToMap w) ++ [.goSent, .parentClosed])
  | stopping {cause : Error} {said : List Event} (stops : Stops w cause said) :
      Account w (.abandoning cause) said
  | stopped {cause : Error} {said : List Event} (stops : Stops w cause said) :
      Account w (.aborting cause) (said ++ [.parentClosed])
  | waited (report : Option Outcome) (ending : Ending) :
      Account w (.finished (resultOf report (Run.waited w ending)))
        (prepared w (kindsToMap w) ++ [.goSent, .parentClosed, .reaped ending])
  | aborted {cause : Error} {said : List Event} (ending : Ending) (stops : Stops w cause said) :
      Account w (.finished (.error (abortError cause (Run.waited w ending))))
        (said ++ [.parentClosed, .reaped ending])

variable {said : List Event}

theorem prepared_append (w : Setting) (before : List IdKind) (kind : IdKind) :
    prepared w (before ++ [kind]) =
      prepared w before ++ [.mapperCalled kind w.childId (rangesOf w kind), .mapped kind] := by
  simp [prepared, calls]

theorem parental_asked (w : Setting) (s : State) (kind : IdKind) :
    parental (asked w s kind).trace =
      parental s.trace ++ [.mapperCalled kind w.childId (rangesOf w kind)] := by
  rw [trace_asked, parental_append]
  cases (reply w kind).started <;> rfl

/-! ### What the account of a phase says -/

theorem said_of_early {phase : ParentPhase} (account : Account w phase said)
    (place : phase = .cloning ∨ phase = .dropping ∨ phase = .awaitingReady) : said = [] := by
  cases account with
  | early => rfl
  | _ => simp at place

theorem said_of_mapping {kinds : List IdKind} (account : Account w (.mapping kinds) said) :
    ∃ before, before ++ kinds = kindsToMap w ∧ said = prepared w before := by
  cases account with
  | early place => simp at place
  | mapping before split => exact ⟨before, split, rfl⟩

theorem said_of_releasing (account : Account w .releasing said) :
    said = prepared w (kindsToMap w) := by
  cases account with
  | early place => simp at place
  | releasing => rfl

theorem said_of_awaitingReport (account : Account w .awaitingReport said) :
    said = prepared w (kindsToMap w) ++ [.goSent] := by
  cases account with
  | early place => simp at place
  | released => rfl

theorem said_of_reaping {report : Option Outcome} (account : Account w (.reaping report) said) :
    said = prepared w (kindsToMap w) ++ [.goSent, .parentClosed] := by
  cases account with
  | early place => simp at place
  | heard => rfl

theorem stops_of_abandoning {cause : Error} (account : Account w (.abandoning cause) said) :
    Stops w cause said := by
  cases account with
  | early place => simp at place
  | stopping stops => exact stops

theorem stops_of_aborting {cause : Error} (account : Account w (.aborting cause) said) :
    ∃ before, Stops w cause before ∧ said = before ++ [.parentClosed] := by
  cases account with
  | early place => simp at place
  | @stopped _ before stops => exact ⟨before, stops, rfl⟩

/-- A parent that is done had no child, waited for it after a report, or waited after it stopped. -/
theorem said_of_finished {r : Except Error Outcome} (account : Account w (.finished r) said) :
    (∃ errno, w.host.clone w.namespaces = .error errno ∧
      r = .error (.resource (.clone errno)) ∧ said = [.parentClosed]) ∨
    (∃ report ending, r = resultOf report (waited w ending) ∧
      said = prepared w (kindsToMap w) ++ [.goSent, .parentClosed, .reaped ending]) ∨
    ∃ cause before ending, Stops w cause before ∧
      r = .error (abortError cause (waited w ending)) ∧
      said = before ++ [.parentClosed, .reaped ending] := by
  generalize there : ParentPhase.finished r = phase at account
  cases account with
  | early place => rcases place with rfl | rfl | rfl <;> cases there
  | @uncloned errno failed => exact Or.inl ⟨errno, failed, ParentPhase.finished.inj there, rfl⟩
  | waited report ending =>
    exact Or.inr (Or.inl ⟨report, ending, ParentPhase.finished.inj there, rfl⟩)
  | @aborted cause before ending stops =>
    exact Or.inr (Or.inr ⟨cause, before, ending, stops, ParentPhase.finished.inj there, rfl⟩)
  | _ => cases there

/-! ### Steps of the parent -/

theorem account_of_parentStep (account : Account w s.parent (parental s.trace))
    (taken : parentStep w s = some t) : Account w t.parent (parental t.trace) := by
  cases move_of_parentStep taken with
  | inner child move =>
    show Account w s.parent (parental child.trace)
    rw [parental_of_childMove move]
    exact account
  | cloned here =>
    rw [here] at account
    show Account w .dropping (parental s.trace)
    rw [said_of_early account (by simp)]
    exact .early (by simp)
  | uncloned errno here failed =>
    rw [here] at account
    show Account w _ (parental (s.trace ++ [.parentClosed]))
    rw [parental_append, said_of_early account (by simp)]
    exact .uncloned failed
  | dropped here =>
    rw [here] at account
    show Account w .awaitingReady (parental s.trace)
    rw [said_of_early account (by simp)]
    exact .early (by simp)
  | ready k here got =>
    rw [here] at account
    show Account w (.mapping (kindsToMap w)) (parental (s.trace ++ [.readyReceived]))
    rw [parental_append, said_of_early account (by simp)]
    exact .mapping [] rfl
  | unready e k here failed =>
    rw [here] at account
    show Account w (.abandoning (readyCause e)) (parental s.trace)
    rw [said_of_early account (by simp)]
    rcases Socket.await?_fault failed with rfl | ⟨fault, rfl⟩
    · exact .stopping (.unready .endedEarly)
    · exact .stopping (.unready fault)
  | mapped kind rest here done =>
    rw [here] at account
    obtain ⟨before, split, told⟩ := said_of_mapping account
    show Account w (.mapping rest) (parental ((asked w s kind).trace ++ [.mapped kind]))
    rw [parental_append, parental_asked, told, List.append_assoc]
    have next : Account w (.mapping rest) (prepared w (before ++ [kind])) :=
      .mapping _ (by rw [List.append_assoc]; exact split)
    rw [prepared_append] at next
    exact next
  | unmapped kind rest e here failed =>
    rw [here] at account
    obtain ⟨before, split, told⟩ := said_of_mapping account
    show Account w (.abandoning e) (parental (asked w s kind).trace)
    rw [parental_asked, told]
    exact .stopping (.unmapped before kind rest e split failed)
  | allMapped here =>
    rw [here] at account
    obtain ⟨before, split, told⟩ := said_of_mapping account
    rw [List.append_nil] at split
    show Account w .releasing (parental s.trace)
    rw [told, split]
    exact .releasing
  | sentGo k here sent =>
    rw [here] at account
    show Account w .awaitingReport (parental (s.trace ++ [.goSent]))
    rw [parental_append, said_of_releasing account]
    exact .released
  | unsentGo e k here failed =>
    rw [here] at account
    obtain ⟨rfl, -⟩ := Socket.deliver_error failed
    show Account w (.abandoning .channelClosed) (parental s.trace)
    rw [said_of_releasing account]
    exact .stopping .unreleased
  | heard report k here got =>
    rw [here] at account
    show Account w (.reaping report) (parental (s.trace ++ [.parentClosed]))
    rw [parental_append, said_of_awaitingReport account, List.append_assoc]
    exact .heard report
  | misheard e k here failed =>
    rw [here] at account
    obtain ⟨fault, rfl⟩ := Socket.awaitReport?_fault failed
    show Account w (.aborting (.protocol fault)) (parental (s.trace ++ [.parentClosed]))
    rw [parental_append, said_of_awaitingReport account]
    exact .stopped (.misheard fault)
  | reaped report ending here ended =>
    rw [here] at account
    show Account w _ (parental (s.trace ++ [.reaped ending]))
    rw [parental_append, said_of_reaping account, List.append_assoc]
    exact .waited report ending
  | abandoned cause here =>
    rw [here] at account
    show Account w _ (parental (s.trace ++ [.parentClosed]))
    rw [parental_append]
    exact .stopped (stops_of_abandoning account)
  | aborted cause ending here ended =>
    rw [here] at account
    obtain ⟨before, stops, told⟩ := stops_of_aborting account
    show Account w _ (parental (s.trace ++ [.reaped ending]))
    rw [parental_append, told, List.append_assoc]
    exact .aborted ending stops

/-- Whatever its child does, what a parent has done fits where it is. -/
theorem account (leads : Leads w {} s) : Account w s.parent (parental s.trace) := by
  induction leads with
  | refl => exact .early (by simp)
  | tail _ turn ih =>
    cases turn with
    | own taken => exact account_of_parentStep ih taken
    | other child grows foreign => exact foreign.symm ▸ ih

end NamespaceEntry.Run
