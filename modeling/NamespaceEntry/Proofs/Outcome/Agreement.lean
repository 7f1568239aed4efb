import NamespaceEntry.Proofs.Outcome.Faithful

/-!
# The same command below an init and without one

Two runs that differ only in the process id namespace should come to the same result.
`paths_agree_iff` says when they do: always if the init does its work to the end, and else only by
accident, since an init that gives up exits with a code that reads like the command's own.
-/

namespace NamespaceEntry.Run

variable {w : Setting} {s t : State} {r q : Except Error Outcome}

def Setting.withPid (w : Setting) (pid : Bool) : Setting :=
  { w with namespaces := { w.namespaces with pid } }

/-- Two results are alike: the same outcome, or errors of one kind. -/
def Agree : Except Error Outcome → Except Error Outcome → Prop
  | .ok o, .ok o' => o = o'
  | .error e, .error e' => e.kind = e'.kind
  | _, _ => False

theorem outcome?_eq_exited {ending : Ending} {code : UInt8} :
    ending.outcome? = some (.exited code) ↔ ending = .exited code := by
  cases ending with
  | exited other => simp [Ending.outcome?]
  | killed signal => simp [Ending.outcome?]

theorem agree_of_fates {trace trace' : List Event} (below : Fate (w.withPid true) trace r)
    (direct : Fate (w.withPid false) trace' q) :
    Agree r q ↔ w.toSetting.commandEnding.outcome? ≠ none ∧
      (¬GaveUp trace ∨ w.toSetting.commandEnding = .exited ExitAction.failureCode) := by
  cases below with
  | nameless _ absent => cases absent
  | outcome _ o named well =>
    have named : w.toSetting.commandEnding.outcome? = some o := named
    cases direct with
    | lost absent => cases absent
    | nameless _ _ nameless => cases named.symm.trans nameless
    | outcome _ other same =>
      have same : w.toSetting.commandEnding.outcome? = some other := same
      have equal : o = other := Option.some.inj (named.symm.trans same)
      rw [named]
      exact ⟨fun _ => ⟨nofun, Or.inl well⟩, fun _ => equal⟩
  | lost _ d said why =>
    cases direct with
    | lost absent => cases absent
    | nameless _ _ nameless =>
      have nameless : w.toSetting.commandEnding.outcome? = none := nameless
      exact ⟨False.elim, fun both => both.1 nameless⟩
    | outcome _ o named =>
      have named : w.toSetting.commandEnding.outcome? = some o := named
      constructor
      · intro equal
        have equal : .exited ExitAction.failureCode = o := equal
        rw [← equal] at named
        exact ⟨by rw [named]; nofun, Or.inr (outcome?_eq_exited.mp named)⟩
      · rintro ⟨-, well | same⟩
        · exact absurd (why.gaveUp said) well
        · rw [same] at named
          exact Option.some.inj named

/-- A child that is let go, as it is if all that its run asks for is granted, gives the same result
with an init and without one exactly if its command has an outcome and the init did not give up, or
happened to do so with the code of the command.
The init gives up only at a death without an outcome or when a call fails, and only then a
command that was killed is taken for one that exited. -/
theorem paths_agree_iff (w : Setting) :
    (∀ pid s, Undisturbed (w.withPid pid) s → Unhindered (w.withPid pid) s →
      Inevitably (w.withPid pid) (fun t => ∃ r, t.result? = some r) s) ∧
    (∀ pid s r, Granted (w.withPid pid) → Undisturbed (w.withPid pid) s → s.result? = some r →
      .goReceived ∈ s.trace) ∧
    ∀ s t r q, Undisturbed (w.withPid true) s → s.result? = some r → .goReceived ∈ s.trace →
      Undisturbed (w.withPid false) t → t.result? = some q → .goReceived ∈ t.trace →
      (Agree r q ↔ w.toSetting.commandEnding.outcome? ≠ none ∧
        (¬GaveUp s.trace ∨ w.toSetting.commandEnding = .exited ExitAction.failureCode)) ∧
      (GaveUp s.trace → ∃ d, .diagnostic d ∈ s.trace ∧ Loss (w.withPid true) s.trace d) ∧
      ∀ signal, w.toSetting.commandEnding = .killed signal →
        (∀ code, q ≠ .ok (.exited code)) ∧
          ((∃ code, r = .ok (.exited code)) ↔ GaveUp s.trace) := by
  refine ⟨?_, ?_, ?_⟩
  · intro pid s reached free
    refine (inevitably_done reached free).mono ?_
    rintro t ⟨-, r, done⟩
    exact ⟨r, result?_eq_some.mpr done⟩
  · intro pid s r granted reached done
    exact granted.letGo reached (result?_eq_some.mp done)
  · intro s t r q reached done released reached' done' released'
    have below := fate reached (result?_eq_some.mp done) released
    have direct := fate reached' (result?_eq_some.mp done') released'
    refine ⟨agree_of_fates below direct, ?_, ?_⟩
    · intro gaveUp
      cases below with
      | outcome _ o named well => exact absurd gaveUp well
      | nameless _ absent => cases absent
      | lost _ d said why => exact ⟨d, said, why⟩
    · intro signal killed
      have unexited : ∀ code, w.toSetting.commandEnding.outcome? ≠ some (.exited code) := by
        intro code exited
        cases killed.symm.trans (outcome?_eq_exited.mp exited)
      refine ⟨?_, ?_⟩
      · rintro code rfl
        cases direct with
        | outcome _ _ named => exact unexited code named
        | lost absent => cases absent
      · constructor
        · rintro ⟨code, rfl⟩
          cases below with
          | outcome _ _ named => exact absurd named (unexited code)
          | lost _ d said why => exact why.gaveUp said
        · intro gaveUp
          cases below with
          | outcome _ o named well => exact absurd gaveUp well
          | nameless _ absent => cases absent
          | lost => exact ⟨_, rfl⟩

def doomed : Setting := lone secluded .plain { ending := .killed 34 }

theorem paths_agree_iff_doomed :
    (run (doomed.withPid true)).result? = some (.ok (.exited 125)) ∧
      .goReceived ∈ (run (doomed.withPid true)).trace ∧
      (run (doomed.withPid false)).result? =
        some (.error (.wait (.failed doomed.childId .invalidArgument))) ∧
      .goReceived ∈ (run (doomed.withPid false)).trace ∧
      ¬Agree (.ok (.exited 125)) (.error (.wait (.failed doomed.childId .invalidArgument))) ∧
      GaveUp (run (doomed.withPid true)).trace := by
  have released : .goReceived ∈ (run (doomed.withPid true)).trace := by decide +kernel
  have released' : .goReceived ∈ (run (doomed.withPid false)).trace := by decide +kernel
  obtain ⟨agree, -, misread⟩ := (paths_agree_iff doomed).2.2 _ _ _ _ (undisturbed_run _) rfl
    released (undisturbed_run _) rfl released'
  refine ⟨rfl, released, rfl, released', ?_, (misread 34 rfl).2.mp ⟨125, rfl⟩⟩
  intro alike
  exact (agree.mp alike).1 rfl

/-- The same command is reported to have exited below an init, and to be beyond waiting for
without one. -/
theorem realtime_death_misread :
    (run (doomed.withPid true)).result? = some (.ok (.exited 125)) ∧
      (run (doomed.withPid false)).result? =
        some (.error (.wait (.failed doomed.childId .invalidArgument))) ∧
      ¬Agree (.ok (.exited 125)) (.error (.wait (.failed doomed.childId .invalidArgument))) :=
  ⟨rfl, rfl, id⟩

end NamespaceEntry.Run
