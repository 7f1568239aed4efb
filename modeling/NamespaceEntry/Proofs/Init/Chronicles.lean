import NamespaceEntry.Proofs.Init.Histories

/-!
# The history of a run

The init of a run has a history, and what happens to it comes from the setting of the run. The
signals sent are the first of those that the command sends, the command dies as it is to end, and
the orphans that die are among those that it leaves.
-/

namespace NamespaceEntry

def Act.signal? : Act → Option Signal
  | .signal sent => some sent
  | _ => none

namespace Init

variable {h more : List Happening} {l k : Loop} {i j : Init}

def sends (h : List Happening) : List Signal :=
  h.filterMap fun
    | .sent signal => some signal
    | _ => none

theorem sends_append (h more : List Happening) : sends (h ++ more) = sends h ++ sends more :=
  List.filterMap_append

theorem mem_sends {signal : Signal} : signal ∈ sends h ↔ .sent signal ∈ h := by
  unfold sends
  rw [List.mem_filterMap]
  constructor
  · rintro ⟨e, here, same⟩
    cases e <;> cases same
    exact here
  · exact fun here => ⟨_, here, rfl⟩

end Init

namespace Child

open Init Init.Loop

variable {w : Setting} {s t : State} {h more : List Happening} {i j : Init}
  {command : CommandPhase} {orphans : List Ending}

/-- The signals that the command of a setting sends to its init. It must run to send any. -/
def Setting.signals (w : Setting) : List Signal :=
  match w.host.init.restoreSignals, w.host.start .command w.command.launch with
  | none, .ok program => program.script.filterMap Act.signal?
  | _, _ => []

def CommandPhase.unsent (w : Setting) : CommandPhase → List Signal
  | .forked => w.signals
  | .running script _ => script.filterMap Act.signal?
  | .ended => []

/-- The history of an init whose command is in a phase. -/
structure Chronicle (w : Setting) (h : List Happening) (i : Init) (command : CommandPhase) :
    Prop where
  past : Past h ⟨i, .waiting⟩
  harmless : Harmless h
  sent : sends h ++ command.unsent w = w.signals
  died : ∀ ending, .died .command ending ∈ h ↔ command.death w = some ending
  left : ∀ ending, .died .orphan ending ∈ h → ending ∈ w.orphans

theorem chronicle_start : Chronicle w [] {} .forked where
  past := .start
  harmless := by simp [Harmless]
  sent := rfl
  died := by simp [CommandPhase.death]
  left := by simp

namespace Chronicle

theorem own (c : Chronicle w h i command) (a : Alone h more ⟨j, .waiting⟩) :
    Chronicle w (h ++ more) j command := by
  have unsent : Init.sends more = [] := by
    apply List.eq_nil_iff_forall_not_mem.mpr
    exact fun signal sent => a.own _ (mem_sends.mp sent)
  refine ⟨a.past, a.harmless c.harmless, ?_, ?_, ?_⟩
  · rw [sends_append, unsent, List.append_nil, c.sent]
  · exact fun ending => (a.mem_iff id).trans (c.died ending)
  · exact fun ending died => c.left ending ((a.mem_iff id).mp died)

theorem goOn (c : Chronicle w h i command) {next : CommandPhase}
    (sent : next.unsent w = command.unsent w) (died : next.death w = command.death w) :
    Chronicle w h i next :=
  ⟨c.past, c.harmless, sent ▸ c.sent, fun ending => died ▸ c.died ending, c.left⟩

theorem sends (c : Chronicle w h i command) {signal : Signal} {next : CommandPhase}
    (unsent : command.unsent w = signal :: next.unsent w) (died : next.death w = command.death w) :
    Chronicle w (h ++ [.sent signal]) (i.raise signal) next := by
  refine ⟨c.past.step (.sent signal), harmless_append.mpr ⟨c.harmless, by simp [Harmless]⟩, ?_, ?_, ?_⟩
  · rw [sends_append, ← c.sent, unsent, List.append_assoc]
    rfl
  · simpa [died] using c.died
  · simpa using c.left

theorem commandDied (c : Chronicle w h i command) (lives : command.death w = none)
    (said : command.unsent w = []) (ended : i.step (.ended .command w.forkedEnding) = some j) :
    Chronicle w (h ++ [.died .command w.forkedEnding]) j .ended := by
  refine ⟨c.past.step (.died .command _ j ended),
    harmless_append.mpr ⟨c.harmless, by simp [Harmless]⟩, ?_, ?_, ?_⟩
  · rw [sends_append, ← c.sent, said]
    simp [Init.sends, CommandPhase.unsent]
  · have now : CommandPhase.ended.death w = some w.forkedEnding := rfl
    simp [now, c.died, lives, eq_comm]
  · simpa using c.left

theorem orphanDied (c : Chronicle w h i command) {ending : Ending} (known : ending ∈ w.orphans)
    (ended : i.step (.ended .orphan ending) = some j) :
    Chronicle w (h ++ [.died .orphan ending]) j command := by
  refine ⟨c.past.step (.died .orphan ending j ended),
    harmless_append.mpr ⟨c.harmless, by simp [Harmless]⟩, ?_, ?_, ?_⟩
  · rw [sends_append, ← c.sent]
    simp [Init.sends]
  · simpa using c.died
  · intro other died
    rcases List.mem_append.mp died with before | now
    · exact c.left other before
    · cases List.mem_singleton.mp now
      exact known

end Chronicle

theorem exists_chronicle_of_move (tended : s.phase.Tended w)
    (before : ∀ i command orphans, s.phase = .supervising i command orphans →
      ∃ h, Chronicle w h i command)
    (move : Move w s t) (there : t.phase = .supervising i command orphans) :
    ∃ h, Chronicle w h i command := by
  cases move with
  | forked =>
    cases there
    exact ⟨[], chronicle_start⟩
  | took init _ _ signal next here waits first taken =>
    obtain ⟨h, c⟩ := before _ _ _ here
    obtain ⟨more, alone⟩ := (Alone.start c.past).steps (own_of_took taken)
    cases (show Phase.supervising next _ _ = .supervising i command orphans from there)
    exact ⟨_, c.own alone⟩
  | executedBelow init _ program here found restored =>
    cases there
    obtain ⟨h, c⟩ := before _ _ _ here
    refine ⟨h, c.goOn ?_ rfl⟩
    simp only [CommandPhase.unsent, Setting.signals, restored, found]
  | unexecutedBelow init _ errno next here failed ended restored =>
    cases there
    obtain ⟨h, c⟩ := before _ _ _ here
    rw [← commandEnding_of_error failed, ← forkedEnding_of_restored restored] at ended
    refine ⟨_, c.commandDied rfl ?_ ended⟩
    simp only [CommandPhase.unsent, Setting.signals, restored, failed]
  | unrestored init _ errno next here failed ended =>
    cases there
    obtain ⟨h, c⟩ := before _ _ _ here
    rw [← forkedEnding_of_unrestored failed] at ended
    refine ⟨_, c.commandDied rfl ?_ ended⟩
    simp only [CommandPhase.unsent, Setting.signals, failed]
  | signalled init signal script ending _ next here sent =>
    cases there
    cases sent
    obtain ⟨h, c⟩ := before _ _ _ here
    exact ⟨_, c.sends rfl rfl⟩
  | orphaned init _ _ _ _ here | awaited init _ _ _ _ here =>
    cases there
    obtain ⟨h, c⟩ := before _ _ _ here
    exact ⟨h, c.goOn rfl rfl⟩
  | commandEndedBelow init ending _ next here ended =>
    cases there
    rw [here] at tended
    obtain ⟨-, ⟨restored, program, found, rfl, -⟩, -⟩ := tended
    rw [← commandEnding_of_ok found, ← forkedEnding_of_restored restored] at ended
    obtain ⟨h, c⟩ := before _ _ _ here
    exact ⟨_, c.commandDied rfl rfl ended⟩
  | orphanEnded init _ _ index ending next here found ended =>
    cases there
    rw [here] at tended
    obtain ⟨h, c⟩ := before _ _ _ here
    exact ⟨_, c.orphanDied (tended.2.2 ending (List.mem_of_getElem? found)) ended⟩
  | released =>
    simp only [State.goto] at there
    split at there <;> cases there
  | _ => cases there

end Child

theorem Run.exists_chronicle {w : Run.Setting} {s : Run.State} (reached : Run.Reachable w s)
    {i : Init} {command : Child.CommandPhase} {orphans : List Ending}
    (here : s.phase = .supervising i command orphans) :
    ∃ h, Child.Chronicle w.toSetting h i command := by
  refine (Run.phase_induction (P := fun phase => phase.Tended w.toSetting ∧
    ∀ i command orphans, phase = .supervising i command orphans →
      ∃ h, Child.Chronicle w.toSetting h i command) ?_ ?_ ?_ ?_ reached).2 i command orphans here
  · exact ⟨trivial, fun _ _ _ there => by cases there⟩
  · exact fun _ => ⟨trivial, fun _ _ _ there => by cases there⟩
  · exact fun _ _ _ _ => ⟨trivial, fun _ _ _ there => by cases there⟩
  · rintro s t ⟨tended, before⟩ move
    refine ⟨Child.tended_of_move tended move, ?_⟩
    exact fun i command orphans there => Child.exists_chronicle_of_move tended before move there

end NamespaceEntry
