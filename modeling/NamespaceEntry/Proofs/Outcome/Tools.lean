import NamespaceEntry.Mapper
import NamespaceEntry.Proofs.Run.Schedules

/-!
# What a mapper makes of its tool

`maps_by_tool` says which program a mapper starts, with which arguments, and that the end of this
program alone decides whether the ids are mapped.
-/

namespace NamespaceEntry.MappingTools

variable {h : Host} {t : MappingTools} {kind : IdKind} {target : ProcessId}
  {ranges : List IdRange} {fault : MappingFault}

/-- What has become of a tool for ids of one kind that did not map them. -/
inductive Fails (h : Host) (kind : IdKind) (l : Launch) : MappingFault → Prop
  | unlaunched {fault : LaunchFault} (refused : h.launch (.mapper kind) l = .error fault) :
      Fails h kind l (.launch l.program fault)
  | exited {code : UInt8} (ended : h.launch (.mapper kind) l = .ok (.exited code))
      (other : code ≠ 0) : Fails h kind l (.failed l.program code)
  | killed {number : Nat} {dumped : Bool}
      (ended : h.launch (.mapper kind) l = .ok (.killed number dumped)) :
      Fails h kind l (.terminated l.program (.killed number dumped))

/-- A tool exits with zero, or something has become of it that is a failure. -/
theorem clean_or_fails (h : Host) (kind : IdKind) (l : Launch) :
    h.launch (.mapper kind) l = .ok (.exited 0) ∨ ∃ fault, Fails h kind l fault := by
  cases answer : h.launch (.mapper kind) l with
  | error fault => exact Or.inr ⟨_, .unlaunched answer⟩
  | ok status =>
    obtain ⟨program, -, rfl⟩ := Host.program_of_launch answer
    rcases program.status_cases with ⟨code, ends⟩ | ⟨number, dumped, ends⟩
    · rw [ends] at answer
      by_cases zero : code = 0
      · exact Or.inl (by rw [ends, zero])
      · exact Or.inr ⟨_, .exited answer zero⟩
    · rw [ends] at answer
      exact Or.inr ⟨_, .killed answer⟩

/-! ### Replies -/

theorem map_of_launched {status : ExitStatus}
    (answer : h.launch (.mapper kind) (t.launch kind target ranges) = .ok status) :
    t.map h kind target ranges =
      { started := some (t.launch kind target ranges)
        result := (resultOf (t.tool kind) status).mapError (.mapping kind) } := by
  rw [map, answer]
  rfl

theorem map_of_unlaunched {fault : LaunchFault}
    (answer : h.launch (.mapper kind) (t.launch kind target ranges) = .error fault) :
    t.map h kind target ranges =
      { result := .error (.mapping kind (.launch (t.tool kind) fault)) } := by
  rw [map, answer]
  rfl

theorem result_of_exited
    (ended : h.launch (.mapper kind) (t.launch kind target ranges) = .ok (.exited 0)) :
    (t.map h kind target ranges).result = .ok () := by
  rw [map_of_launched ended]
  rfl

theorem result_of_fails (fails : Fails h kind (t.launch kind target ranges) fault) :
    (t.map h kind target ranges).result = .error (.mapping kind fault) := by
  cases fails with
  | unlaunched answer => rw [map_of_unlaunched answer]; rfl
  | killed ended => rw [map_of_launched ended]; rfl
  | exited ended other =>
    rw [map_of_launched ended]
    simp only [resultOf, other, if_false]
    rfl

theorem started_eq_some_iff {l : Launch} :
    (t.map h kind target ranges).started = some l ↔
      l = t.launch kind target ranges ∧ ∃ status, h.launch (.mapper kind) l = .ok status := by
  cases answer : h.launch (.mapper kind) (t.launch kind target ranges) with
  | error fault =>
    rw [map_of_unlaunched answer]
    constructor
    · intro started
      cases started
    · rintro ⟨rfl, status, launched⟩
      cases answer.symm.trans launched
  | ok status =>
    rw [map_of_launched answer]
    constructor
    · intro started
      cases started
      exact ⟨rfl, status, answer⟩
    · rintro ⟨rfl, -⟩
      rfl

theorem launch_of_tool {t' : MappingTools} (tool : t'.tool kind = t.tool kind) :
    t'.launch kind target ranges = t.launch kind target ranges := by
  rw [launch, launch, tool]

/-- A mapper starts the tool of the kind or nothing, and gives it the process and the numbers of the
ranges, in order. It succeeds just if the tool was started and has exited with zero; else it fails,
with an error that names the kind and tells what has become of the tool. Only what the host answers
to that one start matters to it: no other program does, not even the tool of the other kind. -/
theorem maps_by_tool (h : Host) (t : MappingTools) (kind : IdKind) (target : ProcessId)
    (ranges : List IdRange) :
    (∀ l, (t.map h kind target ranges).started = some l ↔
      (l.program = t.tool kind ∧
        l.arguments = (IdRange.toolArguments target ranges).map Bytes.ofString) ∧
      ∃ status, h.launch (.mapper kind) l = .ok status) ∧
    ((t.map h kind target ranges).result = .ok () ↔
      h.launch (.mapper kind) (t.launch kind target ranges) = .ok (.exited 0)) ∧
    (∀ e, (t.map h kind target ranges).result = .error e ↔
      ∃ fault, Fails h kind (t.launch kind target ranges) fault ∧ e = .mapping kind fault) ∧
    ∀ (h' : Host) (t' : MappingTools), t'.tool kind = t.tool kind →
      h'.launch (.mapper kind) (t.launch kind target ranges) =
        h.launch (.mapper kind) (t.launch kind target ranges) →
      t'.map h' kind target ranges = t.map h kind target ranges := by
  refine ⟨?_, ⟨?_, result_of_exited⟩, ?_, ?_⟩
  · intro l
    rw [started_eq_some_iff]
    refine and_congr_left fun _ => ?_
    constructor
    · rintro rfl
      exact ⟨rfl, rfl⟩
    · rintro ⟨program, arguments⟩
      cases l
      cases program
      cases arguments
      rfl
  · intro mapped
    refine (clean_or_fails h kind _).resolve_right ?_
    rintro ⟨fault, fails⟩
    cases mapped.symm.trans (result_of_fails fails)
  · intro e
    constructor
    · intro failed
      rcases clean_or_fails h kind (t.launch kind target ranges) with ended | ⟨fault, fails⟩
      · cases failed.symm.trans (result_of_exited ended)
      · exact ⟨fault, fails, Except.error.inj (failed.symm.trans (result_of_fails fails))⟩
    · rintro ⟨fault, fails, rfl⟩
      exact result_of_fails fails
  · intro h' t' tool answer
    rw [map, map, launch_of_tool tool, answer]

def halfway : Host :=
  { (Run.lone .standard .plain {}).host with
    start := fun
      | .mapper .gid, _ => .ok { ending := .killed 34, dumps := true }
      | _, _ => .ok {} }

def lonesome : Host :=
  { halfway with
    start := fun
      | .mapper .uid, _ => .ok {}
      | _, _ => .error .noEntry }

/-- User ids are mapped, whether the tool for group ids dies or there is none. -/
theorem maps_by_tool_halfway :
    (map halfway {} .uid ⟨42⟩ Run.oneOfEach.uids).result = .ok () ∧
    (map halfway {} .gid ⟨42⟩ Run.oneOfEach.gids).result =
      .error (.mapping .gid (.terminated (Bytes.ofString "newgidmap") (.killed 34 true))) ∧
    map lonesome { gidTool := [] } .uid ⟨42⟩ Run.oneOfEach.uids =
      map halfway {} .uid ⟨42⟩ Run.oneOfEach.uids := by
  obtain ⟨-, mapped, -, alone⟩ := maps_by_tool halfway {} .uid ⟨42⟩ Run.oneOfEach.uids
  obtain ⟨-, -, failed, -⟩ := maps_by_tool halfway {} .gid ⟨42⟩ Run.oneOfEach.gids
  exact ⟨mapped.mpr rfl, (failed _).mpr ⟨_, .killed rfl, rfl⟩, alone lonesome _ rfl rfl⟩

end NamespaceEntry.MappingTools
