import NamespaceEntry.Executor
import NamespaceEntry.Proofs.CommandLine.Passing
import NamespaceEntry.Proofs.Id.Ranges

/-!
# Argument vectors

An argument vector is taken as a command just as it is, or it is refused. `ofArgv_exact` says which
vectors are refused, and what for: the first NUL byte of the first argument that holds one goes
before a program that is missing.
-/

namespace NamespaceEntry

/-! ### NUL bytes -/

namespace Bytes

def NulAt (bytes : Bytes) (position : Nat) : Prop :=
  bytes[position]? = some nul ∧ ∀ earlier < position, bytes[earlier]? ≠ some nul

theorem nulPosition?_eq_none_iff {bytes : Bytes} : bytes.nulPosition? = none ↔ nul ∉ bytes := by
  rw [nulPosition?, List.findIdx?_eq_none_iff]
  constructor
  · intro others member
    exact absurd (others nul member) (by decide)
  · intro clean b member
    exact beq_false_of_ne fun same => clean (same ▸ member)

theorem isSome_nulPosition?_iff {bytes : Bytes} : bytes.nulPosition?.isSome ↔ nul ∈ bytes := by
  rw [Option.isSome_iff_ne_none, ne_eq, nulPosition?_eq_none_iff, Classical.not_not]

theorem nulPosition?_eq_some_iff {bytes : Bytes} {position : Nat} :
    bytes.nulPosition? = some position ↔ bytes.NulAt position := by
  rw [nulPosition?, List.findIdx?_eq_some_iff_getElem]
  simp only [beq_iff_eq]
  constructor
  · rintro ⟨within, here, others⟩
    refine ⟨List.getElem?_eq_some_iff.mpr ⟨within, here⟩, ?_⟩
    intro earlier before there
    exact others earlier before (List.getElem?_eq_some_iff.mp there).2
  · rintro ⟨here, others⟩
    obtain ⟨within, here⟩ := List.getElem?_eq_some_iff.mp here
    refine ⟨within, here, ?_⟩
    intro earlier before there
    exact others earlier before (List.getElem?_eq_some_iff.mpr ⟨by omega, there⟩)

end Bytes

/-! ### Making a command -/

namespace Command

open CommandLine (Executable)

variable {argv : List Bytes} {argument : Bytes} {position : Nat} {c : Command} {e : Error}

/-- The first argument that holds a NUL byte, and where its first NUL byte stands. -/
def FirstNul (argv : List Bytes) (argument : Bytes) (position : Nat) : Prop :=
  ∃ before after, argv = before ++ argument :: after ∧ (∀ a ∈ before, Bytes.nul ∉ a) ∧
    argument.NulAt position

def Unnamed (argv : List Bytes) : Prop :=
  argv = [] ∨ argv.head? = some []

theorem firstNul?_eq_none_iff : firstNul? argv = none ↔ ∀ a ∈ argv, Bytes.nul ∉ a := by
  simp only [firstNul?, List.findSome?_eq_none_iff, Option.map_eq_none_iff,
    Bytes.nulPosition?_eq_none_iff]

theorem firstNul?_eq_some_iff :
    firstNul? argv = some (argument, position) ↔ FirstNul argv argument position := by
  simp only [firstNul?, List.findSome?_eq_some_iff, Option.map_eq_some_iff,
    Option.map_eq_none_iff, Bytes.nulPosition?_eq_none_iff, Bytes.nulPosition?_eq_some_iff,
    Prod.mk.injEq]
  constructor
  · rintro ⟨before, a, after, same, ⟨p, here, rfl, rfl⟩, clean⟩
    exact ⟨before, after, same, clean, here⟩
  · rintro ⟨before, after, same, clean, here⟩
    exact ⟨before, argument, after, same, ⟨position, here, rfl, rfl⟩, clean⟩

theorem make_of_nul (first : FirstNul argv argument position) :
    make argv = .error (.nul argument position) := by
  have found := firstNul?_eq_some_iff.mpr first
  cases argv with
  | nil => cases found
  | cons program arguments =>
    rw [make]
    split
    · rename_i argument' position' found'
      cases found'.symm.trans found
      rfl
    · rename_i unfound
      cases unfound.symm.trans found

theorem make_of_unnamed (clean : ∀ a ∈ argv, Bytes.nul ∉ a) (unnamed : Unnamed argv) :
    make argv = .error .empty := by
  have unfound := firstNul?_eq_none_iff.mpr clean
  cases argv with
  | nil => rfl
  | cons program arguments =>
    obtain rfl : program = [] := by simpa [Unnamed] using unnamed
    rw [make]
    split
    · rename_i found
      cases unfound.symm.trans found
    · rw [dif_pos rfl]

theorem argv_of_make (made : make argv = .ok c) : c.argv = argv := by
  cases argv with
  | nil => cases made
  | cons program arguments =>
    rw [make] at made
    split at made
    · cases made
    · split at made
      · cases made
      · cases made
        rfl

/-! ### What an argument vector comes to -/

/-- The command of an argument vector. What is no command is a fault of the configuration. -/
def ofArgv (argv : List Bytes) : Except Error Command :=
  (make argv).mapError fun fault => .invalidConfig (.command fault)

/-- An executor takes the argument vectors that make a command, and refuses the others with just
the error that is made of them. -/
theorem execute_eq (x : Executor) (h : Host) (id : ProcessId) (argv : List Bytes) :
    x.execute h id argv = match ofArgv argv with
      | .error e => { result := some (.error e) }
      | .ok command => x.run h id command := by
  rw [Executor.execute, ofArgv]
  cases make argv <;> rfl

theorem runArguments_eq (h : Host) (id : ProcessId) (isolation : Isolation) (mapper : Mapper)
    (argv : List Bytes) :
    Invocation.runArguments h id isolation mapper argv = match ofArgv argv with
      | .error e => Invocation.refused .checkCommand e
      | .ok command => Invocation.runCommand (.ofIsolation h id isolation mapper command) := by
  rw [Invocation.runArguments, ofArgv]
  cases make argv <;> rfl

/-- Why an argument vector is refused: for its first NUL byte, even if it has no program, or else
for the program. -/
def Refused (argv : List Bytes) (e : Error) : Prop :=
  (∃ argument position, FirstNul argv argument position ∧
    e = .invalidConfig (.command (.nul argument position))) ∨
  (∀ a ∈ argv, Bytes.nul ∉ a) ∧ Unnamed argv ∧ e = .invalidConfig (.command .empty)

theorem ofArgv_of_refused (refused : Refused argv e) : ofArgv argv = .error e := by
  rw [ofArgv]
  rcases refused with ⟨argument, position, first, rfl⟩ | ⟨clean, unnamed, rfl⟩
  · rw [make_of_nul first]
    rfl
  · rw [make_of_unnamed clean unnamed]
    rfl

/-- There is nothing between the argument vectors that are refused and those that can be
executed. -/
theorem refused_or_executable (argv : List Bytes) : (∃ e, Refused argv e) ∨ Executable argv := by
  cases found : firstNul? argv with
  | some first => exact Or.inl ⟨_, Or.inl ⟨_, _, firstNul?_eq_some_iff.mp found, rfl⟩⟩
  | none =>
    have clean := firstNul?_eq_none_iff.mp found
    by_cases unnamed : Unnamed argv
    · exact Or.inl ⟨_, Or.inr ⟨clean, unnamed, rfl⟩⟩
    · exact Or.inr ⟨fun none => unnamed (Or.inl none), fun empty => unnamed (Or.inr empty), clean⟩

theorem ofArgv_of_executable (executable : Executable argv) :
    ∃ c, ofArgv argv = .ok c ∧ c.argv = argv := by
  obtain ⟨c, made, same⟩ := CommandLine.make_of_executable executable
  exact ⟨c, by rw [ofArgv, made]; rfl, same⟩

theorem not_refused_of_ok (taken : ofArgv argv = .ok c) : ¬Refused argv e := by
  intro refused
  cases taken.symm.trans (ofArgv_of_refused refused)

/-- Just the argument vectors that can be executed make a command, and the command is the vector:
its program is the first argument, and its arguments are what they were, byte for byte. All others
are refused as faults of the configuration, for the first argument with a NUL byte or else for want
of a program, and the error says so. -/
theorem ofArgv_exact (argv : List Bytes) :
    ((∃ c, ofArgv argv = .ok c) ↔ Executable argv) ∧
    (∀ c, ofArgv argv = .ok c → c.argv = argv ∧ argv.head? = some c.program) ∧
    (∀ e, ofArgv argv = .error e ↔ Refused argv e) ∧
    Error.message (.invalidConfig (.command .empty)) =
      "Invalid configuration: Command cannot be empty" ∧
    ∀ argument position, Error.message (.invalidConfig (.command (.nul argument position))) =
      "Invalid configuration: " ++ ("Invalid argument " ++ Quoted.ofBytes argument ++
        ": nul byte found in provided data at position: " ++ toString position) := by
  refine ⟨⟨?_, ?_⟩, ?_, fun e => ⟨?_, ofArgv_of_refused⟩, rfl, fun _ _ => rfl⟩
  · rintro ⟨c, taken⟩
    refine (refused_or_executable argv).resolve_left ?_
    rintro ⟨e, refused⟩
    exact not_refused_of_ok taken refused
  · intro executable
    obtain ⟨c, taken, -⟩ := ofArgv_of_executable executable
    exact ⟨c, taken⟩
  · intro c taken
    have same := argv_of_make (mapError_eq_ok.mp taken)
    exact ⟨same, same ▸ rfl⟩
  · intro failed
    rcases refused_or_executable argv with ⟨e', refused⟩ | executable
    · obtain rfl := Except.error.inj (failed.symm.trans (ofArgv_of_refused refused))
      exact refused
    · obtain ⟨c, taken, -⟩ := ofArgv_of_executable executable
      cases failed.symm.trans taken

def faultyVector : List Bytes := [[], [0x2d, 0, 0x78, 0], [0]]

def roughVector : List Bytes := [[0x66, 0xff], []]

theorem ofArgv_exact_faulty :
    ofArgv faultyVector = .error (.invalidConfig (.command (.nul [0x2d, 0, 0x78, 0] 1))) ∧
    ∃ c, ofArgv roughVector = .ok c ∧ c.argv = roughVector ∧ c.program = [0x66, 0xff] := by
  have nul : Bytes.NulAt [0x2d, 0, 0x78, 0] 1 := ⟨rfl, by decide⟩
  have first : FirstNul faultyVector [0x2d, 0, 0x78, 0] 1 := ⟨[[]], [[0]], rfl, by decide, nul⟩
  obtain ⟨-, -, refuses, -⟩ := ofArgv_exact faultyVector
  obtain ⟨takes, keeps, -⟩ := ofArgv_exact roughVector
  obtain ⟨c, taken⟩ := takes.mpr ⟨by decide, by decide, by decide⟩
  obtain ⟨same, program⟩ := keeps c taken
  exact ⟨(refuses _).mpr (Or.inl ⟨_, _, first, rfl⟩), c, taken, same,
    (Option.some.inj program).symm⟩

end Command

end NamespaceEntry
