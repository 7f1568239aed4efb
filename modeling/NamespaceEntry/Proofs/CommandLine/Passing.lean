import NamespaceEntry.Proofs.CommandLine.Reading
import NamespaceEntry.Proofs.Outcome.Endings
import NamespaceEntry.Proofs.Run.Execution
import NamespaceEntry.Proofs.Text.Utf8

/-!
# From the command line to the execution

What is written in front of `--` are ranges, and options among them, and what follows it is the
command. All of these are taken byte for byte, and the command comes to its execution unchanged.
-/

namespace NamespaceEntry.CommandLine

/-! ### Command lines -/

def toolChoice : IdKind → Choice
  | .uid => uidToolChoice
  | .gid => gidToolChoice

inductive Item where
  | range (token : String)
  /-- An option for a mapping tool, in one argument with an equals sign or in two arguments. -/
  | tool (kind : IdKind) (path : Bytes) (joined : Bool)

namespace Item

def arguments : Item → List Bytes
  | range token => [Bytes.ofString token]
  | tool kind path joined =>
    let option := Bytes.ofString ("--" ++ (toolChoice kind).name)
    if joined then [option ++ Bytes.ascii '=' :: path] else [option, path]

/-- Neither a range nor a path begins like an option, and a path is not empty. -/
def Sound : Item → Prop
  | range token => Undashed (Bytes.ofString token)
  | tool _ path _ => path ≠ [] ∧ Undashed path

instance : DecidablePred Item.Sound
  | range token => inferInstanceAs (Decidable (Undashed (Bytes.ofString token)))
  | tool _ path _ => inferInstanceAs (Decidable (path ≠ [] ∧ Undashed path))

def range? : Item → Option String
  | range token => some token
  | tool .. => none

def option? : Item → Option (String × Bytes)
  | range _ => none
  | tool kind path _ => some ((toolChoice kind).name, path)

end Item

def ranges (items : List Item) : List String := items.filterMap Item.range?

def options (items : List Item) : List (String × Bytes) := items.filterMap Item.option?

structure Sound (items : List Item) : Prop where
  each : ∀ i ∈ items, i.Sound
  some : ranges items ≠ []
  once : ((options items).map Prod.fst).Nodup

def usernsexecLine (items : List Item) (command : List Bytes) : List Bytes :=
  Bytes.ofString "usernsexec" :: (items.flatMap Item.arguments ++ escape :: command)

def nsexecLine (command : List Bytes) : List Bytes :=
  Bytes.ofString "nsexec" :: escape :: command

def LeftEmpty (environment : List (String × Bytes)) (items : List Item) : Prop :=
  ∃ kind, (options items).lookup (toolChoice kind).name = none ∧
    environment.lookup (toolChoice kind).environmentName = some []

/-- The path of a mapping tool: the given one, else that of its variable, else its name. -/
def toolPath (environment : List (String × Bytes)) (items : List Item) (kind : IdKind) : Bytes :=
  let choice := toolChoice kind
  ((options items).lookup choice.name <|> environment.lookup choice.environmentName).getD
    choice.fallback

open Level (Adds)

variable {environment : List (String × Bytes)} {items : List Item} {command : List Bytes}
  {m : Matched}

/-! ### Reading items -/

def Item.values (i : Item) : List (String × Bytes) :=
  (i.range?.map fun token => (rangesSlot.name, Bytes.ofString token)).toList

theorem toolChoice_known (kind : IdKind) : (usernsexecLevel.choices.find? fun c =>
    Bytes.ofString c.name = Bytes.ofString (toolChoice kind).name) = some (toolChoice kind) := by
  cases kind <;> decide +kernel

theorem toolChoice_flagless (kind : IdKind) (value : Option Bytes) :
    Level.takeFlag? false m (Bytes.ofString (toolChoice kind).name) value = none := by
  apply Level.takeFlag?_eq_none <;> cases kind <;> decide +kernel

theorem shapeOf_bare (kind : IdKind) : shapeOf (Bytes.ofString ("--" ++ (toolChoice kind).name)) =
    .long (Bytes.ofString (toolChoice kind).name) none := by
  cases kind <;> decide +kernel

theorem shapeOf_joined (kind : IdKind) (path : Bytes) :
    shapeOf (Bytes.ofString ("--" ++ (toolChoice kind).name) ++ Bytes.ascii '=' :: path) =
      .long (Bytes.ofString (toolChoice kind).name) (some path) := by
  cases kind <;> rfl

/-- An item adds its range to the arguments or its path to the options. -/
theorem foldlM_item {i : Item} (sound : i.Sound) (fine : m.Fine) (before : m.escaped = false)
    (first : m.filled = 0) (new : ∀ o ∈ i.option?, o.1 ∉ m.whole.options.map Prod.fst) :
    ∃ t, i.arguments.foldlM usernsexecLevel.step m = .ok t ∧
      Adds m i.option?.toList i.values t := by
  cases i with
  | range token =>
    have here : usernsexecLevel.slotFor? m = some rangesSlot := by
      simp [Level.slotFor?, before, first, usernsexecLevel]
    have right : rangesSlot.kind.check (Bytes.ofString token) = .ok () := by
      simp [rangesSlot, ValueKind.check]
    obtain ⟨t, taken, adds⟩ := Level.takePlain_adds fine here rfl right
    refine ⟨t, ?_, adds⟩
    rw [Item.arguments, List.foldlM_cons, Level.step_undashed fine before sound, taken]
    rfl
  | tool kind path joined =>
    obtain ⟨more, undashed⟩ := sound
    have unread : (toolChoice kind).name ∉ m.whole.options.map Prod.fst := new _ rfl
    cases joined with
    | true =>
      obtain ⟨t, taken, adds⟩ := Level.takeLong_value (l := usernsexecLevel) fine
        (toolChoice_flagless kind (some path)) (toolChoice_known kind) unread more
      refine ⟨t, ?_, adds⟩
      rw [Item.arguments, if_pos rfl, List.foldlM_cons, Level.step, before, shapeOf_joined]
      simp only [Bool.false_eq_true, if_false, taken]
      rfl
    | false =>
      obtain ⟨t, taken, adds⟩ := Level.takeLong_bare (l := usernsexecLevel) fine before
        (toolChoice_flagless kind none) (toolChoice_known kind) unread more undashed
      refine ⟨t, ?_, adds⟩
      rw [Item.arguments, if_neg Bool.false_ne_true, List.foldlM_cons, Level.step, before,
        shapeOf_bare]
      simp only [Bool.false_eq_true, if_false, List.foldlM_cons, List.foldlM_nil, bind_pure]
      exact taken

theorem options_cons (i : Item) (items : List Item) :
    options (i :: items) = i.option?.toList ++ options items := by
  cases i <;> rfl

theorem foldlM_items (sound : ∀ i ∈ items, i.Sound) (fine : m.Fine) (before : m.escaped = false)
    (first : m.filled = 0)
    (once : ((m.whole.options ++ options items).map Prod.fst).Nodup) :
    ∃ t, (items.flatMap Item.arguments).foldlM usernsexecLevel.step m = .ok t ∧
      Adds m (options items) (items.flatMap Item.values) t := by
  -- What is left of the options shrinks as what has been read of them grows.
  induction items generalizing m with
  | nil => exact ⟨m, rfl, Level.adds_nothing fine⟩
  | cons i rest ih =>
    obtain ⟨good, others⟩ := List.forall_mem_cons.mp sound
    rw [options_cons, ← List.append_assoc] at once
    have new : ∀ o ∈ i.option?, o.1 ∉ m.whole.options.map Prod.fst := by
      intro o here member
      have apart := (List.nodup_append.mp (List.map_append ▸ once)).1
      rw [here] at apart
      simp only [Option.toList, List.map_append, List.nodup_append] at apart
      exact apart.2.2 _ member _ (List.mem_singleton_self _) rfl
    obtain ⟨t, taken, adds⟩ := foldlM_item good fine before first new
    have later : ((t.whole.options ++ options rest).map Prod.fst).Nodup := by
      rw [adds.whole]
      exact once
    obtain ⟨u, further, more⟩ := ih others adds.fine (adds.escaped.trans before)
      (adds.filled.trans first) later
    refine ⟨u, ?_, options_cons i rest ▸ adds.trans more⟩
    rw [List.flatMap_cons, List.foldlM_append, taken]
    exact further

def matched (items : List Item) (command : List Bytes) : Matched where
  options := options items
  arguments := items.flatMap Item.values ++ command.map fun v => (commandSlot.name, v)
  escaped := true

theorem fine_nothing : ({} : Matched).Fine := ⟨trivial, List.nodup_nil⟩

theorem foldlM_line (sound : Sound items) (command : List Bytes) : ∃ t,
    (items.flatMap Item.arguments ++ escape :: command).foldlM usernsexecLevel.step {} = .ok t ∧
      t.settle = .ok (matched items command) := by
  obtain ⟨t, taken, adds⟩ := foldlM_items sound.each fine_nothing rfl rfl sound.once
  obtain ⟨u, further, settled⟩ := Level.settle_escaped (l := usernsexecLevel) adds.fine
    adds.escaped rfl rfl rfl command
  refine ⟨u, ?_, ?_⟩
  · rw [List.foldlM_append, taken]
    exact further
  · rw [settled, adds.whole]
    simp [matched, Matched.whole, Pending.options, Pending.arguments]

/-! ### What has been read -/

theorem values_eq (items : List Item) : items.flatMap Item.values =
    ((ranges items).map Bytes.ofString).map fun v => (rangesSlot.name, v) := by
  induction items with
  | nil => rfl
  | cons i rest ih =>
    rw [List.flatMap_cons, ih]
    cases i <;> rfl

theorem values_matched (items : List Item) (command : List Bytes) :
    (matched items command).values rangesSlot = (ranges items).map Bytes.ofString ∧
      (matched items command).values commandSlot = command := by
  have apart : rangesSlot.name ≠ commandSlot.name := by decide
  simp only [Matched.values, matched, values_eq, List.filter_append, List.map_append,
    Level.values_map, apart, apart.symm, if_true, if_false, List.append_nil, List.nil_append,
    and_self]

theorem choice_of_completes {kind : IdKind} {o : List (String × Bytes)}
    (completes : Level.Completes environment usernsexecLevel.choices (matched items command) o) :
    ({ matched items command with options := o } : Matched).choice (toolChoice kind) =
      toolPath environment items kind := by
  have listed := completes.listed (toolChoice kind) (by cases kind <;> decide +kernel)
  rw [Matched.choice, listed]
  rfl

theorem leftEmpty_iff : LeftEmpty environment items ↔
    ∃ c ∈ usernsexecLevel.choices, Level.Vacant environment (matched items command) c := by
  constructor
  · rintro ⟨kind, none, empty⟩
    exact ⟨toolChoice kind, by cases kind <;> decide +kernel, none, empty⟩
  · rintro ⟨c, member, none, empty⟩
    rcases List.mem_cons.mp member with rfl | member
    · exact ⟨.uid, none, empty⟩
    · obtain rfl := List.mem_singleton.mp member
      exact ⟨.gid, none, empty⟩

variable (environment) in
/-- The ranges, the paths and the command are read as they are written, unless a variable that has
to stand for an option is empty. -/
theorem read_usernsexecLine (sound : Sound items) (more : command ≠ []) :
    (LeftEmpty environment items →
      read environment (usernsexecLine items command) = .error .invalidValue) ∧
    (¬LeftEmpty environment items → read environment (usernsexecLine items command) =
      .ok ⟨false, .usernsexec ⟨toolPath environment items .uid, toolPath environment items .gid⟩
        (ranges items) command⟩) := by
  obtain ⟨t, taken, settled⟩ := foldlM_line sound command
  have distinct : (usernsexecLevel.choices.map Choice.name).Nodup := by decide
  obtain ⟨refused, filled⟩ := Level.foldlM_fromEnvironment environment
    (m := matched items command) distinct
  have begins : read environment (usernsexecLine items command) = (do
      let m ← usernsexecLevel.read environment (items.flatMap Item.arguments ++ escape :: command)
      return ⟨m.verbose, usernsexecOf m⟩ : Except UsageFault Parsed) := rfl
  rw [begins]
  constructor
  · intro empty
    rw [Level.read_eq_error taken settled (refused (leftEmpty_iff.mp empty))]
    rfl
  · intro full
    obtain ⟨o, done, completes⟩ := filled fun c member vacant =>
      full (leftEmpty_iff.mpr ⟨c, member, vacant⟩)
    obtain ⟨written, passed⟩ := values_matched items command
    have present : ∀ s ∈ usernsexecLevel.slots ++ usernsexecLevel.trailing.toList,
        ({ matched items command with options := o } : Matched).values s ≠ [] := by
      refine List.forall_mem_cons.mpr ⟨fun none => ?_, List.forall_mem_singleton.mpr fun none => ?_⟩
      · exact sound.some (List.map_eq_nil_iff.mp (written.symm.trans none))
      · exact more (passed.symm.trans none)
    have texts : ((ranges items).map Bytes.ofString).map Utf8.lossy = ranges items := by
      simp [Function.comp_def]
    rw [Level.read_eq_ok taken settled done present, ← choice_of_completes completes,
      ← choice_of_completes completes]
    show Except.ok (Parsed.mk false (.usernsexec _
      (((matched items command).values rangesSlot).map Utf8.lossy)
      ((matched items command).values commandSlot))) = _
    rw [written, passed, texts]
    rfl

theorem read_nsexecLine (more : command ≠ []) :
    read environment (nsexecLine command) = .ok ⟨false, .nsexec command⟩ := by
  obtain ⟨t, taken, settled⟩ := Level.settle_escaped (l := nsexecLevel) fine_nothing rfl rfl rfl rfl
    command
  have passed : (matched [] command).values commandSlot = command := (values_matched [] command).2
  have begins : read environment (nsexecLine command) = (do
      let m ← nsexecLevel.read environment (escape :: command)
      return ⟨m.verbose, nsexecOf m⟩ : Except UsageFault Parsed) := rfl
  have present : ∀ s ∈ nsexecLevel.slots ++ nsexecLevel.trailing.toList,
      (matched [] command).values s ≠ [] :=
    List.forall_mem_cons.mpr ⟨passed.symm ▸ more, nofun⟩
  rw [begins, Level.read_eq_ok taken settled rfl present]
  show Except.ok (Parsed.mk false (.nsexec ((matched [] command).values commandSlot))) = _
  rw [passed]

theorem toolPath_of_mem (sound : Sound items) {kind : IdKind} {path : Bytes} {joined : Bool}
    (given : .tool kind path joined ∈ items) : toolPath environment items kind = path := by
  have listed : ((toolChoice kind).name, path) ∈ options items :=
    List.mem_filterMap.mpr ⟨_, given, rfl⟩
  have found : (options items).lookup (toolChoice kind).name = some path := by
    obtain ⟨front, back, split⟩ := List.append_of_mem listed
    refine List.lookup_eq_some_iff.mpr ⟨front, back, split, fun p member => ?_⟩
    have once := sound.once
    rw [split, List.map_append, List.nodup_append] at once
    have apart : p.1 ≠ (toolChoice kind).name :=
      once.2.2 p.1 (List.mem_map_of_mem member) _ List.mem_cons_self
    simpa using apart.symm
  rw [toolPath, found]
  rfl

/-! ### Executing -/

structure Executable (command : List Bytes) : Prop where
  more : command ≠ []
  named : command.head? ≠ some []
  no_nul : ∀ a ∈ command, Bytes.nul ∉ a

theorem make_of_executable (executable : Executable command) :
    ∃ c, Command.make command = .ok c ∧ c.argv = command := by
  obtain ⟨more, named, clean⟩ := executable
  cases command with
  | nil => exact absurd rfl more
  | cons program arguments =>
    have unfound : Command.firstNul? (program :: arguments) = none := by
      refine List.findSome?_eq_none_iff.mpr fun a member => Option.map_eq_none_iff.mpr ?_
      refine List.findIdx?_eq_none_iff.mpr fun b byte => beq_false_of_ne ?_
      rintro rfl
      exact clean a member byte
    have written : program ≠ [] := fun empty => named (congrArg some empty)
    rw [Command.make]
    split
    · rename_i found
      cases unfound.symm.trans found
    · exact ⟨_, dif_neg written, rfl⟩

/-- The invocations that a command line with the command can come to. -/
def Runs (command : List Bytes) (i : Invocation) : Prop :=
  i = .nsexec command ∨ ∃ tools tokens, i = .usernsexec tools tokens command

theorem command_of_asked {i : Invocation} {h : Host} {id : ProcessId} {w : Run.Setting}
    {c : Command} (made : Command.make command = .ok c) (runs : Runs command i)
    (asks : i.asked? h id = some w) : w.command = c := by
  rcases runs with rfl | ⟨tools, tokens, rfl⟩
  · simp only [Invocation.asked?, made, Except.toOption, Option.map_some, Option.some.injEq] at asks
    exact asks ▸ rfl
  · obtain ⟨mapping, -, asks⟩ := Option.bind_eq_some_iff.mp asks
    simp only [made, Except.toOption, Option.map_some, Option.some.injEq] at asks
    exact asks ▸ rfl

/-- Ranges, paths of mapping tools and commands come through the command line as they are written,
whatever is in the command, and wherever the options stand among the ranges. Only an option that is
not given and whose variable is empty has the command line refused. In every run of the command,
in every order of its steps, it is tried just with the arguments that were written, and looked up by
the first of them. -/
theorem passed_unchanged (environment : List (String × Bytes)) {items : List Item}
    {command : List Bytes} (sound : Sound items) (executable : Executable command) :
    ((¬LeftEmpty environment items → read environment (usernsexecLine items command) =
        .ok ⟨false, .usernsexec ⟨toolPath environment items .uid, toolPath environment items .gid⟩
          (ranges items) command⟩) ∧
      (LeftEmpty environment items →
        read environment (usernsexecLine items command) = .error .invalidValue) ∧
      ∀ kind path joined, .tool kind path joined ∈ items →
        toolPath environment items kind = path) ∧
    read environment (nsexecLine command) = .ok ⟨false, .nsexec command⟩ ∧
    ∃ c, Command.make command = .ok c ∧ c.argv = command ∧
      (∀ (w : Run.Setting) s, w.command = c → Run.Reachable w s →
        Run.Executes w.host command s.trace) ∧
      ∀ h id i w, Runs command i → i.asked? h id = some w → w.host = h ∧ w.command = c := by
  obtain ⟨refused, accepted⟩ := read_usernsexecLine environment sound executable.more
  refine ⟨⟨accepted, refused, fun _ _ _ given => toolPath_of_mem sound given⟩,
    read_nsexecLine executable.more, ?_⟩
  obtain ⟨c, made, rfl⟩ := make_of_executable executable
  refine ⟨c, made, rfl, ?_, ?_⟩
  · rintro w s rfl reached
    exact Run.executes reached
  · intro h id i w runs asks
    exact ⟨Invocation.host_of_asked asks, command_of_asked made runs asks⟩

/-- Options among the ranges, and a command with arguments that look like options or are no text. -/
def trickyItems : List Item :=
  [.range "u", .tool .gid (Bytes.ofString "a=b") true, .range "0", .range "100000",
    .tool .uid (Bytes.ofString "newuidmap") false, .range "65536"]

def trickyCommand : List Bytes :=
  ["task", "--", "-v", "--newuidmap", "--", ""].map Bytes.ofString ++ [[0xff, 0x2d]]

theorem passed_unchanged_tricky :
    read [("NSGATE_NEWUIDMAP", [])] (usernsexecLine trickyItems trickyCommand) =
      .ok ⟨false, .usernsexec ⟨Bytes.ofString "newuidmap", Bytes.ofString "a=b"⟩
        ["u", "0", "100000", "65536"] trickyCommand⟩ ∧
    .commandStarted ⟨Bytes.ofString "task", trickyCommand.tail⟩ true ∈
      (conclude (taskHost {}) ⟨7⟩ [] (usernsexecLine trickyItems trickyCommand)).trace := by
  have sound : Sound trickyItems := ⟨by decide, by decide, by decide⟩
  have executable : Executable trickyCommand := ⟨by decide, by decide, by decide⟩
  have filled : ¬LeftEmpty [("NSGATE_NEWUIDMAP", [])] trickyItems := by
    rintro ⟨kind, ungiven, -⟩
    cases kind <;> cases ungiven
  exact ⟨(passed_unchanged _ sound executable).1.1 filled, by decide +kernel⟩

def halfItems : List Item :=
  [.tool .uid (Bytes.ofString "/t") false, .range "u", .range "0", .range "1", .range "1"]

/-- A variable that is empty is in the way of ranges, options and a command that are all right. -/
theorem not_passed_half : Sound halfItems ∧ Executable [Bytes.ofString "id"] ∧
    ¬∃ parsed, read [("NSGATE_NEWGIDMAP", [])] (usernsexecLine halfItems [Bytes.ofString "id"]) =
      .ok parsed := by
  refine ⟨⟨by decide, by decide, by decide⟩, ⟨by decide, by decide, by decide⟩, ?_⟩
  rintro ⟨parsed, accepted⟩
  cases accepted

end NamespaceEntry.CommandLine
