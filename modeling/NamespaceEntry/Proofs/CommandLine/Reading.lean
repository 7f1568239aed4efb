import NamespaceEntry.CommandLine.Basic

/-!
# How a level is read

What has been read of a level is recorded or pending. `Matched.whole` puts the two together: it is
what a state stands for, and every argument adds to it what it says, whatever is pending.
-/

namespace NamespaceEntry.CommandLine

/-! ### What is pending -/

def Pending.options : Pending → List (String × Bytes)
  | .choice c value => [(c.name, value)]
  | _ => []

def Pending.arguments : Pending → List (String × Bytes)
  | .slot s values => values.map fun v => (s.name, v)
  | _ => []

def Pending.Settles : Pending → Prop
  | .none => True
  | .bare _ => False
  | .choice _ value => value ≠ []
  | .slot s values => ∀ v ∈ values, s.kind.check v = .ok ()

namespace Matched

variable {m : Matched} {c : Choice} {value : Bytes}

def whole (m : Matched) : Matched :=
  { m with
    options := m.options ++ m.pending.options
    arguments := m.arguments ++ m.pending.arguments
    pending := .none }

/-- All that is pending is right, and no option has been read twice. -/
structure Fine (m : Matched) : Prop where
  settles : m.pending.Settles
  once : (m.whole.options.map Prod.fst).Nodup

theorem lookup_eq_none {options : List (String × Bytes)} {name : String} :
    options.lookup name = none ↔ name ∉ options.map Prod.fst := by
  rw [List.lookup_eq_none_iff, List.mem_map]
  constructor
  · rintro none ⟨p, member, rfl⟩
    simpa using none p member
  · intro none p member
    have other : name ≠ p.1 := fun same => none ⟨p, member, same.symm⟩
    simpa using other

theorem addChoice_eq_ok (new : c.name ∉ m.options.map Prod.fst) (some : value ≠ []) :
    m.addChoice c value = .ok { m with options := m.options ++ [(c.name, value)] } := by
  have right : ValueKind.path.check value = .ok () := by simp [ValueKind.check, some]
  rw [addChoice, lookup_eq_none.mpr new, right]
  rfl

theorem forM_check {kind : ValueKind} {values : List Bytes}
    (all : ∀ v ∈ values, kind.check v = .ok ()) : values.forM kind.check = .ok () := by
  induction values with
  | nil => rfl
  | cons v rest ih =>
    obtain ⟨first, others⟩ := List.forall_mem_cons.mp all
    rw [List.forM, first]
    exact ih others

theorem settle_eq_ok (fine : m.Fine) : m.settle = .ok m.whole := by
  obtain ⟨settles, once⟩ := fine
  obtain ⟨verbose, options, arguments, pending, escaped, filled⟩ := m
  cases pending with
  | none => simp [settle, whole, Pending.options, Pending.arguments]
  | bare c => cases settles
  | choice c value =>
    have new : c.name ∉ options.map Prod.fst := by
      simp only [whole, Pending.options, List.map_append, List.nodup_append] at once
      intro member
      exact once.2.2 _ member _ (List.mem_singleton_self _) rfl
    simp only [settle]
    rw [addChoice_eq_ok new settles]
    simp [whole, Pending.options, Pending.arguments]
  | slot s values =>
    simp only [settle]
    rw [forM_check settles]
    simp [whole, Pending.options, Pending.arguments, bind, Except.bind, pure, Except.pure]

end Matched

/-! ### Arguments -/

def Undashed (arg : Bytes) : Prop := arg.head? ≠ some (Bytes.ascii '-')

instance (arg : Bytes) : Decidable (Undashed arg) :=
  inferInstanceAs (Decidable (arg.head? ≠ some (Bytes.ascii '-')))

theorem shapeOf_undashed {arg : Bytes} (undashed : Undashed arg) : shapeOf arg = .plain := by
  unfold shapeOf
  split
  · rename_i a b rest
    have other : a ≠ Bytes.ascii '-' := fun same => undashed (congrArg some same)
    simp [other]
  · rfl

namespace Level

variable {l : Level} {m t u : Matched} {c : Choice} {s : Slot} {arg value name : Bytes}
  {args : List Bytes}

/-- A state stands for what another one does, and for more options and arguments. -/
structure Adds (m : Matched) (options arguments : List (String × Bytes)) (t : Matched) : Prop where
  fine : t.Fine
  whole : t.whole =
    { m.whole with
      options := m.whole.options ++ options
      arguments := m.whole.arguments ++ arguments }

variable {options arguments : List (String × Bytes)}

theorem Adds.escaped (adds : Adds m options arguments t) : t.escaped = m.escaped :=
  (congrArg Matched.escaped adds.whole :)

theorem Adds.filled (adds : Adds m options arguments t) : t.filled = m.filled :=
  (congrArg Matched.filled adds.whole :)

theorem adds_nothing (fine : m.Fine) : Adds m [] [] m := ⟨fine, by simp⟩

theorem Adds.trans {more others : List (String × Bytes)} (first : Adds m options arguments t)
    (second : Adds t more others u) : Adds m (options ++ more) (arguments ++ others) u := by
  refine ⟨second.fine, ?_⟩
  rw [second.whole, first.whole]
  simp

/-! ### Arguments by position -/

theorem begins_adds (fine : m.Fine) (right : s.kind.check arg = .ok ()) :
    ∃ t, (do return { (← m.settle) with pending := .slot s [arg] } : Except UsageFault Matched) =
      .ok t ∧ Adds m [] [(s.name, arg)] t := by
  refine ⟨_, by rw [Matched.settle_eq_ok fine]; rfl, ⟨?_, ?_⟩, ?_⟩
  · simpa [Pending.Settles] using right
  · simpa [Matched.whole, Pending.options] using fine.once
  · simp [Matched.whole, Pending.options, Pending.arguments]

theorem takePlain_adds (fine : m.Fine) (here : l.slotFor? m = some s) (many : s.many = true)
    (right : s.kind.check arg = .ok ()) :
    ∃ t, l.takePlain m arg = .ok t ∧ Adds m [] [(s.name, arg)] t := by
  simp only [takePlain, here, many, if_true, and_true]
  split
  · rename_i other values pending
    split
    · rename_i same
      obtain rfl := same
      refine ⟨_, rfl, ⟨?_, ?_⟩, ?_⟩
      · have settles := fine.settles
        rw [pending] at settles
        exact List.forall_mem_append.mpr ⟨settles, by simpa using right⟩
      · simpa [Matched.whole, pending, Pending.options] using fine.once
      · simp [Matched.whole, pending, Pending.options, Pending.arguments]
    · exact begins_adds fine right
  · exact begins_adds fine right

theorem step_undashed (fine : m.Fine) (before : m.escaped = false) (undashed : Undashed arg) :
    l.step m arg = l.takePlain m arg := by
  rw [step, before, shapeOf_undashed undashed]
  cases pending : m.pending with
  | bare c =>
    have settles := fine.settles
    rw [pending] at settles
    cases settles
  | _ => simp

/-- After `--` every argument is taken as it is, also one that looks like an option. -/
theorem foldlM_escaped (fine : m.Fine) (escaped : m.escaped = true) (last : l.trailing = some s)
    (many : s.many = true) (any : s.kind = .bytes) (args : List Bytes) :
    ∃ t, args.foldlM l.step m = .ok t ∧ Adds m [] (args.map fun v => (s.name, v)) t := by
  induction args generalizing m with
  | nil => exact ⟨m, rfl, adds_nothing fine⟩
  | cons arg rest ih =>
    have here : l.slotFor? m = some s := by simp [slotFor?, escaped, last]
    have right : s.kind.check arg = .ok () := by rw [any]; rfl
    obtain ⟨t, taken, first⟩ := takePlain_adds fine here many right
    obtain ⟨u, others, later⟩ := ih first.fine (first.escaped.trans escaped)
    refine ⟨u, ?_, first.trans later⟩
    rw [List.foldlM_cons, step, if_pos escaped, taken]
    exact others

/-- What follows `--` is what it says and no more, and then all that was read is settled. -/
theorem settle_escaped (fine : m.Fine) (before : m.escaped = false) (last : l.trailing = some s)
    (many : s.many = true) (any : s.kind = .bytes) (args : List Bytes) :
    ∃ t, (escape :: args).foldlM l.step m = .ok t ∧
      t.settle = .ok { m.whole with
        arguments := m.whole.arguments ++ args.map fun v => (s.name, v)
        escaped := true } := by
  have fine : ({ m with escaped := true } : Matched).Fine := ⟨fine.settles, fine.once⟩
  obtain ⟨t, taken, adds⟩ := foldlM_escaped fine rfl last many any args
  refine ⟨t, ?_, ?_⟩
  · have escapes : l.step m escape = .ok { m with escaped := true } := by
      rw [step, before]
      rfl
    rw [List.foldlM_cons, escapes]
    exact taken
  · rw [Matched.settle_eq_ok adds.fine, adds.whole]
    simp [Matched.whole]

/-! ### Options -/

theorem takeFlag?_eq_none {versioned : Bool} {value : Option Bytes}
    (verbose : name ≠ Bytes.ofString "verbose") (help : name ≠ Bytes.ofString "help")
    (version : name ≠ Bytes.ofString "version") : takeFlag? versioned m name value = none := by
  simp [takeFlag?, verbose, help, version]

theorem adds_option (fine : m.Fine) (new : c.name ∉ m.whole.options.map Prod.fst)
    (settles : t.pending.Settles)
    (whole : t.whole = { m.whole with options := m.whole.options ++ [(c.name, value)] }) :
    Adds m [(c.name, value)] [] t := by
  refine ⟨⟨settles, ?_⟩, by rw [whole]; simp⟩
  rw [whole, List.map_append, List.nodup_append]
  refine ⟨fine.once, by simp, ?_⟩
  rintro name member _ last rfl
  obtain rfl : name = c.name := List.mem_singleton.mp last
  exact new member

theorem takeLong_value (fine : m.Fine) (flagless : takeFlag? false m name (some value) = none)
    (known : (l.choices.find? fun c => Bytes.ofString c.name = name) = some c)
    (new : c.name ∉ m.whole.options.map Prod.fst) (more : value ≠ []) :
    ∃ t, l.takeLong m name (some value) = .ok t ∧ Adds m [(c.name, value)] [] t := by
  refine ⟨{ m.whole with options := m.whole.options ++ [(c.name, value)] }, ?_, ?_⟩
  · rw [takeLong, flagless, known]
    dsimp only
    rw [Matched.settle_eq_ok fine]
    exact Matched.addChoice_eq_ok new more
  · exact adds_option fine new trivial (by simp [Matched.whole, Pending.options, Pending.arguments])

theorem takeLong_bare (fine : m.Fine) (before : m.escaped = false)
    (flagless : takeFlag? false m name none = none)
    (known : (l.choices.find? fun c => Bytes.ofString c.name = name) = some c)
    (new : c.name ∉ m.whole.options.map Prod.fst) (more : value ≠ []) (undashed : Undashed value) :
    ∃ t, (do l.step (← l.takeLong m name none) value) = .ok t ∧ Adds m [(c.name, value)] [] t := by
  refine ⟨{ m.whole with pending := .choice c value }, ?_, ?_⟩
  · rw [takeLong, flagless, known]
    dsimp only
    rw [Matched.settle_eq_ok fine]
    show l.step { m.whole with pending := .bare c } value = _
    have begins : ({ m.whole with pending := .bare c } : Matched).escaped = false := before
    rw [step, begins, shapeOf_undashed undashed]
    rfl
  · exact adds_option fine new more (by simp [Matched.whole, Pending.options, Pending.arguments])

/-! ### The environment -/

/-- An option that is not given has a variable that is empty. -/
def Vacant (environment : List (String × Bytes)) (m : Matched) (c : Choice) : Prop :=
  m.options.lookup c.name = none ∧ environment.lookup c.environmentName = some []

/-- The options are those of a state and what variables say of options that are not given. -/
structure Completes (environment : List (String × Bytes)) (choices : List Choice) (m : Matched)
    (options : List (String × Bytes)) : Prop where
  listed : ∀ c ∈ choices, options.lookup c.name =
    (m.options.lookup c.name <|> environment.lookup c.environmentName)
  others : ∀ name ∉ choices.map Choice.name, options.lookup name = m.options.lookup name

variable {environment : List (String × Bytes)} {choices : List Choice}

theorem fromEnvironment_vacant (vacant : Vacant environment m c) :
    fromEnvironment environment m c = .error .invalidValue := by
  obtain ⟨none, empty⟩ := vacant
  have refused : m.addChoice c [] = .error .invalidValue := by
    rw [Matched.addChoice, none]
    rfl
  rw [fromEnvironment, none, empty]
  exact refused

theorem fromEnvironment_completes (filled : ¬Vacant environment m c) :
    ∃ options, fromEnvironment environment m c = .ok { m with options } ∧
      Completes environment [c] m options := by
  unfold fromEnvironment
  cases given : m.options.lookup c.name with
  | some value => exact ⟨m.options, rfl, by simp [given], fun _ _ => rfl⟩
  | none =>
    cases named : environment.lookup c.environmentName with
    | none => exact ⟨m.options, rfl, by simp [given, named], fun _ _ => rfl⟩
    | some value =>
      have more : value ≠ [] := by
        rintro rfl
        exact filled ⟨given, named⟩
      refine ⟨_, Matched.addChoice_eq_ok (Matched.lookup_eq_none.mp given) more, ?_, ?_⟩
      · simp [given, named, List.lookup_append]
      · intro name other
        have differs : name ≠ c.name := by simpa using other
        rw [List.lookup_append, List.lookup_cons, beq_false_of_ne differs]
        exact Option.or_none

variable (environment) in
/-- Variables are looked at for the options in order. An empty one of an option that is not given is
an error, whichever it is. -/
theorem foldlM_fromEnvironment (distinct : (choices.map Choice.name).Nodup) :
    ((∃ c ∈ choices, Vacant environment m c) →
      choices.foldlM (fromEnvironment environment) m = .error .invalidValue) ∧
    ((∀ c ∈ choices, ¬Vacant environment m c) → ∃ options,
      choices.foldlM (fromEnvironment environment) m = .ok { m with options } ∧
        Completes environment choices m options) := by
  induction choices generalizing m with
  | nil => exact ⟨nofun, fun _ => ⟨m.options, rfl, nofun, fun _ _ => rfl⟩⟩
  | cons c rest ih =>
    obtain ⟨apart, distinct⟩ := List.nodup_cons.mp distinct
    rw [List.foldlM_cons]
    by_cases vacant : Vacant environment m c
    · rw [fromEnvironment_vacant vacant]
      exact ⟨fun _ => rfl, fun filled => absurd vacant (filled c List.mem_cons_self)⟩
    obtain ⟨options, first, completes⟩ := fromEnvironment_completes vacant
    -- What the first option takes from its variable is not in the way of the others.
    have kept : ∀ d ∈ rest, options.lookup d.name = m.options.lookup d.name := by
      refine fun d member => completes.others d.name fun same => apart ?_
      exact List.mem_singleton.mp same ▸ List.mem_map_of_mem member
    obtain ⟨refused, filled⟩ := ih (m := { m with options }) distinct
    rw [first]
    constructor
    · rintro ⟨d, member, none, empty⟩
      rcases List.mem_cons.mp member with rfl | later
      · exact absurd ⟨none, empty⟩ vacant
      · exact refused ⟨d, later, (kept d later).trans none, empty⟩
    · intro all
      obtain ⟨more, done, rests⟩ := filled fun d later vacant =>
        all d (List.mem_cons_of_mem c later) ⟨(kept d later).symm.trans vacant.1, vacant.2⟩
      refine ⟨more, done, List.forall_mem_cons.mpr ⟨?_, fun d later => ?_⟩, fun name other => ?_⟩
      · exact (rests.others c.name apart).trans (completes.listed c (List.mem_singleton_self c))
      · rw [rests.listed d later, kept d later]
      · rw [List.map_cons, List.mem_cons, not_or] at other
        rw [rests.others name other.2]
        exact completes.others name (by simpa using other.1)

/-! ### What is given -/

theorem values_map (name : String) (vs : List Bytes) (s : Slot) :
    ((vs.map fun v => (name, v)).filter fun a => a.1 == s.name).map Prod.snd =
      if name = s.name then vs else [] := by
  rw [List.filter_map, List.map_map]
  by_cases same : name = s.name
  · simp [same, Function.comp_def]
  · simp [same, Function.comp_def]

theorem given_iff : given m s = true ↔ m.values s ≠ [] := by
  rw [given, List.lookup_isSome_iff, Matched.values, Ne, List.map_eq_nil_iff,
    List.filter_eq_nil_iff]
  simp only [beq_iff_eq, Classical.not_forall, Classical.not_not, exists_prop]
  exact exists_congr fun p => and_congr_right fun _ => eq_comm

/-! ### The end -/

theorem read_eq_ok (taken : args.foldlM l.step {} = .ok t) (settled : t.settle = .ok m)
    (filled : l.choices.foldlM (fromEnvironment environment) m = .ok u)
    (present : ∀ s ∈ l.slots ++ l.trailing.toList, u.values s ≠ []) :
    l.read environment args = .ok u := by
  have all : (l.slots ++ l.trailing.toList).all (given u) = true :=
    List.all_eq_true.mpr fun s member => given_iff.mpr (present s member)
  simp only [read, bind, Except.bind, taken, settled, filled, all, if_true]
  rfl

theorem read_eq_error {fault : UsageFault} (taken : args.foldlM l.step {} = .ok t)
    (settled : t.settle = .ok m)
    (refused : l.choices.foldlM (fromEnvironment environment) m = .error fault) :
    l.read environment args = .error fault := by
  simp only [read, bind, Except.bind, taken, settled, refused]

end Level

end NamespaceEntry.CommandLine
