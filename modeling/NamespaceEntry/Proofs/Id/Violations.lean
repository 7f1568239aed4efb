import NamespaceEntry.Error
import NamespaceEntry.Proofs.Id.Grammar

/-!
# The first violation

`violations` cuts the tokens at their markers and lists all that is wrong with them, section by
section. The reader takes one token at a time and knows nothing of sections as a whole, but it
reports just the head of this list.
-/

namespace NamespaceEntry.RangeTokens

open IdRange (Triple)

/-! ### What is wrong with tokens -/

/-- A marker and the tokens behind it, up to the next marker. -/
structure Section where
  kind : IdKind
  values : List String

namespace Section

def tokens (x : Section) : List String := x.kind.marker :: x.values

end Section

def split : List String → List String × List Section
  | [] => ([], [])
  | token :: rest =>
    let (front, sections) := split rest
    match IdKind.ofMarker? token with
    | some kind => ([], ⟨kind, front⟩ :: sections)
    | none => (token :: front, sections)

def triples : List String → List Triple
  | a :: b :: c :: rest => ⟨a, b, c⟩ :: triples rest
  | [] | [_] | [_, _] => []

def leftOver (values : List String) : List String := values.drop (3 * (values.length / 3))

def rangeFault? (kind : IdKind) (x : Triple) : Option Fault :=
  match IdRange.read kind x.namespaceStart x.hostStart x.count with
  | .ok _ => none
  | .error fault => some (.range fault)

/-- What is wrong with a marker behind the previous one: every kind has one section, and that of the
user ids is the first one. -/
def misplaced (previous : Option IdKind) (kind : IdKind) : List Fault :=
  if previous = some kind then [.duplicate kind]
  else
    match kind, previous with
    | .uid, some _ => [.uidsLate]
    | .gid, none => [.gidsFirst]
    | _, _ => []

namespace Section

def unsound (x : Section) : List Fault := (triples x.values).filterMap (rangeFault? x.kind)

def incomplete (x : Section) : List Fault :=
  if leftOver x.values = [] then [] else [.incomplete x.kind (leftOver x.values)]

def hollow (x : Section) : List Fault :=
  if triples x.values = [] then [.emptySection x.kind] else []

def violations (previous : Option IdKind) : List Section → List Fault
  | [] => []
  | x :: rest =>
    misplaced previous x.kind ++ x.unsound ++ x.incomplete ++ x.hollow ++
      violations (some x.kind) rest

end Section

/-- All that is wrong with tokens, in the order of the checks. -/
def violations (tokens : List String) : List Fault :=
  if tokens = [] then [.noSection]
  else (split tokens).1.map .outside ++ Section.violations none (split tokens).2

/-! ### Cutting -/

def Unmarked (tokens : List String) : Prop := ∀ token ∈ tokens, IdKind.ofMarker? token = none

/-- The tokens are cut at all their markers, and nowhere else. -/
structure Cut (tokens front : List String) (sections : List Section) : Prop where
  whole : tokens = front ++ sections.flatMap Section.tokens
  front : Unmarked front
  values : ∀ x ∈ sections, Unmarked x.values

variable {s t : State} {kind : IdKind} {token : String} {tokens values front rest : List String}
  {sections : List Section} {fault : Fault}

theorem cut_split (tokens : List String) : Cut tokens (split tokens).1 (split tokens).2 := by
  induction tokens with
  | nil => exact ⟨rfl, nofun, nofun⟩
  | cons token rest ih =>
    unfold split
    cases found : IdKind.ofMarker? token with
    | none =>
      refine ⟨?_, List.forall_mem_cons.mpr ⟨found, ih.front⟩, ih.values⟩
      exact congrArg (token :: ·) ih.whole
    | some kind =>
      obtain rfl := ofMarker?_eq_some.mp found
      refine ⟨?_, nofun, List.forall_mem_cons.mpr ⟨ih.front, ih.values⟩⟩
      rw [List.nil_append, List.flatMap_cons]
      exact congrArg (kind.marker :: ·) ih.whole

theorem split_of_cut (cut : Cut tokens front sections) : split tokens = (front, sections) := by
  obtain ⟨rfl, plain, values⟩ := cut
  induction front with
  | nil =>
    -- The values of each section stand in front of the next ones.
    induction sections with
    | nil => rfl
    | cons x sections ih =>
      obtain ⟨first, others⟩ := List.forall_mem_cons.mp values
      have inner : ∀ tokens, Unmarked tokens →
          split (tokens ++ sections.flatMap Section.tokens) = (tokens, sections) := by
        intro tokens unmarked
        induction tokens with
        | nil => exact ih others
        | cons token rest ih =>
          obtain ⟨now, later⟩ := List.forall_mem_cons.mp unmarked
          rw [List.cons_append, split, ih later, now]
      rw [List.nil_append, List.flatMap_cons, Section.tokens, List.cons_append, split,
        inner x.values first, ofMarker?_eq_some.mpr rfl]
  | cons token front ih =>
    obtain ⟨now, later⟩ := List.forall_mem_cons.mp plain
    rw [List.cons_append, split, ih later, now]

theorem leftOver_of_short (short : values.length < 3) : leftOver values = values := by
  rw [leftOver, Nat.div_eq_of_lt short]
  rfl

theorem leftOver_triple (a b c : String) (rest : List String) :
    leftOver (a :: b :: c :: rest) = leftOver rest := by
  have size : 3 * ((rest.length + 3) / 3) = 3 * (rest.length / 3) + 3 := by omega
  simp only [leftOver, List.length_cons, size, List.drop_succ_cons]

theorem triples_append_leftOver (values : List String) :
    (triples values).flatMap Triple.tokens ++ leftOver values = values ∧
      (leftOver values).length < 3 := by
  induction values using triples.induct with
  | case1 a b c rest ih =>
    rw [leftOver_triple, triples, List.flatMap_cons]
    exact ⟨congrArg ([a, b, c] ++ ·) ih.1, ih.2⟩
  | case2 | case3 | case4 =>
    rw [leftOver_of_short (by simp)]
    exact ⟨rfl, by simp⟩

/-! ### The rest of the reading -/

def refusal? {α : Type} : Except Fault α → Option Fault
  | .ok _ => none
  | .error fault => some fault

theorem refusal?_eq_some {α : Type} {x : Except Fault α} :
    refusal? x = some fault ↔ x = .error fault := by
  cases x <;> simp [refusal?]

theorem refusal?_eq_none {α : Type} {x : Except Fault α} :
    refusal? x = none ↔ ∃ a, x = .ok a := by
  cases x <;> simp [refusal?]

/-- If the first part of a computation refuses nothing, the second one decides. -/
theorem refusal?_bind {β : Type} {x : Except Fault Unit} {f : Unit → Except Fault β} :
    refusal? (x >>= f) = (refusal? x).or (refusal? (f ())) := by
  cases x <;> rfl

def resume (s : State) (tokens : List String) : Except Fault IdMapping :=
  tokens.foldlM State.step s >>= State.finish

theorem resume_cons (s : State) (token : String) (rest : List String) :
    resume s (token :: rest) = s.step token >>= fun t => resume t rest := by
  rw [resume, List.foldlM_cons]
  cases s.step token <;> rfl

theorem resume_field (plain : IdKind.ofMarker? token = none) :
    resume s (token :: rest) = s.takeField token >>= fun t => resume t rest := by
  rw [resume_cons, State.step, plain]

theorem resume_marker (s : State) (kind : IdKind) (rest : List String) :
    resume s (kind.marker :: rest) = s.close >>= fun _ => s.mayOpen kind >>= fun _ =>
      resume { s with current := some kind } rest := by
  rw [resume_cons, State.step, ofMarker?_eq_some.mpr rfl]
  simp only [bind, Except.bind, pure, Except.pure]
  cases s.close with
  | error fault => rfl
  | ok closed => cases s.mayOpen kind <;> rfl

theorem resume_triple (here : s.current = some kind) (idle : s.pending = .none)
    {a b c : String} (unmarked : Unmarked [a, b, c]) (rest : List String) :
    resume s (a :: b :: c :: rest) =
      match IdRange.read kind a b c with
      | .ok range => resume (s.add kind range) rest
      | .error fault => .error (.range fault) := by
  simp only [Unmarked, List.forall_mem_cons] at unmarked
  obtain ⟨first, second, third, -⟩ := unmarked
  obtain ⟨current, pending, uids, gids⟩ := s
  obtain rfl : current = some kind := here
  obtain rfl : pending = .none := idle
  simp only [resume_field first, resume_field second, resume_field third, State.takeField, bind,
    Except.bind]
  cases IdRange.read kind a b c with
  | ok range => cases kind <;> rfl
  | error fault => rfl

structure Took (x : Section) (s t : State) : Prop where
  current : t.current = some x.kind
  pending : t.pending.toList = leftOver x.values
  ranges : ∃ rs, t.ranges x.kind = s.ranges x.kind ++ rs ∧ rs.length = (triples x.values).length ∧
    ∀ r ∈ rs, r.kind = x.kind
  others : ∀ other ≠ x.kind, t.ranges other = s.ranges other

theorem resume_values {x : Section} (here : s.current = some x.kind) (idle : s.pending = .none)
    (unmarked : Unmarked x.values) (rest : List String) :
    (∃ fault, x.unsound.head? = some fault ∧ resume s (x.values ++ rest) = .error fault) ∨
    x.unsound = [] ∧ ∃ t, resume s (x.values ++ rest) = resume t rest ∧ Took x s t := by
  obtain ⟨kind, values⟩ := x
  change s.current = some kind at here
  change Unmarked values at unmarked
  induction values using triples.induct generalizing s with
  | case1 a b c values ih =>
    have first : Unmarked [a, b, c] := fun token member =>
      unmarked token (List.mem_append_left values member)
    have others : Unmarked values := fun token member =>
      unmarked token (List.mem_append_right [a, b, c] member)
    have read := resume_triple here idle first (values ++ rest)
    simp only [Section.unsound, triples, List.filterMap_cons, rangeFault?, List.cons_append,
      read] at ih ⊢
    cases made : IdRange.read kind a b c with
    | error fault => exact Or.inl ⟨_, rfl, rfl⟩
    | ok range =>
      rcases ih (s := s.add kind range) (by simp) (by simp [here]) others with
        refused | ⟨none, t, same, took⟩
      · exact Or.inl refused
      · obtain ⟨rs, all, size, kinds⟩ := took.ranges
        have known : range.kind = kind :=
          (IdRange.read_eq_ok (x := ⟨a, b, c⟩).mp made).kind
        refine Or.inr ⟨none, t, same, took.current, ?_, ⟨range :: rs, ?_, ?_, ?_⟩, ?_⟩
        · rw [took.pending, leftOver_triple]
        · rw [all, ranges_add, List.append_assoc]
          rfl
        · rw [List.length_cons, size, triples, List.length_cons]
        · exact List.forall_mem_cons.mpr ⟨known, kinds⟩
        · intro other differs
          rw [took.others other differs, ranges_add_other s differs]
  | case2 =>
    refine Or.inr ⟨rfl, s, rfl, here, ?_, ⟨[], by simp [triples]⟩, fun _ _ => rfl⟩
    rw [idle, leftOver_of_short (by simp)]
    rfl
  | case3 a =>
    have plain := unmarked a List.mem_cons_self
    refine Or.inr ⟨rfl, { s with pending := .one a }, ?_, here, ?_, ⟨[], ?_⟩, ?_⟩
    · rw [List.singleton_append, resume_field plain, State.takeField, here, idle]
      rfl
    · rw [leftOver_of_short (by simp)]
      rfl
    · cases kind <;> simp [triples, State.ranges]
    · intro other _
      cases other <;> rfl
  | case4 a b =>
    simp only [Unmarked, List.forall_mem_cons] at unmarked
    obtain ⟨first, second, -⟩ := unmarked
    refine Or.inr ⟨rfl, { s with pending := .two a b }, ?_, here, ?_, ⟨[], ?_⟩, ?_⟩
    · obtain ⟨current, pending, uids, gids⟩ := s
      obtain rfl : current = some kind := here
      obtain rfl : pending = .none := idle
      simp only [List.cons_append, List.nil_append, resume_field first, resume_field second,
        State.takeField, bind, Except.bind]
    · rw [leftOver_of_short (by simp)]
      rfl
    · cases kind <;> simp [triples, State.ranges]
    · intro other _
      cases other <;> rfl

/-! ### Sections -/

theorem toList_eq_nil {pending : Pending} : pending.toList = [] ↔ pending = .none := by
  cases pending <;> simp [Pending.toList]

variable {x : Section}

/-- At the end of a section the reader knows how many triples it had, and what is left over. -/
theorem refusal?_close (took : Took x s t) (fresh : s.ranges x.kind = []) :
    refusal? t.close = (x.incomplete ++ x.hollow).head? := by
  obtain ⟨rs, all, size, -⟩ := took.ranges
  have ranges : t.ranges x.kind = [] ↔ triples x.values = [] := by
    rw [all, fresh, List.nil_append, ← List.length_eq_zero_iff, size, List.length_eq_zero_iff]
  simp only [State.close, took.current, Section.incomplete, Section.hollow, List.isEmpty_iff,
    ranges, ← took.pending, ne_eq, ← toList_eq_nil]
  by_cases complete : t.pending.toList = []
  · by_cases some : triples x.values = [] <;> simp [complete, some, refusal?]
  · simp [complete, refusal?]

theorem refusal?_mayOpen (s : State) (kind : IdKind) :
    refusal? (s.mayOpen kind) = (misplaced s.current kind).head? := by
  unfold State.mayOpen misplaced
  cases s.current with
  | none => cases kind <;> rfl
  | some current => cases current <;> cases kind <;> rfl

theorem misplaced_eq_nil {previous : IdKind} :
    (misplaced (some previous) kind).head? = none ↔ previous = .uid ∧ kind = .gid := by
  cases previous <;> cases kind <;> simp [misplaced]

/-- A section of a kind has been opened. There are ranges of user ids just if it is the second. -/
structure Opened (kind : IdKind) (s : State) : Prop where
  current : s.current = some kind
  pending : s.pending = .none
  uids : s.uids = [] ↔ kind = .uid
  gids : s.gids = []
  sound : ∀ kind, ∀ r ∈ s.ranges kind, r.kind = kind

theorem Opened.fresh (opened : Opened kind s) : s.ranges kind = [] := by
  cases kind with
  | uid => exact opened.uids.mpr rfl
  | gid => exact opened.gids

theorem Took.sound (took : Took x s t) (sound : ∀ kind, ∀ r ∈ s.ranges kind, r.kind = kind) :
    ∀ kind, ∀ r ∈ t.ranges kind, r.kind = kind := by
  intro other r member
  by_cases same : other = x.kind
  · subst same
    obtain ⟨rs, all, -, kinds⟩ := took.ranges
    rw [all] at member
    rcases List.mem_append.mp member with before | new
    · exact sound _ r before
    · exact kinds r new
  · rw [took.others other same] at member
    exact sound other r member

/-- Behind a section that may end here, there are ranges of user ids. -/
theorem uids_of_close (opened : Opened x.kind s) (took : Took x s t) (closed : t.close = .ok ()) :
    t.uids ≠ [] := by
  obtain ⟨kind, values⟩ := x
  cases kind with
  | uid => exact (close_eq_ok.mp closed .uid took.current).2
  | gid =>
    have same : t.uids = s.uids := took.others .uid nofun
    rw [same, ne_eq, opened.uids]
    exact nofun

/-- Nothing but the end of a section can go wrong at the end of the tokens. -/
theorem refusal?_finish (opened : Opened x.kind s) (took : Took x s t) :
    refusal? t.finish = refusal? t.close := by
  cases closed : t.close with
  | error fault => rw [State.finish, closed]; rfl
  | ok =>
    have sound := took.sound opened.sound
    have done : t.finish = .ok ⟨t.uids, t.gids, uids_of_close opened took closed,
        sound .uid, sound .gid⟩ := finish_eq_ok.mpr ⟨closed, rfl, rfl⟩
    rw [done]
    rfl

/-- Behind the section of the user ids that of the group ids may be opened. -/
theorem opened_next (opened : Opened x.kind s) (took : Took x s t) (closed : t.close = .ok ())
    (first : x.kind = .uid) : Opened .gid { t with current := some .gid } where
  current := rfl
  pending := (close_eq_ok.mp closed x.kind took.current).1
  uids := by
    have some : t.uids ≠ [] := uids_of_close opened took closed
    exact iff_of_false some nofun
  gids := (took.others .gid (by rw [first]; exact nofun)).trans opened.gids
  sound kind := by
    have sound := took.sound opened.sound kind
    cases kind <;> exact sound

theorem refusal?_sections (opened : Opened x.kind s)
    (unmarked : ∀ y ∈ x :: sections, Unmarked y.values) :
    refusal? (resume s (x.values ++ sections.flatMap Section.tokens)) =
      (x.unsound ++ x.incomplete ++ x.hollow ++
        Section.violations (some x.kind) sections).head? := by
  induction sections generalizing s x with
  | nil =>
    obtain ⟨fault, first, refused⟩ | ⟨none, t, same, took⟩ :=
      resume_values opened.current opened.pending (unmarked x List.mem_cons_self) []
    · rw [List.flatMap_nil, refused, Section.violations]
      simp [first, refusal?]
    · have last : resume t [] = t.finish := rfl
      rw [List.flatMap_nil, same, last, refusal?_finish opened took,
        refusal?_close took opened.fresh, none, Section.violations]
      simp
  | cons y sections ih =>
    obtain ⟨now, later⟩ := List.forall_mem_cons.mp unmarked
    obtain ⟨fault, first, refused⟩ | ⟨none, t, same, took⟩ :=
      resume_values opened.current opened.pending now ((y :: sections).flatMap Section.tokens)
    · rw [refused]
      simp [first, refusal?]
    · have closing := refusal?_close took opened.fresh
      rw [same, List.flatMap_cons, Section.tokens, List.cons_append, resume_marker, refusal?_bind,
        refusal?_bind, refusal?_mayOpen, took.current, none, Section.violations]
      simp only [List.nil_append, List.append_assoc, List.head?_append] at closing ⊢
      conv_rhs => rw [← Option.or_assoc, ← closing]
      cases closed : t.close with
      | error fault => rfl
      | ok =>
        rw [refusal?, Option.none_or, Option.none_or]
        cases wrong : (misplaced (some x.kind) y.kind).head? with
        | some fault => rfl
        | none =>
          rw [Option.none_or, Option.none_or]
          obtain ⟨first, second⟩ : x.kind = .uid ∧ y.kind = .gid := misplaced_eq_nil.mp wrong
          have next := opened_next opened took closed first
          rw [← second] at next
          simpa using ih next later

/-! ### All tokens -/

theorem refusal?_read (tokens : List String) :
    refusal? (read tokens) = (violations tokens).head? := by
  obtain ⟨whole, plain, values⟩ := cut_split tokens
  unfold violations
  generalize split tokens = cut at whole plain values ⊢
  obtain ⟨front, sections⟩ := cut
  cases front with
  | cons token front =>
    obtain ⟨plain, -⟩ := List.forall_mem_cons.mp plain
    have refused : read tokens = .error (.outside token) := by
      rw [whole]
      exact resume_field plain
    rw [refused, whole]
    rfl
  | nil =>
    cases sections with
    | nil =>
      rw [whole]
      rfl
    | cons x sections =>
      have same : read tokens =
          State.mayOpen {} x.kind >>= fun _ =>
            resume { current := some x.kind } (x.values ++ sections.flatMap Section.tokens) := by
        rw [whole]
        exact resume_marker {} x.kind _
      have some : tokens ≠ [] := by
        rw [whole]
        exact List.cons_ne_nil _ _
      rw [same, refusal?_bind, refusal?_mayOpen, if_neg some]
      obtain ⟨kind, values'⟩ := x
      cases kind with
      | gid => rfl
      | uid =>
        have opened : Opened .uid { current := Option.some .uid } :=
          ⟨rfl, rfl, iff_of_true rfl rfl, rfl, fun kind => by cases kind <;> exact nofun⟩
        exact refusal?_sections (x := ⟨.uid, values'⟩) opened values

/-- The fault of a mapping as a whole, and not of a token or a section. -/
def Fault.IsFinal : Fault → Prop
  | .noSection | .mapping _ => True
  | _ => False

theorem not_isFinal_of_section {previous : Option IdKind}
    (found : fault ∈ Section.violations previous sections) : ¬fault.IsFinal := by
  induction sections generalizing previous with
  | nil => cases found
  | cons x sections ih =>
    simp only [Section.violations, List.mem_append] at found
    obtain (((found | found) | found) | found) | found := found
    · unfold misplaced at found
      split at found
      · rw [List.mem_singleton.mp found]
        exact id
      · split at found
        · rw [List.mem_singleton.mp found]
          exact id
        · rw [List.mem_singleton.mp found]
          exact id
        · cases found
    · obtain ⟨y, -, unreadable⟩ := List.mem_filterMap.mp found
      unfold rangeFault? at unreadable
      split at unreadable
      · cases unreadable
      · obtain rfl := Option.some.inj unreadable
        exact id
    · unfold Section.incomplete at found
      split at found
      · cases found
      · rw [List.mem_singleton.mp found]
        exact id
    · unfold Section.hollow at found
      split at found
      · rw [List.mem_singleton.mp found]
        exact id
      · cases found
    · exact ih found

/-- Only for no tokens there is a fault of the mapping as a whole. -/
theorem eq_nil_of_isFinal (found : fault ∈ violations tokens) (final : fault.IsFinal) :
    tokens = [] ∧ fault = .noSection := by
  unfold violations at found
  split at found
  · rename_i none
    exact ⟨none, List.mem_singleton.mp found⟩
  · rcases List.mem_append.mp found with outside | inside
    · obtain ⟨token, -, rfl⟩ := List.mem_map.mp outside
      exact absurd final id
    · exact absurd final (not_isFinal_of_section inside)

/-- The error of a fault has a text, behind the words with which all errors of a configuration
begin. -/
def Fault.Tells (fault : Fault) (text : String) : Prop :=
  (Error.invalidConfig (.tokens fault)).message = "Invalid configuration: " ++ text

/-- What the errors tell: the token or the values that are in the way, or what is missing. -/
structure Texts : Prop where
  outside (token : String) :
    (Fault.outside token).Tells ("unexpected '" ++ token ++ "' before the 'u' section")
  gidsFirst : Fault.gidsFirst.Tells "gid ranges given without uid ranges ('u' must come first)"
  uidsLate : Fault.uidsLate.Tells "'u' section must come before the 'g' section"
  duplicate (kind : IdKind) :
    (Fault.duplicate kind).Tells ("duplicate '" ++ kind.marker ++ "' section")
  incomplete (kind : IdKind) (values : List String) :
    (Fault.incomplete kind values).Tells
      ("incomplete " ++ kind.name ++ " range '" ++ String.intercalate " " values ++
        "' (expected <ns start> <host start> <count>)")
  emptySection (kind : IdKind) :
    (Fault.emptySection kind).Tells ("'" ++ kind.marker ++ "' section has no ranges")
  noSection :
    Fault.noSection.Tells "usernsexec requires a 'u' section with at least one uid range"
  range (fault : IdRange.Fault) : (Fault.range fault).Tells fault.message

theorem texts : Texts where
  outside _ := rfl
  gidsFirst := rfl
  uidsLate := rfl
  duplicate _ := rfl
  incomplete _ _ := rfl
  emptySection _ := rfl
  noSection := rfl
  range _ := rfl

/-- Whatever is wrong with tokens, the reader reports the first violation in the order of their
sections: a token before the first marker, then for each section its marker, the triples that are no
ranges, the values left over and the lack of ranges. That a listing is needed is reported for no
tokens only, and the check of the mapping that the ranges make never fails. -/
theorem reports_first_violation (tokens : List String) :
    (∀ front sections, Cut tokens front sections ↔ split tokens = (front, sections)) ∧
    (∀ values, (triples values).flatMap Triple.tokens ++ leftOver values = values ∧
      (leftOver values).length < 3) ∧
    (∀ fault, IdMapping.ofTokens tokens = .error (.invalidConfig (.tokens fault)) ↔
      (violations tokens).head? = some fault) ∧
    ((∃ m, IdMapping.ofTokens tokens = .ok m) ↔ violations tokens = []) ∧
    (IdMapping.ofTokens tokens = .error (.invalidConfig (.tokens .noSection)) ↔ tokens = []) ∧
    (∀ fault, IdMapping.ofTokens tokens ≠ .error (.invalidConfig (.tokens (.mapping fault)))) ∧
    Texts := by
  have reported : ∀ fault, IdMapping.ofTokens tokens = .error (.invalidConfig (.tokens fault)) ↔
      (violations tokens).head? = some fault := by
    intro fault
    rw [← refusal?_read, refusal?_eq_some, IdMapping.ofTokens]
    cases read tokens <;> simp [Except.mapError]
  refine ⟨fun front sections => ⟨split_of_cut, ?_⟩, triples_append_leftOver, reported, ?_, ?_, ?_,
    texts⟩
  · intro same
    have cut := cut_split tokens
    rwa [same] at cut
  · rw [← List.head?_eq_none_iff, ← refusal?_read, refusal?_eq_none]
    exact exists_congr fun m => mapError_eq_ok
  · rw [reported]
    constructor
    · exact fun first => (eq_nil_of_isFinal (List.mem_of_mem_head? first) trivial).1
    · rintro rfl
      rfl
  · intro fault
    rw [ne_eq, reported]
    intro first
    cases (eq_nil_of_isFinal (List.mem_of_mem_head? first) trivial).2

/-- Several things are wrong, and the triple is the first of them. -/
example : violations ["u", "0", "1", "0", "7", "g", "u"] =
    [.range (.zeroLength .uid 0 1), .incomplete .uid ["7"], .emptySection .gid, .uidsLate,
      .emptySection .uid] := by
  decide +kernel

end NamespaceEntry.RangeTokens
