import Mathlib.Logic.Relation
import NamespaceEntry.Proofs.Channel.Recognition
import NamespaceEntry.Proofs.Handshake.Words

/-!
# Exchanges over a channel

The other end of a child's channel may be in anyone's hands. An `Exchange` notes what the child
puts on the wire, what it hears, and when it is left alone. `Course` and `Parted` say how these
hang together at each place of the child, whatever whoever holds the other end has done.
-/

namespace NamespaceEntry

namespace Socket

/-- What a side receives next, if it has room for it. -/
def first (k : Socket) (side : Side) : Received :=
  if (k.get side).reset then .reset
  else match (k.get side).queue with
    | d :: _ => .datagram d
    | [] => if (k.get side.other).isOpen then .nothing else .ended

theorem bytes?_receive (k : Socket) (side : Side) (limit : Nat) :
    (k.receive side limit).1.bytes? = (k.first side).bytes?.map (·.take limit) := by
  unfold first
  cases calm : (k.get side).reset with
  | true => rw [receive_of_reset calm, if_pos rfl]; simp [Received.bytes?]
  | false =>
    rw [if_neg Bool.false_ne_true]
    cases queued : (k.get side).queue with
    | cons d rest => rw [receive_of_cons calm queued]; rfl
    | nil =>
      rw [receive_of_nil calm queued]
      cases (k.get side.other).isOpen <;> simp [Received.bytes?]

theorem await?_first {k k' : Socket} {side : Side} {m : Handshake} {r : Except Error Unit}
    (got : k.await? side m = some (r, k')) :
    ∃ bytes, (k.first side).bytes? = some bytes ∧ m.accept (bytes.take messageLimit) = r := by
  obtain ⟨seen, received, same⟩ := Option.map_eq_some_iff.mp got
  have received : (k.receive side messageLimit).1.bytes? = some seen := received
  rw [bytes?_receive] at received
  obtain ⟨bytes, first, rfl⟩ := Option.map_eq_some_iff.mp received
  exact ⟨bytes, first, congrArg Prod.fst same⟩

theorem first_of_await {k k' : Socket} {side : Side} {m : Handshake}
    (got : k.await? side m = some (.ok (), k')) : k.first side = .datagram m.encode := by
  obtain ⟨bytes, first, accepted⟩ := await?_first got
  obtain rfl := take_eq_message_iff.mp (Handshake.accept_eq_ok_iff.mp accepted)
  cases received : k.first side <;> rw [received] at first <;> cases first
  rfl

theorem first_of_refused {k k' : Socket} {side : Side} {m : Handshake} {e : Error}
    (got : k.await? side m = some (.error e, k')) : k.first side ≠ .datagram m.encode := by
  intro expected
  obtain ⟨bytes, first, refused⟩ := await?_first got
  rw [expected] at first
  cases first
  rw [Handshake.accept_eq_ok_iff.mpr (take_eq_message_iff.mpr rfl)] at refused
  cases refused

/-- What the parent sends or takes leaves it with its end, and the child undisturbed. -/
theorem send_of_parent (s : Socket) (bytes : Bytes) :
    (s.send .parent bytes).2.parent.holders = s.parent.holders ∧
      (s.send .parent bytes).2.child.reset = s.child.reset := by
  unfold send
  dsimp only
  split
  · exact ⟨rfl, rfl⟩
  · split <;> exact ⟨rfl, rfl⟩

theorem receive_of_parent (s : Socket) (limit : Nat) :
    (s.receive .parent limit).2.parent.holders = s.parent.holders ∧
      (s.receive .parent limit).2.child.reset = s.child.reset := by
  unfold receive
  dsimp only
  split
  · exact ⟨rfl, rfl⟩
  · split <;> exact ⟨rfl, rfl⟩

end Socket

namespace Child

open Socket (Speaks)

def Setting.report? (w : Setting) : Option Outcome :=
  if w.namespaces.pid then w.forkedEnding.outcome? else none

/-- A call has failed of the init, or of the process that it has forked, and that was printed. -/
def Foiled (w : Setting) (trace : List Event) : Prop :=
  w.namespaces.pid = true ∧ ∃ errno, w.host.init.Fails errno ∧
    (.diagnostic (.initFailed (.system errno)) ∈ trace ∨ .diagnostic (.maskKept errno) ∈ trace)

structure Exchange where
  child : State := { phase := .mounting }
  /-- The datagrams that the child has put on the wire. -/
  wire : List Bytes := []
  /-- What the child has received when it waited to be let go. -/
  heard : Option Received := none
  /-- Where the child was when the other end was closed. -/
  left : Option Phase := none

/-- What the child has received after its next step. -/
def Exchange.hear (e : Exchange) : Option Received :=
  match e.child.phase with
  | .waiting => some (e.child.socket.first .child)
  | _ => e.heard

/-- The child's side takes a step, or whoever holds the other end makes a call on it. -/
inductive Exchange.Step (w : Setting) (e : Exchange) : Exchange → Prop where
  | child (actor : Actor) (t : State) (taken : stepOf w e.child actor = some t) :
      Step w e { e with
        child := t
        wire := e.wire ++ t.socket.parent.queue.drop e.child.socket.parent.queue.length
        heard := e.hear }
  | sends (bytes : Bytes) (opened : e.child.socket.parent.isOpen = true) :
      Step w e { e with
        child := { e.child with socket := (e.child.socket.send .parent bytes).2 } }
  | receives (limit : Nat) (opened : e.child.socket.parent.isOpen = true) :
      Step w e { e with
        child := { e.child with socket := (e.child.socket.receive .parent limit).2 } }
  | leaves (opened : e.child.socket.parent.isOpen = true) :
      Step w e { e with
        child := { e.child with socket := e.child.socket.release .parent }
        left := some e.child.phase }

def Exchange.Comes (w : Setting) : Exchange → Prop := Relation.ReflTransGen (Step w) {}

variable {w : Setting} {e f : Exchange} {s t : State} {words : List Bytes} {heard : Option Received}

def Setting.Mounts (w : Setting) : Prop := w.host.mount w.namespaces w.procTarget = .ok ()

def cue : Received := .datagram (Handshake.encode .go)

/-- Where a child is decides what it has put on the wire and what it has heard. -/
inductive Course (w : Setting) (s : State) : List Bytes → Option Received → Prop where
  | mounting (here : s.phase = .mounting) : Course w s [] none
  | announcing (here : s.phase = .announcing) (mounted : w.Mounts) : Course w s [] none
  | unready (here : s.phase.station = .ended) (tried : ¬s.Attempted) : Course w s [] none
  | waiting (here : s.phase = .waiting) (mounted : w.Mounts) :
      Course w s [Handshake.encode .ready] none
  | refused (here : s.phase.station = .ended) (mounted : w.Mounts) (tried : ¬s.Attempted)
      (r : Received) (other : r ≠ cue) : Course w s [Handshake.encode .ready] (some r)
  | released (here : s.phase.station = .released ∨ s.phase.station = .forked)
      (mounted : w.Mounts) : Course w s [Handshake.encode .ready] (some cue)
  | gone (here : s.phase.station = .below ∨ s.phase.station = .running ∨
      s.phase.station = .ended) (mounted : w.Mounts) (tried : s.Attempted ∨ Foiled w s.trace)
      (silent : ∀ o, .reported o ∉ tidings s.trace) :
      Course w s [Handshake.encode .ready] (some cue)
  | reported (o : Outcome) (here : s.phase.station = .ended) (mounted : w.Mounts)
      (tried : s.Attempted ∨ Foiled w s.trace) (told : .reported o ∈ tidings s.trace) :
      Course w s [Handshake.encode .ready, o.encode] (some cue)

namespace Course

theorem of_preparing (course : Course w s words heard) (here : s.phase.station = .preparing) :
    words = [] ∧ heard = none ∧ (s.phase = .announcing → w.Mounts) := by
  cases course with
  | mounting place => exact ⟨rfl, rfl, by rw [place]; nofun⟩
  | announcing _ mounted => exact ⟨rfl, rfl, fun _ => mounted⟩
  | waiting place => simp [place, Phase.station] at here
  | unready place | refused place | reported _ place => simp [place] at here
  | released place => simp [here] at place
  | gone place => simp [here] at place

theorem of_waiting (course : Course w s words heard) (here : s.phase.station = .waiting) :
    words = [Handshake.encode .ready] ∧ heard = none ∧ w.Mounts := by
  cases course with
  | waiting _ mounted => exact ⟨rfl, rfl, mounted⟩
  | mounting place | announcing place => simp [place, Phase.station] at here
  | unready place | refused place | reported _ place => simp [place] at here
  | released place => simp [here] at place
  | gone place => simp [here] at place

theorem of_released (course : Course w s words heard)
    (here : s.phase.station = .released ∨ s.phase.station = .forked) :
    words = [Handshake.encode .ready] ∧ heard = some cue ∧ w.Mounts := by
  cases course with
  | released _ mounted => exact ⟨rfl, rfl, mounted⟩
  | mounting place | announcing place | waiting place => simp [place, Phase.station] at here
  | unready place | refused place | reported _ place => simp [place] at here
  | gone place => rcases place with place | place | place <;> simp [place] at here

theorem of_below (course : Course w s words heard)
    (here : s.phase.station = .below ∨ s.phase.station = .running) :
    words = [Handshake.encode .ready] ∧ heard = some cue ∧ w.Mounts ∧
      (s.Attempted ∨ Foiled w s.trace) ∧ ∀ o, .reported o ∉ tidings s.trace := by
  cases course with
  | gone _ mounted tried silent => exact ⟨rfl, rfl, mounted, tried, silent⟩
  | mounting place | announcing place | waiting place => simp [place, Phase.station] at here
  | unready place | refused place | reported _ place => simp [place] at here
  | released place => rcases place with place | place <;> simp [place] at here

/-- A child that lives has put something on the wire once it is prepared. -/
theorem filled (course : Course w s words heard) (past : s.phase.station ≠ .preparing)
    (alive : s.phase.station ≠ .ended) : words ≠ [] := by
  cases course with
  | mounting here | announcing here => exact absurd (by rw [here]; rfl) past
  | unready here => exact absurd here alive
  | _ => exact List.cons_ne_nil _ _

theorem born (course : Course w s words heard) : s.phase ≠ .inheriting := by
  intro here
  cases course with
  | mounting place | announcing place | waiting place => cases here.symm.trans place
  | released place => simp [here, Phase.station] at place
  | gone place => simp [here, Phase.station] at place
  | unready place | refused place | reported _ place => simp [here, Phase.station] at place

theorem short (course : Course w s words heard) (alive : s.phase.station ≠ .ended) :
    words.length ≤ 1 := by
  cases course with
  | reported _ here => exact absurd here alive
  | _ => simp

theorem of_filled (course : Course w s words heard) (filled : words ≠ []) :
    Handshake.encode .ready ∈ words ∧ w.Mounts := by
  cases course with
  | mounting | announcing | unready => exact absurd rfl filled
  | waiting _ mounted | refused _ mounted | released _ mounted | gone _ mounted
  | reported _ _ mounted => exact ⟨List.mem_cons_self, mounted⟩

theorem of_report (course : Course w s words heard) {o : Outcome} (said : o.encode ∈ words) :
    s.phase.station = .ended ∧ words.length = 2 ∧ ∃ o', .reported o' ∈ tidings s.trace := by
  have other : o.encode ≠ Handshake.encode .ready := by
    intro same
    have length := congrArg List.length same
    rw [Socket.length_encode_outcome] at length
    cases length
  cases course with
  | mounting | announcing | unready => cases said
  | waiting | refused | released | gone => exact absurd (List.mem_singleton.mp said) other
  | reported o' here _ _ told => exact ⟨here, rfl, o', told⟩

theorem of_told (course : Course w s words heard) (here : s.phase.station = .ended)
    (tried : s.Attempted) {o : Outcome} (told : .reported o ∈ tidings s.trace) :
    ∃ o', o'.encode ∈ words ∧ .reported o' ∈ tidings s.trace := by
  cases course with
  | mounting place | announcing place | waiting place => simp [place, Phase.station] at here
  | released place => rcases place with place | place <;> simp [place] at here
  | unready _ untried => exact absurd tried untried
  | refused _ _ untried => exact absurd tried untried
  | gone _ _ _ silent => exact absurd told (silent o)
  | reported o' _ _ _ told => exact ⟨o', by simp, told⟩

/-- What happens on the wire meanwhile does not matter. -/
theorem through (course : Course w s words heard) (k : Socket) :
    Course w { s with socket := k } words heard := by
  cases course with
  | mounting here => exact .mounting here
  | announcing here mounted => exact .announcing here mounted
  | unready here tried => exact .unready here tried
  | waiting here mounted => exact .waiting here mounted
  | refused here mounted tried r other =>
    refine .refused ?_ mounted ?_ r other
    · exact here
    · exact tried
  | released here mounted => exact .released here mounted
  | gone here mounted tried silent => exact .gone here mounted tried silent
  | reported o here mounted tried told => exact .reported o here mounted tried told

end Course

structure Parted (w : Setting) (e : Exchange) : Prop where
  held : e.child.socket.parent.holders = if e.left.isNone then 1 else 0
  calm : e.left = none → e.child.socket.child.reset = false
  /-- A place that has been left behind is not come to again. -/
  early : ∀ p, e.left = some p → (e.child.phase.station = .preparing → p.station = .preparing) ∧
    (p.station = .ended → e.child.phase.station = .ended)
  unready : ∀ p, e.left = some p → p.station = .preparing → e.wire = []
  untold : ∀ p, e.left = some p → p.station ≠ .ended → e.wire.length ≤ 1
  unheard : w.Mounts → e.wire = [] → e.child.phase.station = .ended →
    ∃ p, e.left = some p ∧ p.station = .preparing
  lost : ∀ o x, .diagnostic (.notReported o x) ∈ tidings e.child.trace →
    ∃ p, e.left = some p ∧ p.station ≠ .ended

structure Kept (w : Setting) (e : Exchange) : Prop where
  fresh : Fresh e.child
  tended : e.child.phase.Tended w
  tale : Tale w e.child.phase (deeds e.child.trace)
  course : Course w e.child e.wire e.heard
  parted : Parted w e

theorem wire_of_speaks {xs : List Bytes} (ends : Speaks s.socket xs t.socket) :
    t.socket.parent.queue.drop s.socket.parent.queue.length = xs := by
  rw [ends.queue, List.drop_left]

theorem not_attempted_of_diagnostic {d : Diagnostic} (tried : ¬s.Attempted)
    (said : t.trace = s.trace ++ [.diagnostic d]) : ¬t.Attempted := by
  rintro ⟨argv, member⟩
  rw [said, List.mem_append, List.mem_singleton] at member
  exact tried ⟨argv, member.resolve_right nofun⟩

theorem hear_of_station (past : e.child.phase.station ≠ .waiting) : e.hear = e.heard := by
  unfold Exchange.hear
  split
  case h_1 here => exact absurd (by rw [here]; rfl) past
  case h_2 => rfl

theorem tried_of_grown (tried : s.Attempted ∨ Foiled w s.trace) (earlier : s.trace <+: t.trace) :
    t.Attempted ∨ Foiled w t.trace := by
  rcases tried with ⟨argv, member⟩ | ⟨below, errno, fails, told⟩
  · exact Or.inl ⟨argv, earlier.subset member⟩
  · refine Or.inr ⟨below, errno, fails, ?_⟩
    exact told.imp (fun member => earlier.subset member) (fun member => earlier.subset member)

theorem station_of_reporting {o : Outcome} (here : s.phase = .reporting o) :
    s.phase.station = .below := by
  rw [here]
  rfl

theorem course_of_turn (course : Course w e.child e.wire e.heard)
    (early : e.child.phase.station = .preparing ∨ e.child.phase.station = .waiting ∨
      e.child.phase.station = .released ∨ e.child.phase.station = .forked →
        ¬e.child.Attempted ∧ tidings e.child.trace = [])
    (below : e.child.phase = .forking ∨ e.child.phase.station = .forked → w.namespaces.pid = true)
    (turn : Turn w e.child t) :
    Course w t (e.wire ++ t.socket.parent.queue.drop e.child.socket.parent.queue.length)
      e.hear := by
  obtain ⟨child, wire, heard, left⟩ := e
  dsimp only at course early turn ⊢
  cases turn with
  | mounted here after done ends said =>
    obtain ⟨rfl, rfl, -⟩ := course.of_preparing (by rw [here]; rfl)
    rw [wire_of_speaks ends, Exchange.hear, here]
    exact .announcing after done
  | unmounted here after failed ends d said _ =>
    obtain ⟨rfl, rfl, -⟩ := course.of_preparing (by rw [here]; rfl)
    rw [wire_of_speaks ends, Exchange.hear, here]
    exact .unready after
      (not_attempted_of_diagnostic (early (by rw [here]; simp [Phase.station])).1 said)
  | announced here after open' ends said =>
    obtain ⟨rfl, rfl, mounted⟩ := course.of_preparing (by rw [here]; rfl)
    rw [wire_of_speaks ends, Exchange.hear, here]
    exact .waiting after (mounted here)
  | unheard here after lost ends d said _ =>
    obtain ⟨rfl, rfl, -⟩ := course.of_preparing (by rw [here]; rfl)
    rw [wire_of_speaks ends, Exchange.hear, here]
    exact .unready after
      (not_attempted_of_diagnostic (early (by rw [here]; simp [Phase.station])).1 said)
  | released here after got ends said =>
    obtain ⟨rfl, rfl, mounted⟩ := course.of_waiting (by rw [here]; rfl)
    obtain ⟨k, got⟩ := got
    rw [wire_of_speaks ends, Exchange.hear, here]
    show Course w t _ (some (child.socket.first .child))
    rw [Socket.first_of_await got]
    exact .released (Or.inl after) mounted
  | refused here after got ends d said _ =>
    obtain ⟨rfl, rfl, mounted⟩ := course.of_waiting (by rw [here]; rfl)
    obtain ⟨x, k, got⟩ := got
    rw [wire_of_speaks ends, Exchange.hear, here]
    exact .refused after mounted
      (not_attempted_of_diagnostic (early (by rw [here]; simp [Phase.station])).1 said) _
      (Socket.first_of_refused got)
  | forked here after ends said =>
    obtain ⟨rfl, rfl, mounted⟩ := course.of_released (Or.inl here)
    rw [wire_of_speaks ends, hear_of_station (by simp [here])]
    exact .released (Or.inr after) mounted
  | attempted here after ends done quiet =>
    obtain ⟨rfl, rfl, mounted⟩ := course.of_released here
    rw [wire_of_speaks ends, hear_of_station (by rcases here with here | here <;> simp [here])]
    have silent := (early (by rcases here with here | here <;> simp [here])).2
    exact .gone after mounted (Or.inl done) (by simp [quiet, silent])
  | untried here after errno fails ends d said told =>
    have place := station_of_forks here
    obtain ⟨rfl, rfl, mounted⟩ := course.of_released place
    rw [wire_of_speaks ends, hear_of_station (by rcases place with here | here <;> simp [here])]
    have silent := (early (Or.inr (Or.inr place))).2
    have last : .diagnostic d ∈ t.trace := by simp [said]
    refine .gone (after.imp_right Or.inr) mounted
      (Or.inr ⟨below here, errno, fails, told.imp ?_ ?_⟩) fun o member => ?_
    · rintro rfl
      exact last
    · rintro rfl
      exact last
    · rw [said] at member
      rcases mem_tidings_concat member with before | ⟨same, -⟩
      · rw [silent] at before
        cases before
      · cases same
  | toiled here after ends earlier quiet =>
    obtain ⟨rfl, rfl, mounted, tried, silent⟩ := course.of_below here
    rw [wire_of_speaks ends, hear_of_station (by rcases here with here | here <;> simp [here])]
    refine .gone (after.imp_right Or.inr) mounted (tried_of_grown tried earlier) ?_
    rw [quiet]
    exact silent
  | reported o here after open' ends said =>
    have place := station_of_reporting here
    obtain ⟨rfl, rfl, mounted, tried, silent⟩ := course.of_below (Or.inl place)
    rw [wire_of_speaks ends, hear_of_station (by simp [place])]
    refine .reported o after mounted (tried_of_grown tried (said ▸ List.prefix_append ..)) ?_
    rw [said, tidings_append]
    exact List.mem_append_right _ List.mem_cons_self
  | unreported o x here after lost ends said =>
    have place := station_of_reporting here
    obtain ⟨rfl, rfl, mounted, tried, silent⟩ := course.of_below (Or.inl place)
    rw [wire_of_speaks ends, hear_of_station (by simp [place])]
    refine .gone (Or.inr (Or.inr (by rw [after]; rfl))) mounted
      (tried_of_grown tried (said ▸ List.prefix_append ..)) ?_
    intro o' member
    rw [said, tidings_append, List.mem_append] at member
    exact silent o' (member.resolve_right (by simp [tidings, Event.isTiding]))

theorem Parted.left_of_deaf (parted : Parted w e)
    (deaf : e.child.socket.child.reset = true ∨ e.child.socket.parent.isOpen = false) :
    ∃ p, e.left = some p := by
  apply Option.ne_none_iff_exists'.mp
  intro there
  rcases deaf with lost | closed
  · cases (parted.calm there).symm.trans lost
  · have held := parted.held
    rw [Socket.isOpen_eq_false] at closed
    rw [closed, there] at held
    cases held

theorem Parted.closed_of_left (parted : Parted w e) {p : Phase} (gone : e.left = some p) :
    e.child.socket.parent.isOpen = false := by
  rw [Socket.isOpen_eq_false, parted.held, gone]
  rfl

theorem parted_of_turn (parted : Parted w e) (course : Course w e.child e.wire e.heard)
    (turn : Turn w e.child t) :
    Parted w { e with
      child := t
      wire := e.wire ++ t.socket.parent.queue.drop e.child.socket.parent.queue.length
      heard := e.hear } where
  held := by
    obtain ⟨xs, ends⟩ := turn.exists_speaks
    exact ends.holders.trans parted.held
  calm there := by
    obtain ⟨xs, ends⟩ := turn.exists_speaks
    exact Bool.eq_false_iff.mpr fun lost =>
      Bool.false_ne_true ((parted.calm there).symm.trans (ends.reset lost))
  early p gone := ⟨fun after => (parted.early p gone).1 (turn.preparing after),
    fun last => absurd ((parted.early p gone).2 last) turn.alive⟩
  unready p gone before := by
    show e.wire ++ _ = []
    rw [wire_of_speaks (turn.speaks_of_closed (parted.closed_of_left gone)), List.append_nil]
    exact parted.unready p gone before
  untold p gone before := by
    show (e.wire ++ _).length ≤ 1
    rw [wire_of_speaks (turn.speaks_of_closed (parted.closed_of_left gone)), List.append_nil]
    exact parted.untold p gone before
  unheard mounts empty after := by
    have empty : e.wire = [] := (List.append_eq_nil_iff.mp empty).1
    have place : e.child.phase.station = .preparing :=
      Classical.byContradiction fun past => course.filled past turn.alive empty
    rcases turn.of_preparing place after with failed | deaf
    · exact absurd mounts failed
    · obtain ⟨p, gone⟩ := parted.left_of_deaf deaf
      exact ⟨p, gone, (parted.early p gone).1 place⟩
  lost o x member := by
    rcases turn.loss member with before | deaf
    · exact parted.lost o x before
    · obtain ⟨p, gone⟩ := parted.left_of_deaf deaf
      exact ⟨p, gone, fun last => turn.alive ((parted.early p gone).2 last)⟩

/-! ### Every exchange -/

theorem deeds_of_unexecuted (tale : Tale w s.phase (deeds s.trace))
    (place : s.phase.station = .preparing ∨ s.phase.station = .waiting ∨
      s.phase.station = .released ∨ s.phase.station = .forked) : deeds s.trace = [] := by
  generalize here : s.phase = phase at tale place
  generalize deeds s.trace = said at tale
  cases tale with
  | unreported => simp [Phase.station] at place
  | told story =>
    cases phase with
    | mounting | announcing | waiting => exact deeds_of_early story (by simp)
    | executing => exact (direct_of_executing story).2
    | forking => exact (below_of_forking story).2
    | supervising init command orphans =>
      obtain ⟨-, tale⟩ := forks_of_supervising story
      cases command with
      | forked => cases tale; rfl
      | running | ended => simp [Phase.station] at place
    | unborn | inheriting | reporting | running | ended => simp [Phase.station] at place

theorem below_of_forks (tale : Tale w s.phase (deeds s.trace))
    (place : s.phase = .forking ∨ s.phase.station = .forked) : w.namespaces.pid = true := by
  generalize here : s.phase = phase at tale place
  generalize deeds s.trace = said at tale
  cases tale with
  | unreported => simp [Phase.station] at place
  | told story =>
    cases phase with
    | forking => exact (below_of_forking story).1
    | supervising => exact (forks_of_supervising story).1.1
    | _ => simp [Phase.station] at place

theorem untold_of_no_deeds (none : deeds s.trace = []) :
    ¬s.Attempted ∧ tidings s.trace = [] := by
  constructor
  · rintro ⟨argv, member⟩
    have deed := (mem_deeds rfl).mpr member
    rw [none] at deed
    cases deed
  · refine List.filter_eq_nil_iff.mpr fun event member tiding => ?_
    have deed : event.isDeed = true := by cases event <;> first | rfl | cases tiding
    have deed := (mem_deeds deed).mpr member
    rw [none] at deed
    cases deed

namespace Kept

theorem start (w : Setting) : Kept w {} where
  fresh := by intro init orphans here; cases here
  tended := trivial
  tale := .told (.early (by simp))
  course := .mounting rfl
  parted :=
    { held := rfl
      calm := fun _ => rfl
      early := fun p gone => by cases gone
      unready := fun p gone => by cases gone
      untold := fun p gone => by cases gone
      unheard := fun mounts empty ended => by cases ended
      lost := fun o x member => by cases member }

theorem child (kept : Kept w e) {actor : Actor} (taken : stepOf w e.child actor = some t) :
    Kept w { e with
      child := t
      wire := e.wire ++ t.socket.parent.queue.drop e.child.socket.parent.queue.length
      heard := e.hear } := by
  have move := move_of_stepOf taken
  have past : e.child.phase ≠ .inheriting := kept.course.born
  have turn := turn_of_move kept.fresh past move
  exact
    { fresh := fresh_of_move kept.fresh move
      tended := tended_of_move kept.tended move
      tale := tale_of_move kept.tale kept.tended kept.fresh move
      course := course_of_turn kept.course
        (fun place => untold_of_no_deeds (deeds_of_unexecuted kept.tale place))
        (below_of_forks kept.tale) turn
      parted := parted_of_turn kept.parted kept.course turn }

theorem call (kept : Kept w e) {k : Socket}
    (held : k.parent.holders = e.child.socket.parent.holders)
    (calm : k.child.reset = e.child.socket.child.reset) :
    Kept w { e with child := { e.child with socket := k } } :=
  { kept with
    course := kept.course.through k
    parted := { kept.parted with
      held := held.trans kept.parted.held
      calm := fun there => calm.trans (kept.parted.calm there) } }

theorem leave (kept : Kept w e) (opened : e.child.socket.parent.isOpen = true) :
    Kept w { e with
      child := { e.child with socket := e.child.socket.release .parent }
      left := some e.child.phase } := by
  have there : e.left = none := by
    cases gone : e.left with
    | none => rfl
    | some p => cases opened.symm.trans (kept.parted.closed_of_left gone)
  have held := kept.parted.held
  rw [there] at held
  exact
    { kept with
      course := kept.course.through _
      parted :=
        { held := by
            have less := Socket.holders_release e.child.socket .parent .parent
            simp only [Socket.get_parent, held] at less
            exact less
          calm := nofun
          early := fun p same => by obtain rfl := Option.some.inj same; exact ⟨id, id⟩
          unready := fun p same before => by
            obtain rfl := Option.some.inj same
            exact (kept.course.of_preparing before).1
          untold := fun p same before => by
            obtain rfl := Option.some.inj same
            exact kept.course.short before
          unheard := fun mounts empty after => by
            obtain ⟨p, gone, -⟩ := kept.parted.unheard mounts empty after
            cases there.symm.trans gone
          lost := fun o x member => by
            obtain ⟨p, gone, -⟩ := kept.parted.lost o x member
            cases there.symm.trans gone } }

theorem of_step (kept : Kept w e) (step : Exchange.Step w e f) : Kept w f := by
  cases step with
  | child actor t taken => exact kept.child taken
  | sends bytes =>
    obtain ⟨held, calm⟩ := Socket.send_of_parent e.child.socket bytes
    exact kept.call held calm
  | receives limit =>
    obtain ⟨held, calm⟩ := Socket.receive_of_parent e.child.socket limit
    exact kept.call held calm
  | leaves opened => exact kept.leave opened

end Kept

theorem kept_of_comes (comes : Exchange.Comes w e) : Kept w e := by
  induction comes with
  | refl => exact .start w
  | tail _ step kept => exact kept.of_step step

end Child

end NamespaceEntry
