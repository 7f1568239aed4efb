import NamespaceEntry.Id.Range
import NamespaceEntry.Proofs.Text.Numerals

/-!
# Ranges and their tokens

A range is written as three literals. `read_eq_ok` shows that the reader makes a range of three
tokens just if they write it, and `valid_iff` which tokens write a range at all.
-/

namespace NamespaceEntry

/-- What an error is called does not matter to what succeeds. -/
theorem mapError_eq_ok {ε ε' α : Type} {f : ε → ε'} {x : Except ε α} {a : α} :
    x.mapError f = .ok a ↔ x = .ok a := by
  cases x with
  | error e => exact ⟨nofun, nofun⟩
  | ok b =>
    constructor
    · intro same
      cases same
      rfl
    · intro same
      cases same
      rfl

theorem bind_eq_ok {ε α β : Type} {x : Except ε α} {f : α → Except ε β} {b : β} :
    x >>= f = .ok b ↔ ∃ a, x = .ok a ∧ f a = .ok b := by
  cases x with
  | error e =>
    constructor
    · nofun
    · rintro ⟨_, ⟨⟩, -⟩
  | ok a =>
    constructor
    · exact fun done => ⟨a, rfl, done⟩
    · rintro ⟨_, ⟨⟩, done⟩
      exact done

theorem mapError_eq_error {ε ε' α : Type} {f : ε → ε'} {x : Except ε α} {e' : ε'} :
    x.mapError f = .error e' ↔ ∃ e, x = .error e ∧ f e = e' := by
  cases x with
  | error e => simp [Except.mapError]
  | ok a => simp [Except.mapError]

theorem bind_eq_error {ε α β : Type} {x : Except ε α} {f : α → Except ε β} {e : ε} :
    x >>= f = .error e ↔ x = .error e ∨ ∃ a, x = .ok a ∧ f a = .error e := by
  cases x with
  | error e' => simp [bind, Except.bind]
  | ok a => simp [bind, Except.bind]

namespace IdRange

open Numeral (Literal)

structure Triple where
  namespaceStart : String
  hostStart : String
  count : String

namespace Triple

def tokens (x : Triple) : List String := [x.namespaceStart, x.hostStart, x.count]

structure Writes (kind : IdKind) (x : Triple) (r : IdRange) : Prop where
  kind : r.kind = kind
  namespaceStart : Literal x.namespaceStart r.namespaceStart.toNat
  hostStart : Literal x.hostStart r.hostStart.toNat
  count : Literal x.count r.count.toNat

/-- The tokens are 32-bit numbers, the last one is positive, and neither run of ids that they tell
reaches past the last id. -/
def Valid (x : Triple) : Prop :=
  ∃ a b n, Literal x.namespaceStart a ∧ Literal x.hostStart b ∧ Literal x.count n ∧
    (a < UInt32.size ∧ b < UInt32.size ∧ n < UInt32.size) ∧
    0 < n ∧ a + n < UInt32.size ∧ b + n < UInt32.size

end Triple

variable {kind : IdKind} {a b n : UInt32} {r : IdRange} {fault : Fault}

theorem make_eq_ok : make kind a b n = .ok r ↔
    r.kind = kind ∧ r.namespaceStart = a ∧ r.hostStart = b ∧ r.count = n := by
  unfold make
  constructor
  · intro made
    split at made
    · split at made
      · obtain rfl := Except.ok.inj made
        exact ⟨rfl, rfl, rfl, rfl⟩
      · cases made
    · cases made
  · rintro ⟨rfl, rfl, rfl, rfl⟩
    rw [dif_pos r.count_pos, dif_pos ⟨r.namespace_fits, r.host_fits⟩]

theorem make_eq_error : make kind a b n = .error fault ↔
    (n = 0 ∧ fault = .zeroLength kind a b) ∨
      0 < n.toNat ∧ (4294967296 ≤ a.toNat + n.toNat ∨ 4294967296 ≤ b.toNat + n.toNat) ∧
        fault = .overflow kind a b n := by
  have size : UInt32.size = 4294967296 := rfl
  have zero : n = 0 ↔ n.toNat = 0 := UInt32.toNat_inj.symm
  unfold make
  rw [zero]
  split
  · rename_i positive
    split
    · rename_i fits
      constructor
      · nofun
      · rintro (⟨none, -⟩ | ⟨-, far, -⟩) <;> omega
    · rename_i unfit
      constructor
      · intro refused
        obtain rfl := Except.error.inj refused
        exact Or.inr ⟨positive, by omega, rfl⟩
      · rintro (⟨none, -⟩ | ⟨-, -, rfl⟩)
        · omega
        · rfl
  · rename_i empty
    constructor
    · intro refused
      obtain rfl := Except.error.inj refused
      exact Or.inl ⟨by omega, rfl⟩
    · rintro (⟨-, rfl⟩ | ⟨some, -⟩)
      · rfl
      · exact absurd some empty

theorem readField_eq_ok {field : Field} {value : String} :
    readField kind field value = .ok n ↔ Literal value n.toNat := by
  rw [← Numeral.read_eq_ok, readField, mapError_eq_ok]

theorem readField_eq_error {field : Field} {value : String} :
    readField kind field value = .error fault ↔
      ∃ cause, Numeral.refusal? value.toList = some cause ∧
        fault = .unreadable kind field value cause := by
  rw [readField, mapError_eq_error]
  simp only [Numeral.read_eq_error, eq_comm (a := fault)]

theorem read_eq_ok {x : Triple} :
    read kind x.namespaceStart x.hostStart x.count = .ok r ↔ x.Writes kind r := by
  simp only [read, bind_eq_ok, readField_eq_ok, make_eq_ok]
  constructor
  · rintro ⟨a, first, b, second, n, third, same, rfl, rfl, rfl⟩
    exact ⟨same, first, second, third⟩
  · intro writes
    exact ⟨_, writes.namespaceStart, _, writes.hostStart, _, writes.count, writes.kind,
      rfl, rfl, rfl⟩

theorem valid_iff (kind : IdKind) {x : Triple} : x.Valid ↔ ∃ r, x.Writes kind r := by
  constructor
  · rintro ⟨a, b, n, first, second, third, ⟨ha, hb, hn⟩, positive, fits, hostFits⟩
    have ea : a.toUInt32.toNat = a := UInt32.toNat_ofNat_of_lt' ha
    have eb : b.toUInt32.toNat = b := UInt32.toNat_ofNat_of_lt' hb
    have en : n.toUInt32.toNat = n := UInt32.toNat_ofNat_of_lt' hn
    refine ⟨⟨kind, a.toUInt32, b.toUInt32, n.toUInt32, ?_, ?_, ?_⟩, rfl, ?_, ?_, ?_⟩
    · omega
    · omega
    · omega
    · exact ea.symm ▸ first
    · exact eb.symm ▸ second
    · exact en.symm ▸ third
  · rintro ⟨r, writes⟩
    have positive := r.count_pos
    have fits := r.namespace_fits
    have hostFits := r.host_fits
    refine ⟨_, _, _, writes.namespaceStart, writes.hostStart, writes.count, ?_⟩
    omega

end IdRange

end NamespaceEntry
