import NamespaceEntry.Error
import NamespaceEntry.Proofs.Id.Ranges

/-!
# The fields of a range

Three texts are read as the fields of a range, each for itself. `read_eq_error` shows that the first
one that is no 32-bit number is what is reported, whatever else is wrong, and that a range is
complained of only when all of them are numbers.
-/

namespace NamespaceEntry.IdRange

open Numeral (Fits Literal Pads)

def Field.place : Field → Nat
  | .namespaceStart => 0
  | .hostStart => 1
  | .count => 2

def get (r : IdRange) : Field → UInt32
  | .namespaceStart => r.namespaceStart
  | .hostStart => r.hostStart
  | .count => r.count

namespace Triple

def get (x : Triple) : Field → String
  | .namespaceStart => x.namespaceStart
  | .hostStart => x.hostStart
  | .count => x.count

/-- The field is no 32-bit number, and all fields before it are. -/
def FirstBad (x : Triple) (field : Field) : Prop :=
  ¬Fits (x.get field) ∧ ∀ earlier : Field, earlier.place < field.place → Fits (x.get earlier)

structure Tells (x : Triple) (a b n : UInt32) : Prop where
  namespaceStart : Literal x.namespaceStart a.toNat
  hostStart : Literal x.hostStart b.toNat
  count : Literal x.count n.toNat

/-- What is wrong with three texts. A range is complained of only if all of them are numbers, and
then for being empty before anything else. -/
inductive Complaint (kind : IdKind) (x : Triple) : Fault → Prop where
  | unreadable {field : Field} {cause : Numeral.Fault} (first : x.FirstBad field)
      (refused : Numeral.refusal? (x.get field).toList = some cause) :
      Complaint kind x (.unreadable kind field (x.get field) cause)
  | zeroLength {a b : UInt32} (tells : x.Tells a b 0) : Complaint kind x (.zeroLength kind a b)
  | overflow {a b n : UInt32} (tells : x.Tells a b n) (some : 0 < n.toNat)
      (far : 4294967296 ≤ a.toNat + n.toNat ∨ 4294967296 ≤ b.toNat + n.toNat) :
      Complaint kind x (.overflow kind a b n)

end Triple

def Names (kind : IdKind) (field : Field) (words : String) : Prop :=
  ∃ rest, words =
    "Invalid configuration: " ++ ("invalid " ++ kind.name ++ " " ++ field.name ++ " '" ++ rest)

variable {kind : IdKind} {x : Triple} {fault : Fault} {field other : Field} {a b n : UInt32}
  {r : IdRange} {value : String} {cause : Numeral.Fault}

theorem Field.forall_iff {p : Field → Prop} :
    (∀ field, p field) ↔ p .namespaceStart ∧ p .hostStart ∧ p .count := by
  constructor
  · exact fun all => ⟨all _, all _, all _⟩
  · rintro ⟨first, second, third⟩ (_ | _ | _)
    · exact first
    · exact second
    · exact third

theorem Field.place_inj : field.place = other.place ↔ field = other := by
  cases field <;> cases other <;> decide

namespace Triple

/-! ### The first bad field -/

theorem firstBad_namespaceStart : x.FirstBad .namespaceStart ↔ ¬Fits x.namespaceStart := by
  simp [FirstBad, Field.place, get]

theorem firstBad_hostStart :
    x.FirstBad .hostStart ↔ ¬Fits x.hostStart ∧ Fits x.namespaceStart := by
  simp [FirstBad, Field.forall_iff, Field.place, get]

theorem firstBad_count :
    x.FirstBad .count ↔ ¬Fits x.count ∧ Fits x.namespaceStart ∧ Fits x.hostStart := by
  simp [FirstBad, Field.forall_iff, Field.place, get]

theorem FirstBad.unique (first : x.FirstBad field) (second : x.FirstBad other) :
    field = other := by
  have before : ¬field.place < other.place := fun less => first.1 (second.2 field less)
  have behind : ¬other.place < field.place := fun less => second.1 (first.2 other less)
  exact Field.place_inj.mp (by omega)

theorem exists_firstBad (field : Field) (bad : ¬Fits (x.get field)) :
    ∃ first, x.FirstBad first := by
  by_cases first : ∀ earlier : Field, earlier.place < field.place → Fits (x.get earlier)
  · exact ⟨field, bad, first⟩
  · obtain ⟨earlier, other⟩ := not_forall.mp first
    obtain ⟨before, bad⟩ := Classical.not_imp.mp other
    exact exists_firstBad earlier bad
  termination_by field.place

theorem Tells.fits (tells : x.Tells a b n) : ∀ field, Fits (x.get field) := by
  rw [Field.forall_iff]
  exact ⟨Numeral.fits_iff.mpr ⟨a, tells.namespaceStart⟩, Numeral.fits_iff.mpr ⟨b, tells.hostStart⟩,
    Numeral.fits_iff.mpr ⟨n, tells.count⟩⟩

end Triple

/-! ### Reading -/

theorem exists_readField_iff :
    (∃ n, readField kind field value = .ok n) ↔ Fits value := by
  simp only [Numeral.fits_iff, readField_eq_ok]

theorem read_eq_ok_iff : read kind x.namespaceStart x.hostStart x.count = .ok r ↔
    r.kind = kind ∧ ∀ field, Literal (x.get field) (r.get field).toNat := by
  rw [read_eq_ok, Field.forall_iff]
  constructor
  · exact fun writes => ⟨writes.kind, writes.namespaceStart, writes.hostStart, writes.count⟩
  · rintro ⟨same, first, second, third⟩
    exact ⟨same, first, second, third⟩

theorem read_eq_error : read kind x.namespaceStart x.hostStart x.count = .error fault ↔
    x.Complaint kind fault := by
  simp only [read, bind_eq_error, readField_eq_ok, readField_eq_error, make_eq_error]
  constructor
  · rintro (⟨cause, refused, rfl⟩ | ⟨a, first, ⟨cause, refused, rfl⟩ | ⟨b, second,
      ⟨cause, refused, rfl⟩ | ⟨n, third, ⟨rfl, rfl⟩ | ⟨some, far, rfl⟩⟩⟩⟩)
    · have bad := Numeral.exists_refusal_iff.mp ⟨cause, refused⟩
      exact .unreadable (Triple.firstBad_namespaceStart.mpr bad) refused
    · have bad := Numeral.exists_refusal_iff.mp ⟨cause, refused⟩
      have fits := Numeral.fits_iff.mpr ⟨a, first⟩
      exact .unreadable (Triple.firstBad_hostStart.mpr ⟨bad, fits⟩) refused
    · have bad := Numeral.exists_refusal_iff.mp ⟨cause, refused⟩
      have fits := Numeral.fits_iff.mpr ⟨a, first⟩
      have fits' := Numeral.fits_iff.mpr ⟨b, second⟩
      exact .unreadable (Triple.firstBad_count.mpr ⟨bad, fits, fits'⟩) refused
    · exact .zeroLength ⟨first, second, third⟩
    · exact .overflow ⟨first, second, third⟩ some far
  · intro complaint
    cases complaint with
    | @unreadable field cause bad refused =>
      cases field with
      | namespaceStart => exact Or.inl ⟨cause, refused, rfl⟩
      | hostStart =>
        obtain ⟨-, fits⟩ := Triple.firstBad_hostStart.mp bad
        obtain ⟨a, first⟩ := Numeral.fits_iff.mp fits
        exact Or.inr ⟨a, first, Or.inl ⟨cause, refused, rfl⟩⟩
      | count =>
        obtain ⟨-, fits, fits'⟩ := Triple.firstBad_count.mp bad
        obtain ⟨a, first⟩ := Numeral.fits_iff.mp fits
        obtain ⟨b, second⟩ := Numeral.fits_iff.mp fits'
        exact Or.inr ⟨a, first, Or.inr ⟨b, second, Or.inl ⟨cause, refused, rfl⟩⟩⟩
    | @zeroLength a b tells =>
      exact Or.inr ⟨a, tells.namespaceStart, Or.inr ⟨b, tells.hostStart, Or.inr ⟨0, tells.count,
        Or.inl ⟨rfl, rfl⟩⟩⟩⟩
    | @overflow a b n tells some far =>
      exact Or.inr ⟨a, tells.namespaceStart, Or.inr ⟨b, tells.hostStart, Or.inr ⟨n, tells.count,
        Or.inr ⟨some, far, rfl⟩⟩⟩⟩

/-! ### Words -/

theorem Field.eq_of_name_append {s t : String} (same : field.name ++ s = other.name ++ t) :
    field = other := by
  -- No two names begin alike.
  have heads := congrArg (fun words => words.toList.head?) same
  simp only [String.toList_append] at heads
  cases field <;> cases other <;> first | rfl | cases heads

theorem names_unreadable :
    Names kind field (Error.invalidConfig (.range (.unreadable kind other value cause))).message ↔
      field = other := by
  have message : (Error.invalidConfig (.range (.unreadable kind other value cause))).message =
      "Invalid configuration: " ++ ("invalid " ++ kind.name ++ " " ++ other.name ++ " '" ++ value ++
        "': " ++ cause.message) := rfl
  rw [message]
  simp only [Names, String.append_assoc, String.append_right_inj]
  constructor
  · rintro ⟨rest, same⟩
    exact (Field.eq_of_name_append same).symm
  · rintro rfl
    exact ⟨value ++ ("': " ++ cause.message), rfl⟩

theorem not_names_range {words : String} :
    ¬Names kind field ("Invalid configuration: " ++ (kind.name ++ words)) := by
  rintro ⟨rest, same⟩
  have heads := congrArg (fun words => words.toList.head?) ((String.append_right_inj _).mp same)
  simp only [String.toList_append] at heads
  cases kind <;> cases heads

theorem not_names_zeroLength :
    ¬Names kind field (Error.invalidConfig (.range (.zeroLength kind a b))).message := by
  have message : (Error.invalidConfig (.range (.zeroLength kind a b))).message =
      "Invalid configuration: " ++ (kind.name ++ " range " ++ joinFields [a, b] ++
        " has zero length") := rfl
  rw [message, String.append_assoc, String.append_assoc]
  exact not_names_range

theorem not_names_overflow :
    ¬Names kind field (Error.invalidConfig (.range (.overflow kind a b n))).message := by
  have message : (Error.invalidConfig (.range (.overflow kind a b n))).message =
      "Invalid configuration: " ++ (kind.name ++ " range " ++ joinFields [a, b, n] ++
        " overflows the id space") := rfl
  rw [message, String.append_assoc, String.append_assoc]
  exact not_names_range

/-- A complaint is about the first bad field, or about none if there is no bad one. -/
theorem Triple.Complaint.names_iff (complaint : x.Complaint kind fault) :
    Names kind field (Error.invalidConfig (.range fault)).message ↔ x.FirstBad field := by
  cases complaint with
  | unreadable first refused =>
    rw [names_unreadable]
    constructor
    · rintro rfl
      exact first
    · exact fun bad => bad.unique first
  | zeroLength tells =>
    exact iff_of_false not_names_zeroLength fun bad => bad.1 (tells.fits field)
  | overflow tells =>
    exact iff_of_false not_names_overflow fun bad => bad.1 (tells.fits field)

/-! ### Field by field -/

/-- Whatever the length of three texts, a field is read just if it is a literal below 2^32, and as
the number that it writes, with a plus sign and zeros in front of it or not. If there are fields
that are none, the words of the refusal name the first of them. A range is refused as empty or for
reaching too far only if all three are numbers. -/
theorem reads_fields_exactly (kind : IdKind) (x : Triple) :
    (∀ field n, readField kind field (x.get field) = .ok n ↔ Literal (x.get field) n.toNat) ∧
    (∀ field n, readField kind field (x.get field) = .ok n ↔
      Pads (x.get field) (Numeral.write n)) ∧
    (∀ field, (∃ n, readField kind field (x.get field) = .ok n) ↔ Fits (x.get field)) ∧
    (∀ r, read kind x.namespaceStart x.hostStart x.count = .ok r ↔
      r.kind = kind ∧ ∀ field, Literal (x.get field) (r.get field).toNat) ∧
    (∀ fault, read kind x.namespaceStart x.hostStart x.count = .error fault ↔
      x.Complaint kind fault) ∧
    (∀ field, (∃ fault, read kind x.namespaceStart x.hostStart x.count = .error fault ∧
      Names kind field (Error.invalidConfig (.range fault)).message) ↔ x.FirstBad field) ∧
    ((∃ field, x.FirstBad field) ↔ ∃ field, ¬Fits (x.get field)) := by
  refine ⟨fun _ _ => readField_eq_ok, ?_, fun _ => exists_readField_iff, fun _ => read_eq_ok_iff,
    fun _ => read_eq_error, ?_, ?_⟩
  · intro field n
    rw [readField_eq_ok, Numeral.literal_iff_pads]
  · intro field
    simp only [read_eq_error]
    constructor
    · rintro ⟨fault, complaint, named⟩
      exact complaint.names_iff.mp named
    · intro bad
      obtain ⟨cause, refused⟩ := Numeral.exists_refusal_iff.mpr bad.1
      have complaint : x.Complaint kind _ := .unreadable bad refused
      exact ⟨_, complaint, complaint.names_iff.mpr bad⟩
  · constructor
    · rintro ⟨field, bad, -⟩
      exact ⟨field, bad⟩
    · rintro ⟨field, bad⟩
      exact Triple.exists_firstBad field bad

/-- The range would be empty, and two fields are bad. The first of these is reported. -/
example : read .gid "4294967296" "-5" "0" =
    .error (.unreadable .gid .namespaceStart "4294967296" .tooLarge) := by
  decide +kernel

end NamespaceEntry.IdRange
