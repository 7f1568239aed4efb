import NamespaceEntry.Text.Utf8

/-!
# Texts come back from their bytes

The bytes of a text are cut into its characters and nothing else, so that they are UTF-8, and what
is read of them is the text.
-/

namespace NamespaceEntry.Utf8

variable {b : UInt8} {n : Nat} {rest : Bytes}

/-! ### First bytes -/

theorem start_one (small : b.toNat < 0x80) : start b = .whole (.char (Char.ofNat b.toNat)) :=
  if_pos (UInt8.lt_iff_toNat_lt.mpr small)

theorem start_two (least : 0xC2 ≤ b.toNat) (most : b.toNat < 0xE0) :
    start b = .longer { bytes := [b], value := b.toNat - 0xC0, after := 0 } := by
  have first : ¬b.toNat < 0x80 := by omega
  have second : ¬b.toNat < 0xC2 := by omega
  simp [start, UInt8.lt_iff_toNat_lt, first, second, most]

/-- The second of three bytes is bounded so that the form is not too long and no surrogate. -/
theorem start_three (least : 0xE0 ≤ b.toNat) (most : b.toNat < 0xF0) :
    start b = .longer
      { bytes := [b]
        value := b.toNat - 0xE0
        after := 1
        least := if b.toNat = 0xE0 then 0xA0 else 0x80
        most := if b.toNat = 0xED then 0x9F else 0xBF } := by
  have first : ¬b.toNat < 0x80 := by omega
  have second : ¬b.toNat < 0xC2 := by omega
  have third : ¬b.toNat < 0xE0 := by omega
  by_cases short : b.toNat = 0xE0
  · simp [start, UInt8.lt_iff_toNat_lt, ← UInt8.toNat_inj, short]
  · by_cases surrogate : b.toNat = 0xED
    · simp [start, UInt8.lt_iff_toNat_lt, ← UInt8.toNat_inj, surrogate]
    · simp [start, UInt8.lt_iff_toNat_lt, ← UInt8.toNat_inj, first, second, third, short, surrogate,
        most]

/-- The second of four bytes is bounded so that the form is not too long and not past the last
character. -/
theorem start_four (least : 0xF0 ≤ b.toNat) (most : b.toNat ≤ 0xF4) :
    start b = .longer
      { bytes := [b]
        value := b.toNat - 0xF0
        after := 2
        least := if b.toNat = 0xF0 then 0x90 else 0x80
        most := if b.toNat = 0xF4 then 0x8F else 0xBF } := by
  have first : ¬b.toNat < 0x80 := by omega
  have second : ¬b.toNat < 0xC2 := by omega
  have third : ¬b.toNat < 0xE0 := by omega
  have fourth : ¬b.toNat < 0xF0 := by omega
  by_cases short : b.toNat = 0xF0
  · simp [start, UInt8.lt_iff_toNat_lt, ← UInt8.toNat_inj, short]
  · by_cases last : b.toNat = 0xF4
    · simp [start, UInt8.lt_iff_toNat_lt, ← UInt8.toNat_inj, last]
    · have fifth : b.toNat < 0xF4 := by omega
      have surrogate : b.toNat ≠ 0xED := by omega
      have other : b.toNat ≠ 0xE0 := by omega
      simp [start, UInt8.lt_iff_toNat_lt, ← UInt8.toNat_inj, first, second, third, fourth, short,
        last, fifth, surrogate, other]

/-! ### Further bytes -/

theorem piecesAfter_last {u : Unfinished} (fits : u.least ≤ b ∧ b ≤ u.most) (last : u.after = 0) :
    piecesAfter (some u) (b :: rest) = .char (Char.ofNat (u.add b)) :: piecesAfter none rest := by
  rw [piecesAfter, if_pos fits, last]

theorem piecesAfter_next {u : Unfinished} (fits : u.least ≤ b ∧ b ≤ u.most)
    (more : u.after = n + 1) :
    piecesAfter (some u) (b :: rest) =
      piecesAfter (some { bytes := u.bytes ++ [b], value := u.add b, after := n }) rest := by
  rw [piecesAfter, if_pos fits, more]

def continuation (n : Nat) : UInt8 := UInt8.ofNat (n % 64 + 0x80)

theorem toNat_ofNat (small : n < 256) : (UInt8.ofNat n).toNat = n := by
  rw [UInt8.toNat_ofNat']
  omega

theorem toNat_continuation (n : Nat) : (continuation n).toNat = n % 64 + 0x80 := by
  rw [continuation, toNat_ofNat (by omega)]

theorem continuation_within {least most : UInt8} (low : least.toNat ≤ n % 64 + 0x80)
    (high : n % 64 + 0x80 ≤ most.toNat) : least ≤ continuation n ∧ continuation n ≤ most := by
  rw [UInt8.le_iff_toNat_le, UInt8.le_iff_toNat_le, toNat_continuation]
  exact ⟨low, high⟩

theorem continuation_fits (n : Nat) : 0x80 ≤ continuation n ∧ continuation n ≤ 0xBF :=
  continuation_within (by simp) (by simp; omega)

theorem add_continuation {u : Unfinished} : u.add (continuation n) = u.value * 64 + n % 64 := by
  have value := toNat_continuation n
  unfold Unfinished.add
  omega

theorem second_of_three {v : Nat} (least : 0x800 ≤ v) (most : v < 0x10000)
    (single : v < 0xD800 ∨ 0xDFFF < v) :
    (if v / 4096 % 16 + 224 = 0xE0 then 0xA0 else 0x80) ≤ continuation (v / 64) ∧
      continuation (v / 64) ≤ if v / 4096 % 16 + 224 = 0xED then 0x9F else 0xBF := by
  apply continuation_within
  · split
    · show 0xA0 ≤ v / 64 % 64 + 0x80
      omega
    · exact Nat.le_add_left ..
  · split
    · show v / 64 % 64 + 0x80 ≤ 0x9F
      omega
    · show v / 64 % 64 + 0x80 ≤ 0xBF
      omega

theorem second_of_four {v : Nat} (least : 0x10000 ≤ v) (most : v < 0x110000) :
    (if v / 262144 % 8 + 240 = 0xF0 then 0x90 else 0x80) ≤ continuation (v / 4096) ∧
      continuation (v / 4096) ≤ if v / 262144 % 8 + 240 = 0xF4 then 0x8F else 0xBF := by
  apply continuation_within
  · split
    · show 0x90 ≤ v / 4096 % 64 + 0x80
      omega
    · exact Nat.le_add_left ..
  · split
    · show v / 4096 % 64 + 0x80 ≤ 0x8F
      omega
    · show v / 4096 % 64 + 0x80 ≤ 0xBF
      omega

theorem piecesAfter_two {v : Nat} (least : 0x80 ≤ v) (most : v < 0x800) :
    piecesAfter none (UInt8.ofNat (v / 64 % 32 + 192) :: continuation v :: rest) =
      .char (Char.ofNat v) :: piecesAfter none rest := by
  have first := toNat_ofNat (n := v / 64 % 32 + 192) (by omega)
  have whole : (v / 64 % 32 + 192 - 0xC0) * 64 + v % 64 = v := by omega
  rw [piecesAfter, start_two (by omega) (by omega)]
  dsimp only
  rw [piecesAfter_last (continuation_fits v) rfl, add_continuation, first, whole]

theorem piecesAfter_three {v : Nat} (least : 0x800 ≤ v) (most : v < 0x10000)
    (single : v < 0xD800 ∨ 0xDFFF < v) :
    piecesAfter none (UInt8.ofNat (v / 4096 % 16 + 224) :: continuation (v / 64) ::
      continuation v :: rest) = .char (Char.ofNat v) :: piecesAfter none rest := by
  have first := toNat_ofNat (n := v / 4096 % 16 + 224) (by omega)
  have whole : ((v / 4096 % 16 + 224 - 0xE0) * 64 + v / 64 % 64) * 64 + v % 64 = v := by omega
  rw [piecesAfter, start_three (by omega) (by omega), first]
  dsimp only
  rw [piecesAfter_next (n := 0), piecesAfter_last (continuation_fits v) rfl, add_continuation,
    add_continuation, whole]
  · exact second_of_three least most single
  · rfl

theorem piecesAfter_four {v : Nat} (least : 0x10000 ≤ v) (most : v < 0x110000) :
    piecesAfter none (UInt8.ofNat (v / 262144 % 8 + 240) :: continuation (v / 4096) ::
      continuation (v / 64) :: continuation v :: rest) =
      .char (Char.ofNat v) :: piecesAfter none rest := by
  have first := toNat_ofNat (n := v / 262144 % 8 + 240) (by omega)
  have whole : (((v / 262144 % 8 + 240 - 0xF0) * 64 + v / 4096 % 64) * 64 + v / 64 % 64) * 64 +
      v % 64 = v := by
    omega
  rw [piecesAfter, start_four (by omega) (by omega), first]
  dsimp only
  rw [piecesAfter_next (n := 1), piecesAfter_next (n := 0), piecesAfter_last, add_continuation,
    add_continuation, add_continuation, whole]
  · exact continuation_fits v
  · rfl
  · exact continuation_fits (v / 64)
  · rfl
  · exact second_of_four least most
  · rfl

theorem piecesAfter_encode (c : Char) (rest : Bytes) :
    piecesAfter none (String.utf8EncodeChar c ++ rest) = .char c :: piecesAfter none rest := by
  have valid := c.valid
  have same : Char.ofNat c.val.toNat = c := Char.ofNat_toNat c
  generalize value : c.val.toNat = v at same
  have range : v < 0xD800 ∨ 0xDFFF < v ∧ v < 0x110000 := value ▸ valid
  -- One case for each number of bytes.
  unfold String.utf8EncodeChar
  simp only [value]
  conv => rhs; rw [← same]
  split
  · have first := toNat_ofNat (n := v) (by omega)
    show piecesAfter none (UInt8.ofNat v :: rest) = _
    rw [piecesAfter, start_one (by omega), first]
  · split
    · exact piecesAfter_two (by omega) (by omega)
    · split
      · exact piecesAfter_three (by omega) (by omega) (by omega)
      · exact piecesAfter_four (by omega) (by omega)

/-! ### Texts -/

theorem pieces_ofString (text : String) : pieces (Bytes.ofString text) = text.toList.map .char := by
  unfold pieces Bytes.ofString
  induction text.toList with
  | nil => rfl
  | cons c rest ih => rw [List.flatMap_cons, piecesAfter_encode, ih, List.map_cons]

@[simp] theorem lossy_ofString (text : String) : lossy (Bytes.ofString text) = text := by
  rw [lossy, pieces_ofString, List.map_map]
  have chars : text.toList.map (Piece.lossy ∘ .char) = text.toList := List.map_id _
  rw [chars, String.ofList_toList]

@[simp] theorem decode?_ofString (text : String) : decode? (Bytes.ofString text) = some text := by
  have chars : (text.toList.map Piece.char).mapM Piece.char? = some text.toList := by
    induction text.toList with
    | nil => rfl
    | cons c rest ih => rw [List.map_cons, List.mapM_cons, ih]; rfl
  rw [decode?, pieces_ofString, chars, Option.map_some, String.ofList_toList]

end NamespaceEntry.Utf8
