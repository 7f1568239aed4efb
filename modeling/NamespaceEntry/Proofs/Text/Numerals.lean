import Mathlib.Data.List.Induction
import Mathlib.Data.List.TakeWhile
import NamespaceEntry.Text.Numeral

/-!
# What a numeral is

`Literal` says which texts are numerals and of which numbers, without a word about how they are
read. `read_eq_ok` shows that the reader accepts the literals below 2^32 and gives their values,
however long they are, `read_eq_error` what it says of all other texts, and `literal_iff_pads` that
the literals are the written numerals behind zeros and a plus sign.
-/

namespace NamespaceEntry.Numeral

/-- One or more digits of a value, after a plus sign or not. -/
def Literal (text : String) (n : Nat) : Prop :=
  ∃ digits : List Char, (text.toList = digits ∨ text.toList = '+' :: digits) ∧ digits ≠ [] ∧
    (∀ c ∈ digits, c.isDigit) ∧ Nat.ofDigitChars 10 digits 0 = n

variable {c : Char} {n m : Nat} {digits text : List Char} {fault : Fault}

theorem digit?_of_isDigit (digit : c.isDigit) :
    digit? c = some (c.toNat - '0'.toNat) := by
  simp only [Char.isDigit, Bool.and_eq_true, decide_eq_true_eq] at digit
  exact if_pos digit

theorem digit?_of_not_isDigit (other : ¬c.isDigit) : digit? c = none := by
  simp only [Char.isDigit, Bool.and_eq_true, decide_eq_true_eq] at other
  exact if_neg other

/-- More digits never make the value smaller, so a value that is too large once stays so. -/
theorem le_ofDigitChars (n : Nat) (digits : List Char) : n ≤ Nat.ofDigitChars 10 digits n := by
  induction digits generalizing n with
  | nil => exact Nat.le_refl n
  | cons c rest ih =>
    rw [Nat.ofDigitChars_cons]
    have later := ih (10 * n + (c.toNat - '0'.toNat))
    omega

theorem readDigits_eq (small : n < UInt32.size) :
    readDigits n digits =
      if UInt32.size ≤ Nat.ofDigitChars 10 (digits.takeWhile Char.isDigit) n then .error .tooLarge
      else if digits.takeWhile Char.isDigit = digits then .ok (Nat.ofDigitChars 10 digits n)
      else .error .notDigit := by
  induction digits generalizing n with
  | nil => simp [readDigits, Nat.not_le_of_lt small]
  | cons c rest ih =>
    by_cases digit : c.isDigit
    · rw [List.takeWhile_cons_of_pos digit, Nat.ofDigitChars_cons, Nat.ofDigitChars_cons,
        Nat.mul_comm 10 n]
      by_cases next : n * 10 + (c.toNat - '0'.toNat) < UInt32.size
      · simp only [readDigits, digit?_of_isDigit digit, next, if_true, ih next, List.cons.injEq,
          true_and]
      · -- The reader stops here, and the digits that it does not see only add to the value.
        have later := le_ofDigitChars (n * 10 + (c.toNat - '0'.toNat))
          (rest.takeWhile Char.isDigit)
        rw [if_pos (by omega)]
        simp only [readDigits, digit?_of_isDigit digit, next, if_false]
    · rw [List.takeWhile_cons_of_neg digit, Nat.ofDigitChars_nil]
      simp [readDigits, digit?_of_not_isDigit digit, Nat.not_le_of_lt small]

theorem readDigits_eq_ok (small : n < UInt32.size) :
    readDigits n digits = .ok m ↔ (∀ c ∈ digits, c.isDigit) ∧
      Nat.ofDigitChars 10 digits n = m ∧ m < UInt32.size := by
  rw [readDigits_eq small, ← List.takeWhile_eq_self_iff]
  by_cases whole : digits.takeWhile Char.isDigit = digits
  · rw [whole, if_pos rfl]
    split
    · constructor
      · nofun
      · rintro ⟨-, rfl, fits⟩
        omega
    · rename_i fits
      constructor
      · intro done
        obtain rfl := Except.ok.inj done
        exact ⟨rfl, rfl, Nat.lt_of_not_le fits⟩
      · rintro ⟨-, rfl, -⟩
        rfl
  · rw [if_neg whole]
    constructor
    · intro done
      split at done <;> cases done
    · exact fun all => absurd all.1 whole

/-- A sign is no digit, so a literal is signed or not, and never both. -/
theorem unsigned_eq_iff (some : digits ≠ []) (all : ∀ c ∈ digits, c.isDigit) :
    unsigned text = digits ↔ text = digits ∨ text = '+' :: digits := by
  unfold unsigned
  split
  · rename_i rest
    have unsigned : '+' :: rest ≠ digits := by
      rintro rfl
      cases all '+' List.mem_cons_self
    simp [unsigned]
  · rename_i signed
    have unsigned : text ≠ '+' :: digits := signed digits
    simp [unsigned]

theorem readChars_eq_ok :
    readChars text = .ok m ↔ ∃ digits, (text = digits ∨ text = '+' :: digits) ∧ digits ≠ [] ∧
      (∀ c ∈ digits, c.isDigit) ∧ Nat.ofDigitChars 10 digits 0 = m ∧ m < UInt32.size := by
  have zero : 0 < UInt32.size := by decide
  constructor
  · intro done
    unfold readChars at done
    split at done
    · cases done
    · split at done
      · cases done
      · rename_i more
        obtain ⟨all, value, fits⟩ := (readDigits_eq_ok zero).mp done
        exact ⟨unsigned text, (unsigned_eq_iff more all).mp rfl, more, all, value, fits⟩
  · rintro ⟨digits, written, more, all, value, fits⟩
    have same := (unsigned_eq_iff more all).mpr written
    unfold readChars
    split
    · rcases written with rfl | signed
      · exact absurd rfl more
      · cases signed
    · rw [same]
      split
      · exact absurd rfl more
      · exact (readDigits_eq_ok zero).mpr ⟨all, value, fits⟩

/-- Whatever its length, a text is read just if it is a literal, and as what it says. -/
theorem read_eq_ok {text : String} {n : UInt32} : read text = .ok n ↔ Literal text n.toNat := by
  have size := n.toNat_lt_size
  unfold read
  constructor
  · intro done
    cases chars : readChars text.toList with
    | error fault => rw [chars] at done; cases done
    | ok m =>
      rw [chars] at done
      obtain ⟨digits, written, more, all, rfl, fits⟩ := readChars_eq_ok.mp chars
      obtain rfl := Except.ok.inj done
      exact ⟨digits, written, more, all, (UInt32.toNat_ofNat_of_lt' fits).symm⟩
  · rintro ⟨digits, written, more, all, value⟩
    rw [readChars_eq_ok.mpr ⟨digits, written, more, all, value, size⟩]
    exact congrArg Except.ok UInt32.ofNat_toNat

/-! ### What is refused -/

def Fits (text : String) : Prop := ∃ n < 4294967296, Literal text n

theorem fits_iff {text : String} : Fits text ↔ ∃ n : UInt32, Literal text n.toNat := by
  constructor
  · rintro ⟨n, small, literal⟩
    have same : n.toUInt32.toNat = n := UInt32.toNat_ofNat_of_lt' small
    exact ⟨n.toUInt32, same.symm ▸ literal⟩
  · rintro ⟨n, literal⟩
    exact ⟨n.toNat, n.toNat_lt_size, literal⟩

/-- The digits before anything else, behind a plus sign or not. -/
def leading (text : List Char) : List Char := (unsigned text).takeWhile Char.isDigit

/-- Why a text is refused, if it is: it is empty, its leading digits are too large, or there are
none of them or something behind them. -/
def refusal? (text : List Char) : Option Fault :=
  if text = [] then some .empty
  else if 4294967296 ≤ Nat.ofDigitChars 10 (leading text) 0 then some .tooLarge
  else if leading text = [] ∨ leading text ≠ unsigned text then some .notDigit
  else none

theorem readChars_eq_error : readChars text = .error fault ↔ refusal? text = some fault := by
  have zero : 0 < UInt32.size := by decide
  have size : UInt32.size = 4294967296 := rfl
  unfold readChars refusal? leading
  split
  · simp
  · rename_i some
    rw [if_neg some]
    split
    · rename_i lone
      simp [lone]
    · rename_i more
      have more : unsigned text ≠ [] := more
      rw [readDigits_eq zero, size]
      by_cases whole : (unsigned text).takeWhile Char.isDigit = unsigned text
      · rw [whole]
        by_cases large : 4294967296 ≤ Nat.ofDigitChars 10 (unsigned text) 0 <;>
          simp [large, more]
      · by_cases large : 4294967296 ≤
            Nat.ofDigitChars 10 ((unsigned text).takeWhile Char.isDigit) 0 <;>
          simp [large, whole]

theorem read_eq_error {text : String} :
    read text = .error fault ↔ refusal? text.toList = some fault := by
  rw [← readChars_eq_error, read]
  cases readChars text.toList <;> simp [Except.map]

/-- All texts but the literals of 32-bit numbers are refused. -/
theorem exists_refusal_iff {text : String} :
    (∃ fault, refusal? text.toList = some fault) ↔ ¬Fits text := by
  simp only [← read_eq_error, fits_iff, ← read_eq_ok]
  cases read text <;> simp

/-! ### What is written -/

/-- A text is a plain one with zeros in front of it, and a plus sign in front of these or not. -/
def Pads (text plain : String) : Prop :=
  ∃ k, text.toList = List.replicate k '0' ++ plain.toList ∨
    text.toList = '+' :: (List.replicate k '0' ++ plain.toList)

theorem toList_write (n : UInt32) : (write n).toList = Nat.toDigits 10 n.toNat := Nat.toList_repr

theorem toDigits_inj {a b : Nat} : Nat.toDigits 10 a = Nat.toDigits 10 b ↔ a = b := by
  constructor
  · intro same
    simpa using congrArg (Nat.ofDigitChars 10 · 0) same
  · exact congrArg (Nat.toDigits 10)

theorem write_inj {a b : UInt32} : write a = write b ↔ a = b := by
  rw [← String.toList_inj, toList_write, toList_write, toDigits_inj, UInt32.toNat_inj]

theorem toList_toString (a : Int) : (toString a).toList =
    if a < 0 then '-' :: Nat.toDigits 10 a.natAbs else Nat.toDigits 10 a.natAbs := by
  cases a with
  | ofNat n => simp [Int.repr]
  | negSucc n => simp [Int.repr]

theorem toString_inj {a b : Int} : toString a = toString b ↔ a = b := by
  refine ⟨fun same => ?_, congrArg toString⟩
  have chars := congrArg String.toList same
  have unsigned : ∀ m n, Nat.toDigits 10 m ≠ '-' :: Nat.toDigits 10 n := by
    intro m n signed
    have digit : '-'.isDigit := Nat.isDigit_of_mem_toDigits (n := m) (by decide) (by decide)
      (signed ▸ List.mem_cons_self)
    cases digit
  rw [toList_toString, toList_toString] at chars
  split at chars <;> split at chars
  · have size := toDigits_inj.mp (List.tail_eq_of_cons_eq chars)
    omega
  · exact absurd chars.symm (unsigned _ _)
  · exact absurd chars (unsigned _ _)
  · have size := toDigits_inj.mp chars
    omega

/-- Behind its leading zeros, a string of digits is that of its value. -/
theorem exists_eq_replicate_append (more : digits ≠ []) (all : ∀ c ∈ digits, c.isDigit) :
    ∃ k, digits = List.replicate k '0' ++ Nat.toDigits 10 (Nat.ofDigitChars 10 digits 0) := by
  induction digits using List.reverseRecOn with
  | nil => exact absurd rfl more
  | append_singleton digits c ih =>
    obtain ⟨front, last⟩ := List.forall_mem_append.mp all
    obtain ⟨d, small, rfl⟩ : ∃ d < 10, c = Nat.digitChar d := by
      have digit := last c (List.mem_singleton_self c)
      simp only [Char.isDigit, Bool.and_eq_true, decide_eq_true_eq] at digit
      obtain ⟨least, most⟩ := digit
      have least : 48 ≤ c.toNat := least
      have most : c.toNat ≤ 57 := most
      refine ⟨c.toNat - 48, by omega, Char.toNat_inj.mp ?_⟩
      rw [Nat.toNat_digitChar_of_lt_ten (by omega)]
      omega
    have value : Nat.ofDigitChars 10 (digits ++ [d.digitChar]) 0 =
        10 * Nat.ofDigitChars 10 digits 0 + d := by
      rw [Nat.ofDigitChars_append, Nat.ofDigitChars_cons_digitChar_of_lt_ten small,
        Nat.ofDigitChars_nil]
    have single : Nat.toDigits 10 d = [d.digitChar] := Nat.toDigits_of_lt_base small
    rw [value]
    by_cases none : digits = []
    · subst none
      exact ⟨0, by simp [single]⟩
    obtain ⟨k, zeros⟩ := ih none front
    by_cases zero : Nat.ofDigitChars 10 digits 0 = 0
    · rw [zero, Nat.toDigits_zero] at zeros
      refine ⟨k + 1, ?_⟩
      rw [zero, Nat.mul_zero, Nat.zero_add, single, List.replicate_succ', ← zeros]
    · refine ⟨k, ?_⟩
      rw [← Nat.toDigits_append_toDigits (by decide) (Nat.pos_of_ne_zero zero) small, single,
        ← List.append_assoc, ← zeros]

/-- The literals of a number are its written numeral behind zeros and a sign, and no others. -/
theorem literal_iff_pads {text : String} {n : UInt32} :
    Literal text n.toNat ↔ Pads text (write n) := by
  rw [Pads, toList_write]
  constructor
  · rintro ⟨digits, written, more, all, value⟩
    obtain ⟨k, zeros⟩ := exists_eq_replicate_append more all
    rw [value] at zeros
    exact ⟨k, zeros ▸ written⟩
  · rintro ⟨k, written⟩
    refine ⟨_, written, by simp, ?_, ?_⟩
    · intro c member
      rcases List.mem_append.mp member with zero | digit
      · rw [List.eq_of_mem_replicate zero]
        rfl
      · exact Nat.isDigit_of_mem_toDigits (by decide) (by decide) digit
    · simp [Nat.ofDigitChars_append]

theorem literal_write (n : UInt32) : Literal (write n) n.toNat :=
  literal_iff_pads.mpr ⟨0, Or.inl rfl⟩

end NamespaceEntry.Numeral
