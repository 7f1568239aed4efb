import Mathlib.Tactic.IntervalCases
import NamespaceEntry.Json.Token
import NamespaceEntry.Proofs.Json.Written

/-!
# Tokens of written scalars

A written string or number is cut off as one token that has its value, whatever follows a string,
and whatever may follow a number. `tokensIn_string` and `tokensIn_number` say so.
-/

namespace NamespaceEntry.Json.Lexer

variable {c : Char} {n : Nat} {cs rest : List Char} {s : String}

theorem tokensIn_cons (mode : Mode) (c : Char) (rest : List Char) :
    tokensIn mode (c :: rest) = (step mode c).1 ++ tokensIn (step mode c).2 rest := rfl

theorem begin_blank (blank : Blank c) : begin c = ([], .between) := by
  rcases blank with rfl | rfl | rfl | rfl <;> rfl

theorem tokensIn_blank (blank : Blank c) (rest : List Char) :
    tokensIn .between (c :: rest) = tokensIn .between rest := by
  rw [tokensIn_cons, step, begin_blank blank]
  rfl

theorem tokensIn_blanks (blank : ∀ c ∈ cs, Blank c) (rest : List Char) :
    tokensIn .between (cs ++ rest) = tokensIn .between rest := by
  induction cs with
  | nil => rfl
  | cons c cs ih =>
    obtain ⟨first, others⟩ := List.forall_mem_cons.mp blank
    rw [List.cons_append, tokensIn_blank first, ih others]

/-! ### Strings -/

/-- A string of which some characters have been read, the last one first. -/
def reading (reversed : List Char) : Mode := .string { reversed }

theorem hexDigit?_of_hexDigit (digit : HexDigit c n) : hexDigit? c = some n ∧ c.utf8Size = 1 := by
  obtain ⟨small, rfl | rfl⟩ := digit
  all_goals revert n small; decide

theorem tokensIn_hexDigits (st : StringState) (digits : HexDigits cs n) (rest : List Char) :
    tokensIn (.string { st with place := .hex 0 (some 0) }) (cs ++ rest) =
      tokensIn (.string (st.pushUnit n)) rest := by
  obtain ⟨first, second, third, fourth⟩ := digits
  obtain ⟨value₁, size₁⟩ := hexDigit?_of_hexDigit first
  obtain ⟨value₂, size₂⟩ := hexDigit?_of_hexDigit second
  obtain ⟨value₃, size₃⟩ := hexDigit?_of_hexDigit third
  obtain ⟨value₄, size₄⟩ := hexDigit?_of_hexDigit fourth
  simp [tokensIn_cons, step, stringStep, value₁, size₁, value₂, size₂, value₃, size₃, value₄, size₄,
    StringState.pushUnit]

/-- A unit that is a character of its own is not half of a pair. -/
theorem pushUnit_toNat (reversed : List Char) (c : Char) :
    Mode.string (StringState.pushUnit { reversed } c.toNat) = reading (c :: reversed) := by
  have valid : c.toNat < 0xD800 ∨ 0xDFFF < c.toNat ∧ c.toNat < 0x110000 := c.valid
  have notHigh : ¬(0xD800 ≤ c.toNat ∧ c.toNat < 0xDC00) := by omega
  have notLow : ¬(0xDC00 ≤ c.toNat ∧ c.toNat < 0xE000) := by omega
  simp [StringState.pushUnit, notHigh, notLow, StringState.push, reading]

theorem pushUnit_pair (reversed : List Char) {high low : Nat}
    (isHigh : 0xD800 ≤ high ∧ high < 0xDC00) (isLow : 0xDC00 ≤ low ∧ low < 0xE000)
    (value : c.toNat = 0x10000 + (high - 0xD800) * 0x400 + (low - 0xDC00)) :
    Mode.string (StringState.pushUnit (StringState.pushUnit { reversed } high) low) =
      reading (c :: reversed) := by
  simp [StringState.pushUnit, isHigh, isLow, StringState.push, ← value, reading]

theorem tokensIn_char (written : WrittenChar c cs) (reversed : List Char) (rest : List Char) :
    tokensIn (reading reversed) (cs ++ rest) = tokensIn (reading (c :: reversed)) rest := by
  cases written with
  | plain unquoted unescaped shown =>
    have visible : ¬c.toNat < 0x20 := by omega
    simp [tokensIn_cons, step, reading, stringStep, unquoted, unescaped, visible,
      StringState.unpaired, StringState.push]
  | short listed =>
    simp only [shortEscapes, List.mem_cons, Prod.mk.injEq, List.not_mem_nil, or_false] at listed
    rcases listed with ⟨rfl, rfl⟩ | ⟨rfl, rfl⟩ | ⟨rfl, rfl⟩ | ⟨rfl, rfl⟩ | ⟨rfl, rfl⟩ | ⟨rfl, rfl⟩ |
      ⟨rfl, rfl⟩ | ⟨rfl, rfl⟩ <;> rfl
  | unit value =>
    exact (tokensIn_hexDigits { reversed } value rest).trans (by rw [pushUnit_toNat])
  | @pair _ _ _ high low first second isHigh isLow value =>
    rw [List.cons_append, List.cons_append, List.append_assoc]
    refine (tokensIn_hexDigits { reversed } first _).trans ?_
    have half : StringState.pushUnit { reversed } high = { reversed, half := some high } := by
      simp [StringState.pushUnit, isHigh]
    rw [half]
    refine (tokensIn_hexDigits { reversed, half := some high } second rest).trans ?_
    rw [← half, pushUnit_pair reversed isHigh isLow value]

theorem tokensIn_string (written : WrittenString s cs) (rest : List Char) :
    tokensIn .between (cs ++ rest) = .string ⟨.ok s, .ok ()⟩ :: tokensIn .between rest := by
  have body : ∀ (reversed chars : List Char) (parts : List (List Char)),
      List.Forall₂ WrittenChar chars parts →
        tokensIn (reading reversed) (parts.flatten ++ '"' :: rest) =
          .string ⟨.ok (String.ofList (reversed.reverse ++ chars)), .ok ()⟩ ::
            tokensIn .between rest := by
    intro reversed chars parts all
    induction all generalizing reversed with
    | nil =>
      simp [tokensIn_cons, step, reading, stringStep, StringState.unpaired, StringState.token]
    | cons first _ ih =>
      rw [List.flatten_cons, List.append_assoc, tokensIn_char first, ih]
      simp
  obtain ⟨parts, all, rfl⟩ := written
  have inside := body [] s.toList parts all
  rw [List.reverse_nil, List.nil_append, String.ofList_toList] at inside
  simp only [List.cons_append, List.append_assoc, List.nil_append]
  exact inside

/-! ### Numbers -/

/-- What comes next is no part of a number in front of it. -/
def Stops (rest : List Char) : Prop :=
  ∀ c ∈ rest.head?, Numeral.digit? c = none ∧ c ≠ '.' ∧ c ≠ 'e' ∧ c ≠ 'E'

variable {t : NumberText} {place : NumberPlace} {d : Nat} {ds : List Nat}

theorem digit?_digitChar (small : d < 10) : Numeral.digit? (digitChar d) = some d := by
  revert d
  decide

theorem step_wholeDigit (small : d < 10) :
    step (.number .whole t) (digitChar d) =
      ([], .number .whole { t with whole := t.whole ++ [d] }) := by
  show numberStep .whole t (digitChar d) = _
  unfold numberStep
  rw [digit?_digitChar small]

theorem step_fractionDigit (behind : place = .point ∨ place = .fraction) (small : d < 10) :
    step (.number place t) (digitChar d) =
      ([], .number .fraction { t with fraction := t.fraction ++ [d] }) := by
  show numberStep place t (digitChar d) = _
  unfold numberStep
  rw [digit?_digitChar small]
  rcases behind with rfl | rfl <;> rfl

theorem step_exponentDigit (behind : place = .mark ∨ place = .markSign ∨ place = .exponent)
    (small : d < 10) :
    step (.number place t) (digitChar d) = ([], .number .exponent (addExponentDigit t d)) := by
  show numberStep place t (digitChar d) = _
  unfold numberStep
  rw [digit?_digitChar small]
  rcases behind with rfl | rfl | rfl <;> rfl

theorem tokensIn_digits (grow : List Nat → NumberText)
    (taken : ∀ front d, d < 10 →
      step (.number place (grow front)) (digitChar d) = ([], .number place (grow (front ++ [d]))))
    (front : List Nat) (small : ∀ d ∈ ds, d < 10) (rest : List Char) :
    tokensIn (.number place (grow front)) (ds.map digitChar ++ rest) =
      tokensIn (.number place (grow (front ++ ds))) rest := by
  induction ds generalizing front with
  | nil => simp
  | cons d ds ih =>
    obtain ⟨first, others⟩ := List.forall_mem_cons.mp small
    rw [List.map_cons, List.cons_append, tokensIn_cons, taken front d first, List.nil_append,
      ih _ others, List.append_assoc]
    rfl

theorem tokensIn_ended (mayEnd : place.mayEnd = true) (stops : Stops rest) :
    tokensIn (.number place t) rest = numberToken t :: tokensIn .between rest := by
  cases rest with
  | nil => simp [tokensIn, finish, mayEnd]
  | cons c rest =>
    obtain ⟨other, point, mark, bigMark⟩ := stops c rfl
    cases place <;> cases mayEnd <;>
      simp [tokensIn_cons, step, numberStep, other, point, mark, bigMark]

/-- The digits before the point, at the start of a number or behind its sign. -/
theorem tokensIn_whole {negative : Bool} (mode : Mode)
    (first : ∀ d < 10, step mode (digitChar d) =
      ([], .number (if d = 0 then .zero else .whole) { negative, whole := [d] }))
    (more : ds ≠ []) (unpadded : ds.head? = some 0 → ds = [0]) (small : ∀ d ∈ ds, d < 10) :
    ∃ place, (place = .zero ∨ place = .whole) ∧ ∀ rest,
      tokensIn mode (ds.map digitChar ++ rest) =
        tokensIn (.number place { negative, whole := ds }) rest := by
  cases ds with
  | nil => exact absurd rfl more
  | cons d ds =>
    obtain ⟨digit, others⟩ := List.forall_mem_cons.mp small
    by_cases zero : d = 0
    · subst zero
      obtain rfl : ds = [] := (List.cons.inj (unpadded rfl)).2
      refine ⟨.zero, Or.inl rfl, fun rest => ?_⟩
      rw [List.map_cons, List.cons_append, tokensIn_cons, first 0 digit]
      rfl
    · refine ⟨.whole, Or.inr rfl, fun rest => ?_⟩
      rw [List.map_cons, List.cons_append, tokensIn_cons, first d digit, if_neg zero]
      exact tokensIn_digits (fun whole => { negative, whole }) (fun _ _ => step_wholeDigit) [d]
        others rest

theorem tokensIn_fraction (whole : place = .zero ∨ place = .whole) (none : t.fraction = [])
    (small : ∀ d ∈ ds, d < 10) :
    ∃ last, last.mayEnd = true ∧ last ≠ .exponent ∧ ∀ rest,
      tokensIn (.number place t) ((if ds = [] then [] else '.' :: ds.map digitChar) ++ rest) =
        tokensIn (.number last { t with fraction := ds }) rest := by
  cases ds with
  | nil =>
    refine ⟨place, ?_, ?_, fun rest => ?_⟩
    · rcases whole with rfl | rfl <;> rfl
    · rcases whole with rfl | rfl <;> nofun
    · have same : { t with fraction := [] } = t := by rw [← none]
      rw [same]
      rfl
  | cons d ds =>
    obtain ⟨digit, others⟩ := List.forall_mem_cons.mp small
    refine ⟨.fraction, rfl, nofun, fun rest => ?_⟩
    have point : step (.number place t) '.' = ([], .number .point t) := by
      rcases whole with rfl | rfl <;> rfl
    have first : step (.number .point t) (digitChar d) =
        ([], .number .fraction { t with fraction := [d] }) := by
      rw [step_fractionDigit (Or.inl rfl) digit, none]
      rfl
    rw [if_neg (List.cons_ne_nil d ds), List.cons_append, tokensIn_cons, point, List.nil_append,
      List.map_cons, List.cons_append, tokensIn_cons, first, List.nil_append]
    exact tokensIn_digits (fun fraction => { t with fraction })
      (fun _ _ => step_fractionDigit (Or.inr rfl)) [d] others rest

theorem tokensIn_exponentDigits {u : NumberText} {negative : Bool}
    (first : ∀ d < 10, step (.number place u) (digitChar d) =
      ([], .number .exponent { t with exponent := some ⟨negative, [d]⟩ }))
    (more : ds ≠ []) (small : ∀ d ∈ ds, d < 10) (stops : Stops rest) :
    tokensIn (.number place u) (ds.map digitChar ++ rest) =
      numberToken { t with exponent := some ⟨negative, ds⟩ } :: tokensIn .between rest := by
  cases ds with
  | nil => exact absurd rfl more
  | cons d ds =>
    obtain ⟨digit, others⟩ := List.forall_mem_cons.mp small
    rw [List.map_cons, List.cons_append, tokensIn_cons, first d digit, List.nil_append]
    refine (tokensIn_digits (fun digits => { t with exponent := some ⟨negative, digits⟩ }) ?_ [d]
      others rest).trans (tokensIn_ended rfl stops)
    exact fun _ _ => step_exponentDigit (Or.inr (Or.inr rfl))

theorem tokensIn_exponent (mayEnd : place.mayEnd = true) (early : place ≠ .exponent)
    (none : t.exponent = none) {exponent : Option ExponentText}
    (written : WrittenExponent exponent cs)
    (more : ∀ e ∈ exponent, e.digits ≠ []) (small : ∀ e ∈ exponent, ∀ d ∈ e.digits, d < 10)
    (stops : Stops rest) :
    tokensIn (.number place t) (cs ++ rest) =
      numberToken { t with exponent } :: tokensIn .between rest := by
  have marked : ∀ mark, mark = 'e' ∨ mark = 'E' →
      step (.number place t) mark = ([], .number .mark t) := by
    rintro mark (rfl | rfl)
    all_goals cases place <;> first | rfl | exact absurd rfl early | cases mayEnd
  have signed : ∀ negative d, d < 10 →
      step (.number .markSign { t with exponent := some ⟨negative, []⟩ }) (digitChar d) =
        ([], .number .exponent { t with exponent := some ⟨negative, [d]⟩ }) :=
    fun _ _ => step_exponentDigit (Or.inr (Or.inl rfl))
  cases written with
  | none =>
    have same : { t with exponent := Option.none } = t := by rw [← none]
    rw [same]
    exact tokensIn_ended mayEnd stops
  | minus mark =>
    rw [List.cons_append, tokensIn_cons, marked _ mark]
    exact tokensIn_exponentDigits (signed true) (more _ rfl) (small _ rfl) stops
  | plus mark =>
    rw [List.cons_append, tokensIn_cons, marked _ mark]
    exact tokensIn_exponentDigits (signed false) (more _ rfl) (small _ rfl) stops
  | unsigned mark =>
    rw [List.cons_append, tokensIn_cons, marked _ mark]
    refine tokensIn_exponentDigits ?_ (more _ rfl) (small _ rfl) stops
    intro d digit
    rw [step_exponentDigit (Or.inl rfl) digit, addExponentDigit, none]
    rfl

theorem tokensIn_number (written : WrittenNumber t cs) (stops : Stops rest) :
    tokensIn .between (cs ++ rest) = .number ⟨t.read, .ok ()⟩ :: tokensIn .between rest := by
  obtain ⟨sound, ending, exponent, rfl⟩ := written
  obtain ⟨negative, whole, fraction, expo⟩ := t
  -- The number begins with its sign, if it has one, and then with a digit.
  obtain ⟨place, early, taken⟩ : ∃ place, (place = .zero ∨ place = .whole) ∧ ∀ rest,
      tokensIn .between ((if negative then ['-'] else []) ++ (whole.map digitChar ++ rest)) =
        tokensIn (.number place { negative, whole }) rest := by
    cases negative with
    | true =>
      refine tokensIn_whole (.number .sign { negative := true }) ?_ sound.whole_ne_nil
        sound.unpadded sound.whole_lt
      intro d digit
      interval_cases d <;> rfl
    | false =>
      refine tokensIn_whole .between ?_ sound.whole_ne_nil sound.unpadded sound.whole_lt
      intro d digit
      interval_cases d <;> rfl
  obtain ⟨last, mayEnd, notYet, pointed⟩ :=
    tokensIn_fraction (t := { negative, whole }) early rfl sound.fraction_lt
  simp only [List.append_assoc]
  rw [taken, pointed]
  exact tokensIn_exponent mayEnd notYet rfl exponent sound.exponent_ne_nil sound.exponent_lt stops

end NamespaceEntry.Json.Lexer
