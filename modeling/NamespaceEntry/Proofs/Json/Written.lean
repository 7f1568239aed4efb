import Mathlib.Data.List.Forall2
import NamespaceEntry.Json.Value

/-!
# Texts of values

`Written` says which texts are a value's, without a word about how they are read: blanks may stand
around every token, and a character of a string may be escaped in several ways. What `Value.write`
gives is one of these texts, as `written_array` and `written_object` show for arrays and objects.
-/

namespace NamespaceEntry.Json

def Blank (c : Char) : Prop := c = ' ' ∨ c = '\n' ∨ c = '\t' ∨ c = '\r'

/-! ### Strings -/

def HexDigit (c : Char) (n : Nat) : Prop :=
  n < 16 ∧ (c = Nat.digitChar n ∨ c = (Nat.digitChar n).toUpper)

inductive HexDigits : List Char → Nat → Prop where
  | four {a b c d : Char} {i j k l : Nat} (first : HexDigit a i) (second : HexDigit b j)
      (third : HexDigit c k) (fourth : HexDigit d l) :
      HexDigits [a, b, c, d] (((i * 16 + j) * 16 + k) * 16 + l)

/-- The letters that stand for characters behind a backslash. -/
def shortEscapes : List (Char × Char) :=
  [('"', '"'), ('\\', '\\'), ('/', '/'), ('b', '\x08'), ('f', '\x0c'), ('n', '\n'), ('r', '\r'),
    ('t', '\t')]

inductive WrittenChar : Char → List Char → Prop where
  | plain {c : Char} (unquoted : c ≠ '"') (unescaped : c ≠ '\\') (shown : 0x20 ≤ c.toNat) :
      WrittenChar c [c]
  | short {letter c : Char} (listed : (letter, c) ∈ shortEscapes) : WrittenChar c ['\\', letter]
  | unit {c : Char} {digits : List Char} (value : HexDigits digits c.toNat) :
      WrittenChar c ('\\' :: 'u' :: digits)
  /-- Two units of UTF-16. -/
  | pair {c : Char} {digits more : List Char} {high low : Nat} (first : HexDigits digits high)
      (second : HexDigits more low) (isHigh : 0xD800 ≤ high ∧ high < 0xDC00)
      (isLow : 0xDC00 ≤ low ∧ low < 0xE000)
      (value : c.toNat = 0x10000 + (high - 0xD800) * 0x400 + (low - 0xDC00)) :
      WrittenChar c ('\\' :: 'u' :: digits ++ '\\' :: 'u' :: more)

def WrittenString (s : String) (text : List Char) : Prop :=
  ∃ parts, List.Forall₂ WrittenChar s.toList parts ∧ text = '"' :: parts.flatten ++ ['"']

/-! ### Numbers -/

/-- The parts of a number are digits, and those before the point have no zero in front of them. -/
structure NumberText.Sound (t : NumberText) : Prop where
  whole_ne_nil : t.whole ≠ []
  unpadded : t.whole.head? = some 0 → t.whole = [0]
  whole_lt : ∀ d ∈ t.whole, d < 10
  fraction_lt : ∀ d ∈ t.fraction, d < 10
  exponent_ne_nil : ∀ e ∈ t.exponent, e.digits ≠ []
  exponent_lt : ∀ e ∈ t.exponent, ∀ d ∈ e.digits, d < 10

/-- The ways to write an exponent: its letter has two cases, and it may have a plus sign. -/
inductive WrittenExponent : Option ExponentText → List Char → Prop where
  | none : WrittenExponent none []
  | minus {mark : Char} {digits : List Nat} (marked : mark = 'e' ∨ mark = 'E') :
      WrittenExponent (some ⟨true, digits⟩) (mark :: '-' :: digits.map digitChar)
  | plus {mark : Char} {digits : List Nat} (marked : mark = 'e' ∨ mark = 'E') :
      WrittenExponent (some ⟨false, digits⟩) (mark :: '+' :: digits.map digitChar)
  | unsigned {mark : Char} {digits : List Nat} (marked : mark = 'e' ∨ mark = 'E') :
      WrittenExponent (some ⟨false, digits⟩) (mark :: digits.map digitChar)

def WrittenNumber (t : NumberText) (text : List Char) : Prop :=
  t.Sound ∧ ∃ exponent, WrittenExponent t.exponent exponent ∧
    text = (if t.negative then ['-'] else []) ++ t.whole.map digitChar ++
      (if t.fraction = [] then [] else '.' :: t.fraction.map digitChar) ++ exponent

/-! ### Values -/

def WrittenKey (key : String) (text : List Char) : Prop :=
  ∃ front middle back, (∀ c ∈ front, Blank c) ∧ WrittenString key middle ∧ (∀ c ∈ back, Blank c) ∧
    text = front ++ middle ++ back

mutual

/-- The ways to write a value, with blanks around it. -/
inductive Written : Value → List Char → Prop where
  | null : Written .null "null".toList
  | bool (b : Bool) : Written (.bool b) (toString b).toList
  | number {t : NumberText} {text : List Char} (h : WrittenNumber t text) : Written (.number t) text
  | string {s : String} {text : List Char} (h : WrittenString s text) : Written (.string s) text
  | noItems {text : List Char} (blank : ∀ c ∈ text, Blank c) :
      Written (.array []) ('[' :: text ++ [']'])
  | array {items : List Value} {text : List Char} (h : WrittenItems items text) :
      Written (.array items) ('[' :: text ++ [']'])
  | noMembers {text : List Char} (blank : ∀ c ∈ text, Blank c) :
      Written (.object []) ('{' :: text ++ ['}'])
  | object {members : List (String × Value)} {text : List Char} (h : WrittenMembers members text) :
      Written (.object members) ('{' :: text ++ ['}'])
  | before {v : Value} {c : Char} {text : List Char} (blank : Blank c) (h : Written v text) :
      Written v (c :: text)
  | after {v : Value} {c : Char} {text : List Char} (blank : Blank c) (h : Written v text) :
      Written v (text ++ [c])

inductive WrittenItems : List Value → List Char → Prop where
  | one {v : Value} {text : List Char} (h : Written v text) : WrittenItems [v] text
  | more {v : Value} {vs : List Value} {text rest : List Char} (h : Written v text)
      (others : WrittenItems vs rest) : WrittenItems (v :: vs) (text ++ ',' :: rest)

inductive WrittenMembers : List (String × Value) → List Char → Prop where
  | one {key : String} {v : Value} {name text : List Char} (named : WrittenKey key name)
      (h : Written v text) : WrittenMembers [(key, v)] (name ++ ':' :: text)
  | more {key : String} {v : Value} {ms : List (String × Value)} {name text rest : List Char}
      (named : WrittenKey key name) (h : Written v text) (others : WrittenMembers ms rest) :
      WrittenMembers ((key, v) :: ms) (name ++ ':' :: text ++ ',' :: rest)

end

/-! ### What is written is a text -/

theorem hexDigit_digitChar {n : Nat} (small : n < 16) : HexDigit (Nat.digitChar n) n :=
  ⟨small, Or.inl rfl⟩

theorem writtenChar_writeChar (c : Char) : WrittenChar c (writeChar c) := by
  simp only [writeChar, beq_iff_eq]
  split_ifs with quote backslash backspace feed newline carriage tab control
  all_goals try (subst c; exact .short (by decide))
  · have value : ((0 * 16 + 0) * 16 + c.toNat / 16) * 16 + c.toNat % 16 = c.toNat := by omega
    have digits := HexDigits.four (hexDigit_digitChar (n := 0) (by decide))
      (hexDigit_digitChar (n := 0) (by decide)) (hexDigit_digitChar (n := c.toNat / 16) (by omega))
      (hexDigit_digitChar (n := c.toNat % 16) (by omega))
    rw [value] at digits
    exact .unit digits
  · exact .plain quote backslash (by omega)

theorem writtenString_writeString (s : String) : WrittenString s (writeString s) := by
  refine ⟨s.toList.map writeChar, ?_, by rw [writeString, List.flatMap_def]⟩
  rw [List.forall₂_map_right_iff, List.forall₂_same]
  exact fun c _ => writtenChar_writeChar c

theorem written_array {items : List Value} (all : ∀ v ∈ items, Written v v.write) :
    Written (.array items) (Value.array items).write := by
  rw [Value.write]
  cases items with
  | nil => exact .noItems nofun
  | cons v items =>
    refine .array ?_
    induction items generalizing v with
    | nil => exact .one (all v List.mem_cons_self)
    | cons w items ih =>
      rw [writeItems]
      · exact .more (all v List.mem_cons_self) (ih w fun u member => all u (.tail _ member))
      · simp

theorem written_object {members : List (String × Value)}
    (all : ∀ m ∈ members, Written m.2 m.2.write) :
    Written (.object members) (Value.object members).write := by
  have key : ∀ s, WrittenKey s (writeString s) := fun s =>
    ⟨[], _, [], nofun, writtenString_writeString s, nofun, by simp⟩
  rw [Value.write]
  cases members with
  | nil => exact .noMembers nofun
  | cons m members =>
    refine .object ?_
    induction members generalizing m with
    | nil => exact .one (key m.1) (all m List.mem_cons_self)
    | cons n members ih =>
      obtain ⟨s, v⟩ := m
      rw [writeMembers]
      · exact .more (key s) (all (s, v) List.mem_cons_self)
          (ih n fun u member => all u (.tail _ member))
      · simp

end NamespaceEntry.Json
