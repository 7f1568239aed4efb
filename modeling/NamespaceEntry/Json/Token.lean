import NamespaceEntry.Json.Number
import NamespaceEntry.Text.Numeral

/-!
# Tokens of JSON

`tokens` cuts a text into tokens, one character at a time, and stops at the first place
where no token can be. A number or a string is kept in two readings: its value, for a
reader that wants it, and its outline, for a reader that skips it. Skipping is more
lenient: it does not mind a number that is too large or half of a surrogate pair.
-/

namespace NamespaceEntry.Json

/-- Something written that can be read for its value or only in outline. -/
structure Scalar (α : Type) where
  value : Except TextFault α
  outline : Except TextFault Unit

inductive Word where
  | null
  | bool (value : Bool)
  deriving DecidableEq, Repr

inductive Token where
  | beginArray
  | endArray
  | beginObject
  | endObject
  | colon
  | comma
  | word (value : Except TextFault Word)
  | number (value : Scalar Number)
  | string (value : Scalar String)
  | bad

namespace Lexer

/-- The parts of a number that is being read, by what came last. -/
inductive NumberPlace where
  | sign
  | zero
  | whole
  | point
  | fraction
  | mark
  | markSign
  | exponent
  deriving DecidableEq, Repr

/-- Whether a number may end after the part. -/
def NumberPlace.mayEnd : NumberPlace → Bool
  | .zero | .whole | .fraction | .exponent => true
  | .sign | .point | .mark | .markSign => false

/-- What is expected of a string next. -/
inductive StringPlace where
  | plain
  | escape
  /-- `seen` bytes of four hexadecimal digits have been read, and their value if they are. -/
  | hex (seen : Nat) (value : Option Nat)
  deriving DecidableEq, Repr

/-- A string that is being read. -/
structure StringState where
  place : StringPlace := .plain
  /-- The characters so far, the last one first. -/
  reversed : List Char := []
  /-- The first half of a surrogate pair whose second half must follow. -/
  half : Option Nat := none
  /-- The first fault of the value. -/
  fault : Option TextFault := none
  deriving DecidableEq, Repr

/-- What the lexer is in the middle of. -/
inductive Mode where
  | between
  | word (next : Char) (rest : List Char) (value : Word)
  | number (place : NumberPlace) (text : NumberText)
  | string (state : StringState)
  | stopped

def numberToken (t : NumberText) : Token := .number ⟨t.read, .ok ()⟩

/-- A number with a character in it that may not be there. -/
def badNumber : Token := .number ⟨.error .malformed, .error .malformed⟩

def StringState.token (s : StringState) : Token :=
  let s := if s.half.isSome && s.fault.isNone then { s with fault := some .malformed } else s
  match s.fault with
  | none => .string ⟨.ok (String.ofList s.reversed.reverse), .ok ()⟩
  | some fault => .string ⟨.error fault, .ok ()⟩

def StringState.broken (s : StringState) (fault : TextFault) : Token :=
  .string ⟨.error (s.fault.getD fault), .error fault⟩

/-- Notes a fault of the value unless an earlier one is known. -/
def StringState.note (s : StringState) (fault : TextFault) : StringState :=
  { s with half := none, fault := s.fault <|> some fault }

/-- The second half of a surrogate pair must come at once. -/
def StringState.unpaired (s : StringState) : StringState :=
  if s.half.isSome then s.note .malformed else s

def StringState.push (s : StringState) (c : Char) : StringState :=
  { s with place := .plain, reversed := c :: s.reversed }

/-- Adds a unit of UTF-16 that was written in hexadecimal digits. -/
def StringState.pushUnit (s : StringState) (n : Nat) : StringState :=
  let s := { s with place := .plain }
  match s.half with
  | some high =>
    if 0xDC00 ≤ n ∧ n < 0xE000 then
      { s.push (Char.ofNat (0x10000 + (high - 0xD800) * 0x400 + (n - 0xDC00))) with half := none }
    else s.note .malformed
  | none =>
    if 0xD800 ≤ n ∧ n < 0xDC00 then { s with half := some n }
    else if 0xDC00 ≤ n ∧ n < 0xE000 then s.note .malformed
    else s.push (Char.ofNat n)

def escaped? : Char → Option Char
  | '"' => some '"'
  | '\\' => some '\\'
  | '/' => some '/'
  | 'b' => some '\x08'
  | 'f' => some '\x0c'
  | 'n' => some '\n'
  | 'r' => some '\r'
  | 't' => some '\t'
  | _ => none

def hexDigit? (c : Char) : Option Nat :=
  if '0' ≤ c ∧ c ≤ '9' then some (c.toNat - 48)
  else if 'a' ≤ c ∧ c ≤ 'f' then some (c.toNat - 87)
  else if 'A' ≤ c ∧ c ≤ 'F' then some (c.toNat - 55)
  else none

/-- Takes a character of a string. Four bytes are looked at for hexadecimal digits before
one that is none counts. -/
def stringStep (s : StringState) (c : Char) : List Token × Mode :=
  match s.place with
  | .plain =>
    if c == '\\' then ([], .string { s with place := .escape })
    else
      let s := s.unpaired
      if c == '"' then ([s.token], .between)
      else if c.toNat < 0x20 then ([s.broken .malformed], .stopped)
      else ([], .string (s.push c))
  | .escape =>
    if c == 'u' then ([], .string { s with place := .hex 0 (some 0) })
    else
      let s := s.unpaired
      match escaped? c with
      | some e => ([], .string (s.push e))
      | none => ([s.broken .malformed], .stopped)
  | .hex seen value =>
    let seen := seen + c.utf8Size
    let value := do return (← value) * 16 + (← hexDigit? c)
    if seen < 4 then ([], .string { s with place := .hex seen value })
    else match value with
      | some n => ([], .string (s.pushUnit n))
      | none => ([s.broken .malformed], .stopped)

def isBlank (c : Char) : Bool := c == ' ' || c == '\n' || c == '\t' || c == '\r'

/-- Takes the first character of a token. -/
def begin (c : Char) : List Token × Mode :=
  if isBlank c then ([], .between)
  else match c with
    | '[' => ([.beginArray], .between)
    | ']' => ([.endArray], .between)
    | '{' => ([.beginObject], .between)
    | '}' => ([.endObject], .between)
    | ':' => ([.colon], .between)
    | ',' => ([.comma], .between)
    | '"' => ([], .string {})
    | 'n' => ([], .word 'u' ['l', 'l'] .null)
    | 't' => ([], .word 'r' ['u', 'e'] (.bool true))
    | 'f' => ([], .word 'a' ['l', 's', 'e'] (.bool false))
    | '-' => ([], .number .sign { negative := true })
    | _ =>
      match Numeral.digit? c with
      | some 0 => ([], .number .zero { whole := [0] })
      | some d => ([], .number .whole { whole := [d] })
      | none => ([.bad], .stopped)

def addExponentDigit (t : NumberText) (d : Nat) : NumberText :=
  let e := t.exponent.getD ⟨false, []⟩
  { t with exponent := some { e with digits := e.digits ++ [d] } }

/-- Takes a character of a number, or the first one after it. -/
def numberStep (place : NumberPlace) (t : NumberText) (c : Char) : List Token × Mode :=
  let wrong : List Token × Mode := ([badNumber], .stopped)
  let after : List Token × Mode := let (out, mode) := begin c; (numberToken t :: out, mode)
  let isMark : Bool := c == 'e' || c == 'E'
  match place, Numeral.digit? c with
  | .sign, some 0 => ([], .number .zero { t with whole := [0] })
  | .sign, some d => ([], .number .whole { t with whole := [d] })
  | .sign, none => wrong
  | .zero, some _ => wrong
  | .whole, some d => ([], .number .whole { t with whole := t.whole ++ [d] })
  | .zero, none | .whole, none =>
    if c == '.' then ([], .number .point t) else if isMark then ([], .number .mark t) else after
  | .point, some d | .fraction, some d =>
    ([], .number .fraction { t with fraction := t.fraction ++ [d] })
  | .point, none => wrong
  | .fraction, none => if isMark then ([], .number .mark t) else after
  | .mark, some d | .markSign, some d | .exponent, some d =>
    ([], .number .exponent (addExponentDigit t d))
  | .mark, none =>
    if c == '+' then ([], .number .markSign { t with exponent := some ⟨false, []⟩ })
    else if c == '-' then ([], .number .markSign { t with exponent := some ⟨true, []⟩ })
    else wrong
  | .markSign, none => wrong
  | .exponent, none => after

def step : Mode → Char → List Token × Mode
  | .between, c => begin c
  | .word next rest value, c =>
    if c == next then
      match rest with
      | [] => ([.word (.ok value)], .between)
      | after :: rest => ([], .word after rest value)
    else ([.word (.error .malformed)], .stopped)
  | .number place t, c => numberStep place t c
  | .string s, c => stringStep s c
  | .stopped, _ => ([], .stopped)

/-- The token that the end of the text leaves. A number that breaks off has ended early for
a reader of its value, and is malformed for one that skips it. -/
def finish : Mode → List Token
  | .between | .stopped => []
  | .word _ _ _ => [.word (.error .ended)]
  | .number place t =>
    if place.mayEnd then [numberToken t] else [.number ⟨.error .ended, .error .malformed⟩]
  | .string s => [s.broken .ended]

/-- The tokens of a text that is read on in a mode. -/
def tokensIn (mode : Mode) : List Char → List Token
  | [] => finish mode
  | c :: rest =>
    let (out, mode) := step mode c
    out ++ tokensIn mode rest

end Lexer

def tokens (text : String) : List Token := Lexer.tokensIn .between text.toList

end NamespaceEntry.Json
