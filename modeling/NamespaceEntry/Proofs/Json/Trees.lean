import NamespaceEntry.Json.Reader
import NamespaceEntry.Proofs.Json.Lexing

/-!
# Trees of written values

`Value.tree` is the tree of a value: nothing in it goes wrong. Every text of the value has this tree
(`readText_written`), so a reader need only be looked at on trees of values, and what is skipped is
skipped without a fault (`skip_tree`).
-/

namespace NamespaceEntry.Json

mutual

def Value.tree : Value → Tree
  | .null => .word (.ok .null)
  | .bool b => .word (.ok (.bool b))
  | .number t => .number ⟨t.read, .ok ()⟩
  | .string s => .string ⟨.ok s, .ok ()⟩
  | .array items => .array (itemTrees items) .closed
  | .object members => .object (memberTrees members) .closed

def itemTrees : List Value → List Tree
  | [] => []
  | v :: rest => v.tree :: itemTrees rest

def memberTrees : List (String × Value) → List Member
  | [] => []
  | (key, v) :: rest => .mk (.string ⟨.ok key, .ok ()⟩) v.tree :: memberTrees rest

end

namespace Tree

open Lexer (tokensIn Stops tokensIn_blank tokensIn_blanks tokensIn_cons tokensIn_string
  tokensIn_number)

variable {v : Value} {cs more : List Char} {key : String} {items : List Value}
  {members : List (String × Value)}

def follow : Move → List Token → Tree × List Token
  | .on frames place, tokens => ofTokensIn frames place tokens
  | .done t, tokens => (t, tokens)

theorem ofTokensIn_cons (frames : List Frame) (place : Place) (token : Token) (rest : List Token) :
    ofTokensIn frames place (token :: rest) = follow (move frames place token) rest := by
  rw [ofTokensIn]
  cases move frames place token <;> rfl

theorem ofTokensIn_sign {c : Char} {token : Token} (sign : Lexer.begin c = ([token], .between))
    (frames : List Frame) (place : Place) (rest : List Char) :
    ofTokensIn frames place (tokensIn .between (c :: rest)) =
      follow (move frames place token) (tokensIn .between rest) := by
  rw [tokensIn_cons, Lexer.step, sign]
  exact ofTokensIn_cons frames place token _

theorem stops_blank {c : Char} (blank : Blank c) (rest : List Char) : Stops (c :: rest) := by
  rintro _ ⟨⟩
  rcases blank with rfl | rfl | rfl | rfl <;> decide

theorem stops_sign {c : Char} (sign : c ∈ [',', ']', '}']) (rest : List Char) :
    Stops (c :: rest) := by
  rintro _ ⟨⟩
  simp only [List.mem_cons, List.not_mem_nil, or_false] at sign
  rcases sign with rfl | rfl | rfl <;> decide

/-! ### Growing -/

/-- Wherever a value may come, the text grows to the tree of the value and to nothing else. -/
def Grows (v : Value) (cs : List Char) : Prop :=
  ∀ (frames : List Frame) (place : Place) (rest : List Char),
    place = .value ∨ place = .firstItem → Stops rest →
      ofTokensIn frames place (tokensIn .between (cs ++ rest)) =
        follow (complete v.tree frames) (tokensIn .between rest)

def ItemsGrow (items : List Value) (cs : List Char) : Prop :=
  ∀ (frames : List Frame) (done : List Tree) (place : Place) (rest : List Char),
    place = .value ∨ place = .firstItem →
      ofTokensIn (.array done :: frames) place (tokensIn .between (cs ++ ']' :: rest)) =
        follow (complete (.array (done ++ itemTrees items) .closed) frames) (tokensIn .between rest)

def MembersGrow (members : List (String × Value)) (cs : List Char) : Prop :=
  ∀ (frames : List Frame) (done : List Member) (place : Place) (rest : List Char),
    place = .key ∨ place = .firstKey →
      ofTokensIn (.object done :: frames) place (tokensIn .between (cs ++ '}' :: rest)) =
        follow (complete (.object (done ++ memberTrees members) .closed) frames)
          (tokensIn .between rest)

theorem grows_scalar {token : Token}
    (cut : ∀ rest, Stops rest → tokensIn .between (cs ++ rest) = token :: tokensIn .between rest)
    (moves : ∀ frames, valueMove frames token = complete v.tree frames)
    (value : token ≠ .endArray) : Grows v cs := by
  intro frames place rest awaits stops
  rw [cut rest stops, ofTokensIn_cons, ← moves]
  -- An array may end where its first item may come, but a scalar is no closing bracket.
  rcases awaits with rfl | rfl
  · rfl
  · cases token <;> first | rfl | exact absurd rfl value

theorem grows_before {c : Char} (blank : Blank c) (grows : Grows v cs) : Grows v (c :: cs) := by
  intro frames place rest awaits stops
  rw [List.cons_append, tokensIn_blank blank]
  exact grows frames place rest awaits stops

theorem grows_after {c : Char} (blank : Blank c) (grows : Grows v cs) : Grows v (cs ++ [c]) := by
  intro frames place rest awaits stops
  rw [List.append_assoc, ← tokensIn_blank blank rest]
  exact grows frames place (c :: rest) awaits (stops_blank blank rest)

theorem ofTokensIn_bracket (frames : List Frame) {place : Place}
    (awaits : place = .value ∨ place = .firstItem) (rest : List Char) :
    ofTokensIn frames place (tokensIn .between ('[' :: rest)) =
      ofTokensIn (.array [] :: frames) .firstItem (tokensIn .between rest) := by
  rw [ofTokensIn_sign rfl]
  rcases awaits with rfl | rfl <;> rfl

theorem ofTokensIn_brace (frames : List Frame) {place : Place}
    (awaits : place = .value ∨ place = .firstItem) (rest : List Char) :
    ofTokensIn frames place (tokensIn .between ('{' :: rest)) =
      ofTokensIn (.object [] :: frames) .firstKey (tokensIn .between rest) := by
  rw [ofTokensIn_sign rfl]
  rcases awaits with rfl | rfl <;> rfl

theorem grows_noItems (blank : ∀ c ∈ cs, Blank c) : Grows (.array []) ('[' :: cs ++ [']']) := by
  intro frames place rest awaits stops
  simp only [List.cons_append, List.append_assoc, List.nil_append]
  rw [ofTokensIn_bracket frames awaits, tokensIn_blanks blank]
  rw [ofTokensIn_sign rfl]
  rfl

theorem grows_array (grow : ItemsGrow items cs) : Grows (.array items) ('[' :: cs ++ [']']) := by
  intro frames place rest awaits stops
  simp only [List.cons_append, List.append_assoc, List.nil_append]
  rw [ofTokensIn_bracket frames awaits]
  exact grow frames [] .firstItem rest (Or.inr rfl)

theorem grows_noMembers (blank : ∀ c ∈ cs, Blank c) : Grows (.object []) ('{' :: cs ++ ['}']) := by
  intro frames place rest awaits stops
  simp only [List.cons_append, List.append_assoc, List.nil_append]
  rw [ofTokensIn_brace frames awaits, tokensIn_blanks blank]
  rw [ofTokensIn_sign rfl]
  rfl

theorem grows_object (grow : MembersGrow members cs) :
    Grows (.object members) ('{' :: cs ++ ['}']) := by
  intro frames place rest awaits stops
  simp only [List.cons_append, List.append_assoc, List.nil_append]
  rw [ofTokensIn_brace frames awaits]
  exact grow frames [] .firstKey rest (Or.inr rfl)

theorem itemsGrow_one (grows : Grows v cs) : ItemsGrow [v] cs := by
  intro frames done place rest awaits
  rw [grows _ place _ awaits (stops_sign (by simp) rest), complete, follow, ofTokensIn_sign rfl]
  rfl

theorem itemsGrow_more (grows : Grows v cs) (grow : ItemsGrow items more) :
    ItemsGrow (v :: items) (cs ++ ',' :: more) := by
  intro frames done place rest awaits
  have others := grow frames (done ++ [v.tree]) .value rest (Or.inl rfl)
  rw [List.append_assoc] at others
  rw [List.append_assoc, List.cons_append, grows _ place _ awaits (stops_sign (by simp) _),
    complete, follow, ofTokensIn_sign rfl]
  exact others

theorem ofTokensIn_key (frames : List Frame) (done : List Member) {place : Place}
    (awaits : place = .key ∨ place = .firstKey) (written : WrittenKey key cs) (rest : List Char) :
    ofTokensIn (.object done :: frames) place (tokensIn .between (cs ++ ':' :: rest)) =
      ofTokensIn (.member done ⟨.ok key, .ok ()⟩ :: frames) .value (tokensIn .between rest) := by
  obtain ⟨front, middle, back, blank, string, blank', rfl⟩ := written
  rw [List.append_assoc, List.append_assoc, tokensIn_blanks blank, tokensIn_string string,
    tokensIn_blanks blank', ofTokensIn_cons]
  have named : move (.object done :: frames) place (.string ⟨.ok key, .ok ()⟩) =
      .on (.member done ⟨.ok key, .ok ()⟩ :: frames) .colon := by
    rcases awaits with rfl | rfl <;> rfl
  rw [named, follow, ofTokensIn_sign rfl]
  rfl

theorem membersGrow_one (named : WrittenKey key cs) (grows : Grows v more) :
    MembersGrow [(key, v)] (cs ++ ':' :: more) := by
  intro frames done place rest awaits
  rw [List.append_assoc, List.cons_append, ofTokensIn_key frames done awaits named,
    grows _ .value _ (Or.inl rfl) (stops_sign (by simp) rest), complete, follow,
    ofTokensIn_sign rfl]
  rfl

theorem membersGrow_more {last : List Char} (named : WrittenKey key cs) (grows : Grows v more)
    (grow : MembersGrow members last) :
    MembersGrow ((key, v) :: members) (cs ++ ':' :: more ++ ',' :: last) := by
  intro frames done place rest awaits
  have others := grow frames (done ++ [.mk (.string ⟨.ok key, .ok ()⟩) v.tree]) .key rest
    (Or.inl rfl)
  rw [List.append_assoc] at others
  simp only [List.append_assoc, List.cons_append]
  rw [ofTokensIn_key frames done awaits named,
    grows _ .value _ (Or.inl rfl) (stops_sign (by simp) _), complete, follow, ofTokensIn_sign rfl]
  exact others

mutual

theorem grows_written : ∀ {v cs}, Written v cs → Grows v cs
  | _, _, .null => grows_scalar (fun _ _ => rfl) (fun _ => rfl) nofun
  | _, _, .bool true => grows_scalar (fun _ _ => rfl) (fun _ => rfl) nofun
  | _, _, .bool false => grows_scalar (fun _ _ => rfl) (fun _ => rfl) nofun
  | _, _, .number h => grows_scalar (fun _ => tokensIn_number h) (fun _ => rfl) nofun
  | _, _, .string h => grows_scalar (fun rest _ => tokensIn_string h rest) (fun _ => rfl) nofun
  | _, _, .noItems blank => grows_noItems blank
  | _, _, .array h => grows_array (itemsGrow_written h)
  | _, _, .noMembers blank => grows_noMembers blank
  | _, _, .object h => grows_object (membersGrow_written h)
  | _, _, .before blank h => grows_before blank (grows_written h)
  | _, _, .after blank h => grows_after blank (grows_written h)

theorem itemsGrow_written : ∀ {items cs}, WrittenItems items cs → ItemsGrow items cs
  | _, _, .one h => itemsGrow_one (grows_written h)
  | _, _, .more h others => itemsGrow_more (grows_written h) (itemsGrow_written others)

theorem membersGrow_written : ∀ {members cs}, WrittenMembers members cs → MembersGrow members cs
  | _, _, .one named h => membersGrow_one named (grows_written h)
  | _, _, .more named h others =>
    membersGrow_more named (grows_written h) (membersGrow_written others)

end

/-- A text of a value is one tree, and nothing is left of it. -/
theorem ofTokens_written (written : Written v cs) :
    ofTokens (tokensIn .between cs) = (v.tree, []) := by
  have whole := grows_written written [] .value [] (Or.inl rfl) nofun
  rwa [List.append_nil] at whole

end Tree

theorem readText_written {α : Type} {v : Value} {text : String} (read : Reader α)
    (written : Written v text.toList) : readText read text = read v.tree := by
  rw [readText, tokens, Tree.ofTokens_written written]
  dsimp only
  cases read v.tree <;> rfl

/-! ### Skipping -/

mutual

theorem skip_tree : ∀ v : Value, v.tree.skip = .ok ()
  | .null => rfl
  | .bool _ => rfl
  | .number _ => rfl
  | .string _ => rfl
  | .array items => skipItems_trees items
  | .object members => skipMembers_trees members

theorem skipItems_trees : ∀ items, skipItems (itemTrees items) .closed = .ok ()
  | [] => rfl
  | v :: rest => by rw [itemTrees, skipItems, skip_tree v]; exact skipItems_trees rest

theorem skipMembers_trees : ∀ members, skipMembers (memberTrees members) .closed = .ok ()
  | [] => rfl
  | (key, v) :: rest => by
    rw [memberTrees, skipMembers, Member.skip, skip_tree v]
    exact skipMembers_trees rest

end

end NamespaceEntry.Json
