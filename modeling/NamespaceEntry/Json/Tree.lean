import NamespaceEntry.Json.Token

/-!
# Texts as trees

`Tree` is the structure of a JSON text as far as it goes: a text that goes wrong is a tree
with a fault at the place where it does. A reader that walks the tree from left to right
meets the faults of the text in the order in which they are written.
-/

namespace NamespaceEntry.Json

/-- What follows the last member of an array or an object. -/
inductive Tail where
  | closed
  | cut (fault : TextFault)
  deriving DecidableEq, Repr

/-- What stands where the key of a member must. -/
inductive Key where
  | string (value : Scalar String)
  | missing (fault : TextFault)

mutual

/-- A value as it is written. -/
inductive Tree where
  | word (value : Except TextFault Word)
  | number (value : Scalar Number)
  | string (value : Scalar String)
  | array (items : List Tree) (tail : Tail)
  | object (members : List Member) (tail : Tail)
  | missing (fault : TextFault)

inductive Member where
  | mk (key : Key) (value : Tree)

end

namespace Tree

/-- A container that is still open. -/
inductive Frame where
  | array (items : List Tree)
  | object (members : List Member)
  | member (members : List Member) (key : Scalar String)

def Frame.add : Frame → Tree → Frame
  | .array items, t => .array (items ++ [t])
  | .object members, _ => .object members
  | .member members key, t => .object (members ++ [.mk (.string key) t])

def Frame.finish (tail : Tail) : Frame → Tree
  | .array items => .array items tail
  | .object members => .object members tail
  | .member members key =>
    .object (members ++ [.mk (.string key) (.missing .malformed)]) tail

/-- Ends all open containers, the innermost first. -/
def abandon : List Frame → Tree → Tree
  | [], t => t
  | frame :: frames, t => abandon frames ((frame.add t).finish (.cut .malformed))

/-- Ends all open containers where nothing can follow their last values. -/
def cut (fault : TextFault) : List Frame → Tree
  | [] => .missing fault
  | frame :: frames => abandon frames (frame.finish (.cut fault))

/-- Ends all open containers where a key is missing. -/
def keyless (fault : TextFault) : List Frame → Tree
  | .object members :: frames =>
    abandon frames
      (.object (members ++ [.mk (.missing fault) (.missing fault)]) (.cut fault))
  | frames => abandon frames (.missing fault)

/-- What may come next. -/
inductive Place where
  /-- A value. -/
  | value
  /-- A value, or the end of an empty array. -/
  | firstItem
  /-- A key, or the end of an empty object. -/
  | firstKey
  /-- A key. -/
  | key
  /-- The colon after a key. -/
  | colon
  /-- A comma or the end of a container. -/
  | next
  deriving DecidableEq, Repr

/-- What a token does to the open containers. -/
inductive Move where
  | on (frames : List Frame) (place : Place)
  | done (tree : Tree)

def complete (t : Tree) : List Frame → Move
  | [] => .done t
  | frame :: frames => .on (frame.add t :: frames) .next

def valueMove (frames : List Frame) : Token → Move
  | .beginArray => .on (.array [] :: frames) .firstItem
  | .beginObject => .on (.object [] :: frames) .firstKey
  | .word value => complete (.word value) frames
  | .number value => complete (.number value) frames
  | .string value => complete (.string value) frames
  | _ => .done (abandon frames (.missing .malformed))

def keyMove (frames : List Frame) (token : Token) : Move :=
  match frames, token with
  | .object members :: frames, .string key => .on (.member members key :: frames) .colon
  | frames, _ => .done (keyless .malformed frames)

/-- Ends the innermost container, or goes on in it. -/
def nextMove (frames : List Frame) (token : Token) : Move :=
  match frames, token with
  | .array items :: frames, .endArray => complete (.array items .closed) frames
  | .object members :: frames, .endObject => complete (.object members .closed) frames
  | .array items :: frames, .comma => .on (.array items :: frames) .value
  | .object members :: frames, .comma => .on (.object members :: frames) .key
  | frames, _ => .done (cut .malformed frames)

def move (frames : List Frame) (place : Place) (token : Token) : Move :=
  match place, token with
  | .value, token => valueMove frames token
  | .firstItem, .endArray => nextMove frames .endArray
  | .firstItem, token => valueMove frames token
  | .firstKey, .endObject => nextMove frames .endObject
  | .firstKey, token | .key, token => keyMove frames token
  | .colon, .colon => .on frames .value
  | .colon, _ => .done (abandon frames (.missing .malformed))
  | .next, token => nextMove frames token

/-- The tree of tokens that end while containers are open. -/
def ended (frames : List Frame) : Place → Tree
  | .next => cut .ended frames
  | .firstKey | .key => keyless .ended frames
  | _ => abandon frames (.missing .ended)

/-- The tree of the tokens from a place on, and the tokens after it. -/
def ofTokensIn (frames : List Frame) (place : Place) : List Token → Tree × List Token
  | [] => (ended frames place, [])
  | token :: rest =>
    match move frames place token with
    | .on frames place => ofTokensIn frames place rest
    | .done t => (t, rest)

/-- The tree of a list of tokens, and the tokens after it. -/
def ofTokens (tokens : List Token) : Tree × List Token := ofTokensIn [] .value tokens

end Tree

end NamespaceEntry.Json
