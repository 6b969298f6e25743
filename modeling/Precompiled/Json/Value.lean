import Precompiled.Json.Token

/-!
# JSON values

A text is read into a tree as far as it goes. Where it stops being JSON the tree stops too: what
was open there stays unclosed, so whoever walks the tree in reading order meets everything that
came before the fault, and the fault after it.
-/

namespace Precompiled.Json

inductive Value where
  | null
  | bool (value : Bool)
  | int (value : Int)
  | real (digits : Bytes)
  | text (raw : Bytes)
  | array (items : List Value) (closed : Bool)
  | object (members : List (Bytes × Value)) (closed : Bool)
  /-- The place where a value is due and none can be read. -/
  | broken
  deriving Repr, Inhabited

/-- Whether the text of the value was read to its end. Only the last parts of a tree can be
unclosed, and all that encloses them is unclosed with them. -/
def Value.whole : Value → Bool
  | .array _ closed | .object _ closed => closed
  | .broken => false
  | _ => true

-- ---------------------------------------------------------------------------
-- Tokens of a value
-- ---------------------------------------------------------------------------

mutual
def Value.tokens : Value → List Token
  | .null => [.null]
  | .bool value => [.bool value]
  | .int value => [.int value]
  | .real digits => [.real digits]
  | .text raw => [.text raw]
  | .array items closed =>
    .openArray :: itemTokens items ++ if closed then [.closeArray] else []
  | .object members closed =>
    .openObject :: memberTokens members ++ if closed then [.closeObject] else []
  | .broken => []
termination_by structural value => value

def itemTokens : List Value → List Token
  | [] => []
  | [item] => item.tokens
  | item :: next :: rest => item.tokens ++ .comma :: itemTokens (next :: rest)
termination_by structural items => items

def memberTokens : List (Bytes × Value) → List Token
  | [] => []
  | [(key, value)] => .text key :: .colon :: value.tokens
  | (key, value) :: next :: rest =>
    .text key :: .colon :: value.tokens ++ .comma :: memberTokens (next :: rest)
termination_by structural members => members
end

-- ---------------------------------------------------------------------------
-- Values of tokens
-- ---------------------------------------------------------------------------

/-- A container under way, latest part first. -/
inductive Frame where
  | items (done : List Value)
  | members (done : List (Bytes × Value)) (key : Option Bytes)

inductive Expected where
  | value
  | firstItem
  | firstKey
  | key
  | colon
  | separator
  /-- Nothing: the value is complete. `extra` tells that something came all the same. -/
  | done (value : Value) (extra : Bool)
  | stuck

structure Builder where
  frames : List Frame := []
  expected : Expected := .value

namespace Builder

def put (frames : List Frame) (value : Value) : Builder :=
  match frames with
  | [] => ⟨[], .done value false⟩
  | .items done :: outer => ⟨.items (value :: done) :: outer, .separator⟩
  | .members done (some key) :: outer => ⟨.members ((key, value) :: done) none :: outer, .separator⟩
  | .members done none :: outer => ⟨.members done none :: outer, .stuck⟩

def start (frames : List Frame) : Token → Builder
  | .openArray => ⟨.items [] :: frames, .firstItem⟩
  | .openObject => ⟨.members [] none :: frames, .firstKey⟩
  | .null => put frames .null
  | .bool value => put frames (.bool value)
  | .int value => put frames (.int value)
  | .real digits => put frames (.real digits)
  | .text raw => put frames (.text raw)
  | _ => ⟨frames, .stuck⟩

def close (frames : List Frame) (token : Token) : Builder :=
  match token, frames with
  | .closeArray, .items done :: outer => put outer (.array done.reverse true)
  | .closeObject, .members done none :: outer => put outer (.object done.reverse true)
  | _, _ => ⟨frames, .stuck⟩

def takeKey (frames : List Frame) (token : Token) : Builder :=
  match token, frames with
  | .text raw, .members done none :: outer => ⟨.members done (some raw) :: outer, .colon⟩
  | _, _ => ⟨frames, .stuck⟩

def separate (frames : List Frame) (token : Token) : Builder :=
  match token, frames with
  | .comma, .items _ :: _ => ⟨frames, .value⟩
  | .comma, .members .. :: _ => ⟨frames, .key⟩
  | _, _ => close frames token

def step (b : Builder) (token : Token) : Builder :=
  match b.expected with
  | .value => start b.frames token
  | .firstItem => if token = .closeArray then close b.frames token else start b.frames token
  | .firstKey => if token = .closeObject then close b.frames token else takeKey b.frames token
  | .key => takeKey b.frames token
  | .colon => if token = .colon then ⟨b.frames, .value⟩ else ⟨b.frames, .stuck⟩
  | .separator => separate b.frames token
  | .done value _ => ⟨b.frames, .done value true⟩
  | .stuck => b

/-- What is left of a container that the text does not close, around the part that broke off. -/
def breakOff : Frame → Option Value → Value
  | .items done, inner => .array (inner.toList ++ done).reverse false
  | .members done none, _ => .object done.reverse false
  | .members done (some key), inner => .object ((key, inner.getD .broken) :: done).reverse false

def finish (b : Builder) : Value :=
  match b.expected with
  | .done value _ => value
  | _ => ((b.frames.foldl (fun inner frame => some (breakOff frame inner)) none).getD .broken)

end Builder

/-- A text read as one value: the value, as far as it goes, and whether it is all of the text. -/
structure Document where
  root : Value
  whole : Bool

def Lexed.document (l : Lexed) : Document :=
  let b := l.tokens.foldl Builder.step {}
  let complete := match b.expected with
    | .done _ extra => !extra
    | _ => false
  ⟨b.finish, l.whole && complete⟩

def parse (text : Bytes) : Document := (lex text).document

end Precompiled.Json
