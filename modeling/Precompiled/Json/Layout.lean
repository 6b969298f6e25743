import Precompiled.Json.Token

/-!
# Layouts of a JSON text

A run of tokens is written without blanks, or over lines that are indented by two spaces for every
open container. An empty container stays on its line.
-/

namespace Precompiled.Json

def compact (tokens : List Token) : Bytes := tokens.flatMap Token.spelling

def Token.opens : Token → Bool
  | .openObject | .openArray => true
  | _ => false

def Token.closes : Token → Bool
  | .closeObject | .closeArray => true
  | _ => false

namespace Layout

def line (depth : Nat) : Bytes := '\n'.toUInt8 :: List.replicate (2 * depth) ' '.toUInt8

/-- The blanks between a token and the next one, which stands at some depth. -/
def gap (previous next : Token) (depth : Nat) : Bytes :=
  if previous = .colon then [' '.toUInt8]
  else if previous.opens then if next.closes then [] else line depth
  else if previous = .comma || next.closes then line depth
  else []

/-- What has been written, latest first, the last token of it, and the containers it leaves open. -/
structure Progress where
  parts : List Bytes := []
  previous : Option Token := none
  depth : Nat := 0

def Progress.step (p : Progress) (next : Token) : Progress :=
  let depth := if next.closes then p.depth - 1 else p.depth
  let blanks := match p.previous with
    | none => []
    | some previous => gap previous next depth
  { parts := next.spelling :: blanks :: p.parts
    previous := some next
    depth := if next.opens then depth + 1 else depth }

end Layout

def pretty (tokens : List Token) : Bytes :=
  (tokens.foldl Layout.Progress.step {}).parts.reverse.flatten

end Precompiled.Json
