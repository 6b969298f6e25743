import Precompiled.Pattern.Tree
import Precompiled.Text.Blank

/-!
# Going through patterns

Readers of a pattern, which take characters off its front until they find a flaw. In verbose mode
blanks and comments may stand between the characters of a part.
-/

namespace Precompiled.Pattern

structure Cursor where
  offset : Nat := 0
  rest : List Char
  verbose : Bool := false
  names : List (List Char × Span) := []
  deriving DecidableEq, Repr

namespace Cursor

def drop (count : Nat) (c : Cursor) : Cursor :=
  { c with offset := c.offset + (c.rest.take count).length, rest := c.rest.drop count }

/-- How many characters in front are blanks or in comments. Whether a comment has begun is given. -/
def ignoredLength : Bool → List Char → Nat
  | _, [] => 0
  | true, c :: rest => ignoredLength (c ≠ '\n') rest + 1
  | false, c :: rest =>
    if Text.isBlank c then ignoredLength false rest + 1
    else if c = '#' then ignoredLength true rest + 1
    else 0

end Cursor

abbrev Reading := StateT Cursor (Except Flaw)

namespace Reading

variable {α : Type}

def fail (reason : Reason) (span : Span) : Reading α := throw { reason, span }

def offset : Reading Nat := return (← get).offset

def peek? : Reading (Option Char) := return (← get).rest.head?

def since (start : Nat) : Reading Span := return ⟨start, ← offset⟩

def here : Reading Span := do since (← offset)

def nextSpan : Reading Span := return ⟨← offset, (← offset) + 1⟩

def drop (count : Nat) : Reading Unit := modify (·.drop count)

/-- In verbose mode, takes off blanks and comments. -/
def skip : Reading Unit := modify fun c =>
  if c.verbose then c.drop (Cursor.ignoredLength false c.rest) else c

def advance : Reading Unit := do
  drop 1
  skip

def take (word : String) : Reading Bool := do
  if word.toList.isPrefixOf (← get).rest then
    drop word.length
    return true
  else return false

/-- The characters of a kind that come next, but no more of them than a list holds. -/
def runAlong (kind : Char → Bool) : List Char → Reading (List Char)
  | [] => return []
  | _ :: more => do
    match ← peek? with
    | none => return []
    | some c =>
      if kind c then
        advance
        return c :: (← runAlong kind more)
      else return []

def run (kind : Char → Bool) : Reading (List Char) := do runAlong kind (← get).rest

end Reading
end Precompiled.Pattern
