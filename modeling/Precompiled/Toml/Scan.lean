/-!
# Scanning

Readers of a text that take what they read off its front. A reader that finds something else fails,
and another one can be tried at the same place.
-/

namespace Precompiled.Toml

/-- A reader: it gives what it has read and the text that is left. -/
abbrev Scan := StateT (List Char) Option

namespace Scan

variable {α : Type}

def satisfy (kind : Char → Bool) : Scan Char
  | c :: rest => if kind c then some (c, rest) else none
  | [] => none

def char (c : Char) : Scan Unit := discard (satisfy (· = c))

def word : List Char → Scan Unit
  | [] => return
  | c :: rest => do
    char c
    word rest

def run (kind : Char → Bool) : Scan (List Char) := fun text => some (text.span kind)

def runOfSome (kind : Char → Bool) : Scan (List Char) := do
  let first ← satisfy kind
  return first :: (← run kind)

def count (kind : Char → Bool) : Nat → Scan (List Char)
  | 0 => return []
  | n + 1 => return (← satisfy kind) :: (← count kind n)

def attempt (p : Scan α) : Scan (Option α) := (some <$> p) <|> pure none

/-- The same reading without taking anything off. -/
def ahead (p : Scan α) : Scan Unit := fun text => (p text).map fun _ => ((), text)

/-- What a reader finds again and again, after what has been found, at most as often as a text has
characters. -/
def manyAfter (p : Scan α) (found : List α) : List Char → List Char → List α × List Char
  | [], text => (found.reverse, text)
  | _ :: bound, text =>
    match p text with
    | some (next, rest) => manyAfter p (next :: found) bound rest
    | none => (found.reverse, text)

def many (p : Scan α) : Scan (List α) := fun text => some (manyAfter p [] text text)

def separated (p : Scan α) (separator : Scan Unit) : Scan (List α) := do
  let first ← p
  return first :: (← many do separator; p)

def finish : Scan Unit
  | [] => some ((), [])
  | _ :: _ => none

end Scan

-- ---------------------------------------------------------------------------
-- Blanks and lines
-- ---------------------------------------------------------------------------

open Scan

def isBlank (c : Char) : Bool := c = ' ' || c = '\t'

/-- Whether a character may stand in a comment: any but the controls, and the tab. -/
def isPlain (c : Char) : Bool := c = '\t' || (0x20 ≤ c.toNat && c.toNat ≠ 0x7F)

def blanks : Scan Unit := discard (run isBlank)

def newline : Scan Unit := char '\n' <|> word ['\r', '\n']

def comment : Scan Unit := do
  char '#'
  discard (run isPlain)

def lineEnding : Scan Unit := newline <|> finish

/-- What may follow on the line of a header or an entry. -/
def restOfLine : Scan Unit := do
  blanks
  discard (attempt comment)
  lineEnding

/-- Blanks, line ends and comments, as they may stand between the items of an array. -/
def gap : Scan Unit := do
  blanks
  discard (many do
    discard (attempt comment)
    newline
    blanks)

end Precompiled.Toml
