import Precompiled.Pattern.Cursor

/-!
# Repetitions

Signs behind a part of a pattern that tell how often it is repeated.
-/

namespace Precompiled.Pattern

open Reading

def repeatable : List Tree → Reading (Tree × List Tree)
  | [] => do fail .repeatedMissing (← here)
  | item :: items => do
    if item.canRepeat then return (item, items) else fail .repeatedMissing (← here)

def reluctance : Reading Bool := take "?"

def repeatedItem (item : Tree) (items : List Tree) (least : Nat) (most : Option Nat)
    (reluctant : Bool) : Reading (List Tree) := do
  return .repeated item least most reluctant ⟨item.span.start, ← offset⟩ :: items

def simpleRepetition (items : List Tree) (least : Nat) (most : Option Nat) :
    Reading (List Tree) := do
  let (item, items) ← repeatable items
  drop 1
  repeatedItem item items least most (← reluctance)

/-- A number of repetitions, with blanks around it, or what is wrong with it. -/
def count : Reading (Except Flaw Nat) := do
  discard (run Text.isBlank)
  let start ← offset
  let digits ← run Char.isDigit
  let span ← since start
  discard (run Text.isBlank)
  if digits.isEmpty then return .error { reason := .countMissing, span }
  let n := digits.foldl (fun n c => n * 10 + (c.toNat - '0'.toNat)) 0
  if n < UInt32.size then return .ok n else return .error { reason := .countTooLarge, span }

def counted : Except Flaw Nat → Reading Nat
  | .ok n => return n
  | .error flaw => throw flaw

/-- Takes a character off that something has to follow, in braces that open at an offset. -/
def advanceInBraces (brace : Nat) : Reading Unit := do
  advance
  if (← peek?).isNone then fail .countOpen (← since brace)

/-- The least and the greatest number of repetitions in braces that open at an offset. A flaw in the
first number comes after that of braces that end nowhere. -/
def countRange (brace : Nat) : Reading (Nat × Option Nat) := do
  advanceInBraces brace
  let least ← count
  match ← peek? with
  | none => fail .countOpen (← since brace)
  | some ',' =>
    advanceInBraces brace
    let least ← counted least
    if (← peek?) = some '\x7d' then return (least, none)
    else return (least, some (← counted (← count)))
  | some _ =>
    let n ← counted least
    return (n, some n)

def countedRepetition (items : List Tree) : Reading (List Tree) := do
  let (item, items) ← repeatable items
  let brace ← offset
  let (least, most) ← countRange brace
  if (← peek?) ≠ some '\x7d' then fail .countOpen (← since brace)
  advance
  let reluctant ← reluctance
  if most.any (· < least) then fail .countOrder (← since brace)
  repeatedItem item items least most reluctant

def repetition? (sign : Char) (items : List Tree) : Reading (Option (List Tree)) :=
  match sign with
  | '?' => some <$> simpleRepetition items 0 (some 1)
  | '*' => some <$> simpleRepetition items 0 none
  | '+' => some <$> simpleRepetition items 1 none
  | '\x7b' => some <$> countedRepetition items
  | _ => return none

end Precompiled.Pattern
