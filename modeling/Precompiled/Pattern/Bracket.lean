import Precompiled.Pattern.Escape
import Precompiled.Text.Ascii

/-!
# Bracketed sets

Sets of characters as they are written between brackets: characters, ranges, sets with names, and
sets in further brackets. Operators between them take the result of all that stands to the left.
-/

namespace Precompiled.Pattern

open Reading
open Text (CharSet)

structure BracketLevel where
  start : Nat
  opened : Nat
  negated : Bool
  left : Option (SetOperation × SetTree) := none
  /-- The items since the last operator, last first, and where they begin. -/
  items : List SetTree := []
  itemsStart : Nat

namespace BracketLevel

def push (level : BracketLevel) (item : SetTree) : BracketLevel :=
  { level with items := item :: level.items }

def union (level : BracketLevel) : SetTree :=
  match level.items.reverse with
  | [] => .nothing ⟨level.itemsStart, level.itemsStart⟩
  | [item] => item
  | first :: rest =>
    let last := (level.items.head?.getD first).span
    .union (first :: rest) ⟨first.span.start, last.stop⟩

def content (level : BracketLevel) : SetTree :=
  match level.left with
  | none => level.union
  | some (operation, left) =>
    let right := level.union
    .combined operation left right ⟨left.span.start, right.span.stop⟩

def operate (operation : SetOperation) (offset : Nat) (level : BracketLevel) : BracketLevel :=
  { level with left := some (operation, level.content), items := [], itemsStart := offset }

end BracketLevel

/-- Takes off hyphens that open a set, last first. They are no more than a list holds that is as
long as what is left. -/
def leadingHyphens (start : Nat) : List Char → List SetTree → Reading (List SetTree)
  | [], _ => fail .setOpen ⟨start, start⟩
  | _ :: more, items => do
    match ← peek? with
    | none => fail .setOpen ⟨start, start⟩
    | some c =>
      if c = '-' then
        let span ← nextSpan
        advance
        leadingHyphens start more (.literal { char := c, span } :: items)
      else return items

/-- Takes a character off that something has to follow, in a set that begins at an offset. -/
def advanceWithin (start : Nat) : Reading Char := do
  advance
  match ← peek? with
  | none => fail .setOpen (← since start)
  | some c => return c

/-- Takes off what opens a set. A closing bracket that comes first stands for itself. -/
def openBracket : Reading BracketLevel := do
  let start ← offset
  let first ← advanceWithin start
  let negated := first = '^'
  if negated then discard (advanceWithin start)
  let itemsStart ← offset
  let hyphens ← leadingHyphens start (← get).rest []
  let span ← nextSpan
  let items ←
    if hyphens.isEmpty && (← peek?) = some ']' then do
      discard (advanceWithin start)
      pure [.literal { char := ']', span }]
    else pure hyphens
  return { start, opened := ← offset, negated, items, itemsStart }

def asciiSet? : Reading (Option SetTree) := do
  let start ← get
  if ← take "[:" then
    let negated ← take "^"
    let name := (← get).rest.takeWhile (· ≠ ':')
    drop name.length
    if ← take ":]" then
      if let some set := CharSet.asciiSets.lookup (String.ofList name) then
        return some (.ascii set negated (← since start.offset))
  set start
  return none

def bracketAtom (c : Char) : Reading Atom := do
  if c = '\\' then escapeAtom
  else
    let span ← nextSpan
    drop 1
    return .literal { char := c, span }

def Atom.setTree : Atom → Reading SetTree
  | .literal l => return .literal l
  | .shorthand set negated span => return .shorthand set negated span
  | .property query negated span => return .property query negated span
  | .dot span | .assertion _ span => fail .setEscape span

def Atom.rangeEnd : Atom → Reading Literal
  | .literal l => return l
  | a => fail .setRangeEnd a.span

/-- The character behind the next one, as far as a look past blanks and one sign for a comment
shows it. -/
def glance? : Reading (Option Char) := do
  let c ← get
  let rest := c.rest.drop 1
  if !c.verbose then return rest.head?
  match rest.dropWhile Text.isBlank with
  | '#' :: comment => return (comment.dropWhile Text.isBlank).head?
  | rest => return rest.head?

def rangeFollows : Reading Bool := do
  if (← peek?) ≠ some '-' then return false
  let next ← glance?
  return next ≠ some ']' && next ≠ some '-'

def rangeOrItem (level : BracketLevel) (c : Char) : Reading SetTree := do
  let unclosed : Span := ⟨level.start, level.opened⟩
  let first ← bracketAtom c
  skip
  if (← peek?).isNone then fail .setOpen unclosed
  if ← rangeFollows then
    advance
    match ← peek? with
    | none => fail .setOpen unclosed
    | some c =>
      let last ← bracketAtom c
      let first ← first.rangeEnd
      let last ← last.rangeEnd
      if first.char.toNat ≤ last.char.toNat then return .range first last
      else fail .setRangeOrder ⟨first.span.start, last.span.stop⟩
  else first.setTree

def operator? : Reading (Option SetOperation) := do
  if ← take "&&" then return some .intersection
  if ← take "--" then return some .difference
  if ← take "~~" then return some .symmetricDifference
  return none

/-- The rest of a bracketed set in others, innermost first. It has no more items than a list holds
that is as long as what is left. -/
def bracketRest : List Char → BracketLevel → List BracketLevel → Reading Tree
  | [], level, _ => fail .setOpen ⟨level.start, level.opened⟩
  | _ :: more, level, outer => do
    skip
    match ← peek? with
    | none => fail .setOpen ⟨level.start, level.opened⟩
    | some '[' =>
      match ← asciiSet? with
      | some item => bracketRest more (level.push item) outer
      | none => bracketRest more (← openBracket) (level :: outer)
    | some ']' =>
      drop 1
      let span ← since level.start
      match outer with
      | [] => return .bracket level.negated level.content span
      | next :: outer =>
        bracketRest more (next.push (.bracket level.negated level.content span)) outer
    | some c =>
      match ← operator? with
      | some operation => bracketRest more (level.operate operation (← offset)) outer
      | none => bracketRest more (level.push (← rangeOrItem level c)) outer

def bracketTree : Reading Tree := do
  let left := (← get).rest
  bracketRest left (← openBracket) []

end Precompiled.Pattern
