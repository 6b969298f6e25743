import Precompiled.Pattern.Bracket
import Precompiled.Pattern.Repetition
import Precompiled.Text.Letter

/-!
# Groups

Parts of a pattern in parentheses, their names and modes, and whole patterns.
-/

namespace Precompiled.Pattern

open Reading
open Text (Category CharSet)

-- ---------------------------------------------------------------------------
-- Modes
-- ---------------------------------------------------------------------------

def modeOf? : Char → Option Mode
  | 'i' => some .caseless
  | 'm' => some .multiLine
  | 's' => some .dotAll
  | 'U' => some .reluctant
  | 'u' => some .unicode
  | 'R' => some .anyLineEnd
  | 'x' => some .verbose
  | _ => none

structure ModeList where
  changes : List (Mode × Span) := []
  hyphen : Option (List (Mode × Span) × Span) := none

namespace ModeList

def isEmpty (list : ModeList) : Bool := list.changes.isEmpty && list.hyphen.isNone

def all (list : ModeList) : List (Mode × Span) :=
  list.changes ++ (list.hyphen.map (·.1)).getD []

/-- The modes before the hyphen are turned on, those behind it off. -/
def toChanges (list : ModeList) : ModeChanges :=
  match list.hyphen with
  | none => list.changes.reverse.map fun (mode, _) => (mode, true)
  | some (before, _) =>
    (before.reverse.map fun (mode, _) => (mode, true)) ++
      list.changes.reverse.map fun (mode, _) => (mode, false)

def extend (list : ModeList) (c : Char) (span : Span) : Except Flaw ModeList :=
  if c = '-' then
    match list.hyphen with
    | some (_, first) => .error { reason := .modeNegationTwice, span, related := first }
    | none => .ok { changes := [], hyphen := some (list.changes, span) }
  else
    match modeOf? c with
    | none => .error { reason := .modeUnknown, span }
    | some mode =>
      match list.all.find? (·.1 = mode) with
      | some (_, first) => .error { reason := .modeTwice, span, related := first }
      | none => .ok { list with changes := (mode, span) :: list.changes }

end ModeList

def modeList : List Char → ModeList → Reading ModeList
  | [], _ => do fail .modesOpen (← here)
  | c :: rest, list => do
    if c = ':' || c = ')' then
      match list.changes, list.hyphen with
      | [], some (_, span) => fail .modeNegationLast span
      | _, _ => return list
    else
      let list ← list.extend c (← nextSpan)
      drop 1
      modeList rest list

-- ---------------------------------------------------------------------------
-- Names
-- ---------------------------------------------------------------------------

def isLetter (c : Char) : Bool := CharSet.alphabetic.has c

def isNameChar (first : Bool) (c : Char) : Bool :=
  c = '_' || isLetter c ||
    !first && (c = '.' || c = '[' || c = ']' || Category.numbers.contains (Category.ofChar c))

def nameChars (first : Bool) : List Char → Reading (List Char)
  | [] => do fail .nameOpen (← here)
  | c :: rest => do
    if c = '>' then return []
    else if isNameChar first c then
      drop 1
      return c :: (← nameChars false rest)
    else fail .nameCharacter (← nextSpan)

/-- Takes off the name of a group. No two groups have the same name. -/
def groupName : Reading Unit := do
  let start ← offset
  let name ← nameChars true (← get).rest
  let span ← since start
  drop 1
  if name.isEmpty then fail .nameMissing ⟨start, start⟩
  match (← get).names.lookup name with
  | some first => throw { reason := .nameTwice, span, related := first }
  | none => modify fun c => { c with names := (name, span) :: c.names }

-- ---------------------------------------------------------------------------
-- Groups
-- ---------------------------------------------------------------------------

inductive Opening where
  | modes (changes : ModeChanges)
  | group (captures : Bool) (changes : ModeChanges)

def takeAny : List String → Reading Bool
  | [] => return false
  | word :: words => do if ← take word then return true else takeAny words

def modeOpening (start question : Nat) : Reading Opening := do
  if (← peek?).isNone then fail .groupOpen ⟨start, start + 1⟩
  let list ← modeList (← get).rest {}
  let ends := (← peek?) = some ')'
  drop 1
  if !ends then return .group false list.toChanges
  if list.isEmpty then fail .repeatedMissing ⟨question, question⟩
  return .modes list.toChanges

def opening : Reading Opening := do
  let start ← offset
  advance
  if ← takeAny ["?=", "?!", "?<=", "?<!"] then fail .lookAround (← since start)
  if ← takeAny ["?P<", "?<"] then
    groupName
    return .group true []
  let question ← offset
  if ← take "?" then modeOpening start question else return .group true []

structure GroupLevel where
  start : Nat
  captures : Bool := true
  changes : ModeChanges := []
  verboseAround : Bool
  /-- Where the first branch begins, and where the current one does. -/
  branchesStart : Nat
  branchStart : Nat
  branches : List Tree := []
  items : List Tree := []

namespace GroupLevel

def ofStart (start offset : Nat) (captures : Bool) (changes : ModeChanges)
    (verboseAround : Bool) : GroupLevel :=
  { start, captures, changes, verboseAround, branchesStart := offset, branchStart := offset }

def push (level : GroupLevel) (item : Tree) : GroupLevel :=
  { level with items := item :: level.items }

def branch (level : GroupLevel) (stop : Nat) : Tree :=
  .ofItems ⟨level.branchStart, stop⟩ level.items.reverse

def nextBranch (level : GroupLevel) (stop offset : Nat) : GroupLevel :=
  { level with branchStart := offset, branches := level.branch stop :: level.branches, items := [] }

def content (level : GroupLevel) (stop : Nat) : Tree :=
  .ofBranches ⟨level.branchesStart, stop⟩ (level.branch stop :: level.branches).reverse

end GroupLevel

def setVerbose (verbose : Bool) : Reading Unit := modify fun c => { c with verbose }

def primitive (c : Char) : Reading Atom := do
  if c = '\\' then return ← escapeAtom
  let span ← nextSpan
  drop 1
  return match c with
    | '.' => .dot span
    | '^' => .assertion .lineStart span
    | '$' => .assertion .lineEnd span
    | c => .literal { char := c, span }

/-- The rest of a group in others, innermost first. So many parts are read at most. -/
def groupRest : Nat → GroupLevel → List GroupLevel → Reading Tree
  | 0, level, _ => return level.content (← offset)
  | n + 1, level, outer => do
    skip
    match ← peek? with
    | none =>
      if outer.isEmpty then return level.content (← offset)
      else fail .groupOpen ⟨level.start, level.start + 1⟩
    | some '(' =>
      let start ← offset
      let verbose := (← get).verbose
      match ← opening with
      | .modes changes =>
        setVerbose ((changes.get? .verbose).getD verbose)
        groupRest n (level.push (.modes changes (← since start))) outer
      | .group captures changes =>
        setVerbose ((changes.get? .verbose).getD verbose)
        groupRest n (.ofStart start (← offset) captures changes verbose) (level :: outer)
    | some ')' =>
      match outer with
      | [] => fail .groupNotOpened (← nextSpan)
      | next :: outer =>
        let content := level.content (← offset)
        setVerbose level.verboseAround
        drop 1
        let group := .group level.captures level.changes content (← since level.start)
        groupRest n (next.push group) outer
    | some '|' =>
      let stop ← offset
      drop 1
      groupRest n (level.nextBranch stop (← offset)) outer
    | some '[' => groupRest n (level.push (← bracketTree)) outer
    | some c =>
      match ← repetition? c level.items with
      | some items => groupRest n { level with items } outer
      | none => groupRest n (level.push (.atom (← primitive c))) outer

def Tree.ofChars (text : List Char) : Except Flaw Tree := do
  let (tree, _) ← groupRest (text.length + 1) (.ofStart 0 0 false [] false) [] { rest := text }
  tree.checkNesting 0
  return tree

end Precompiled.Pattern
