import Precompiled.Pattern.Fault
import Precompiled.Text.CharSet

/-!
# Trees of patterns

What is written in a pattern, part by part, with where each part stands.
-/

namespace Precompiled.Pattern

open Text (CharSet)

/-- A way of reading a pattern that can be turned on and off within it. -/
inductive Mode where
  | caseless
  | multiLine
  | dotAll
  /-- Repetitions prefer few to many, and those that are marked for it prefer many. -/
  | reluctant
  | unicode
  | anyLineEnd
  | verbose
  deriving DecidableEq, Repr

/-- Modes in the order in which they are turned on or off. -/
abbrev ModeChanges := List (Mode × Bool)

def ModeChanges.get? (changes : ModeChanges) (mode : Mode) : Option Bool :=
  (changes.find? (·.1 = mode)).map (·.2)

structure Literal where
  char : Char
  span : Span
  /-- Whether it is written as the two digits of a byte. -/
  isByte : Bool := false
  deriving DecidableEq, Repr

/-- A set that has a letter for a name. -/
inductive Shorthand where
  | digit
  | space
  | word
  deriving DecidableEq, Repr

inductive Assertion where
  | lineStart
  | lineEnd
  | textStart
  | textEnd
  | wordBoundary
  | noWordBoundary
  | wordStart
  | wordEnd
  | noWordBefore
  | noWordAfter
  deriving DecidableEq, Repr

/-- A property of characters, by its own name or by the name of a value. -/
inductive PropertyQuery where
  | named (name : String)
  | valued (name value : String)
  deriving DecidableEq, Repr

inductive Atom where
  | literal (l : Literal)
  | dot (span : Span)
  | assertion (what : Assertion) (span : Span)
  | shorthand (set : Shorthand) (negated : Bool) (span : Span)
  | property (query : PropertyQuery) (negated : Bool) (span : Span)
  deriving DecidableEq, Repr

def Atom.span : Atom → Span
  | .literal l => l.span
  | .dot span | .assertion _ span | .shorthand _ _ span | .property _ _ span => span

inductive SetOperation where
  | intersection
  | difference
  | symmetricDifference
  deriving DecidableEq, Repr

inductive SetTree where
  | nothing (span : Span)
  | literal (l : Literal)
  | range (first last : Literal)
  | ascii (set : CharSet) (negated : Bool) (span : Span)
  | shorthand (set : Shorthand) (negated : Bool) (span : Span)
  | property (query : PropertyQuery) (negated : Bool) (span : Span)
  | bracket (negated : Bool) (inner : SetTree) (span : Span)
  | union (items : List SetTree) (span : Span)
  | combined (operation : SetOperation) (left right : SetTree) (span : Span)
  deriving Repr

def SetTree.span : SetTree → Span
  | .literal l => l.span
  | .range first last => ⟨first.span.start, last.span.stop⟩
  | .nothing span | .ascii _ _ span | .shorthand _ _ span | .property _ _ span
  | .bracket _ _ span | .union _ span | .combined _ _ _ span => span

inductive Tree where
  | empty (span : Span)
  /-- Modes from here to the end of the group. -/
  | modes (changes : ModeChanges) (span : Span)
  | atom (a : Atom)
  | bracket (negated : Bool) (inner : SetTree) (span : Span)
  /-- At least so many times, and with an end at most so many times. -/
  | repeated (inner : Tree) (least : Nat) (most : Option Nat) (reluctant : Bool) (span : Span)
  | group (captures : Bool) (changes : ModeChanges) (inner : Tree) (span : Span)
  | sequence (items : List Tree) (span : Span)
  | choice (items : List Tree) (span : Span)
  deriving Repr

namespace Tree

def span : Tree → Span
  | .atom a => a.span
  | .empty span | .modes _ span | .bracket _ _ span | .repeated _ _ _ _ span | .group _ _ _ span
  | .sequence _ span | .choice _ span => span

def ofItems (span : Span) : List Tree → Tree
  | [] => .empty span
  | [item] => item
  | items => .sequence items span

def ofBranches (span : Span) : List Tree → Tree
  | [] => .empty span
  | [branch] => branch
  | branches => .choice branches span

def canRepeat : Tree → Bool
  | .empty _ | .modes .. => false
  | _ => true

end Tree

-- ---------------------------------------------------------------------------
-- Nesting
-- ---------------------------------------------------------------------------

def depthLimit : Nat := 250

def checkDepth (depth : Nat) (span : Span) : Except Flaw Unit :=
  if depth < depthLimit then .ok () else .error { reason := .tooDeep depthLimit, span }

mutual

/-- Fails at the first part of a set that is nested too deep. -/
def SetTree.checkNesting (depth : Nat) : SetTree → Except Flaw Unit
  | .bracket _ inner span => do
    checkDepth depth span
    inner.checkNesting (depth + 1)
  | .union items span => do
    checkDepth depth span
    SetTree.checkAllNesting (depth + 1) items
  | .combined _ left right span => do
    checkDepth depth span
    left.checkNesting (depth + 1)
    right.checkNesting (depth + 1)
  | _ => return

def SetTree.checkAllNesting (depth : Nat) : List SetTree → Except Flaw Unit
  | [] => return
  | item :: rest => do
    item.checkNesting depth
    SetTree.checkAllNesting depth rest

end

mutual

def Tree.checkNesting (depth : Nat) : Tree → Except Flaw Unit
  | .bracket _ inner span => do
    checkDepth depth span
    inner.checkNesting (depth + 1)
  | .repeated inner _ _ _ span | .group _ _ inner span => do
    checkDepth depth span
    inner.checkNesting (depth + 1)
  | .sequence items span | .choice items span => do
    checkDepth depth span
    Tree.checkAllNesting (depth + 1) items
  | _ => return

def Tree.checkAllNesting (depth : Nat) : List Tree → Except Flaw Unit
  | [] => return
  | item :: rest => do
    item.checkNesting depth
    Tree.checkAllNesting depth rest

end

end Precompiled.Pattern
