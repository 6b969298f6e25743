import Precompiled.Pattern.Assembly
import Precompiled.Pattern.Group
import Precompiled.Text.Property.Name

/-!
# The meaning of trees

The pattern that a tree stands for, by the modes that hold where its parts stand. Without the
Unicode mode sets are sets of bytes, and those that go beyond ASCII are flaws.
-/

namespace Precompiled.Pattern

open Text (CharSet Property.Unknown)

structure Modes where
  caseless : Bool := false
  multiLine : Bool := false
  dotAll : Bool := false
  reluctant : Bool := false
  anyLineEnd : Bool := false
  unicode : Bool := true
  deriving DecidableEq, Repr

namespace Modes

def changed (m : Modes) (changes : ModeChanges) : Modes where
  caseless := (changes.get? .caseless).getD m.caseless
  multiLine := (changes.get? .multiLine).getD m.multiLine
  dotAll := (changes.get? .dotAll).getD m.dotAll
  reluctant := (changes.get? .reluctant).getD m.reluctant
  anyLineEnd := (changes.get? .anyLineEnd).getD m.anyLineEnd
  unicode := (changes.get? .unicode).getD m.unicode

def top (m : Modes) : Nat := if m.unicode then CharSet.lastCodePoint else 0xFF

def fold (m : Modes) (set : CharSet) : CharSet :=
  if !m.caseless then set else if m.unicode then set.closeCase else set.closeAsciiCase

def negateIf (m : Modes) (negated : Bool) (set : CharSet) : CharSet :=
  if negated then set.complement m.top else set

/-- A set, unless it holds bytes that are no characters. -/
def checked (m : Modes) (span : Span) (set : CharSet) : Except Flaw CharSet :=
  if m.unicode || set.all (·.2 < 0x80) then .ok set else .error { reason := .notText, span }

/-- A set as it is written at a place. Case is seen to before the set is negated. -/
def setAt (m : Modes) (negated : Bool) (span : Span) (set : CharSet) : Except Flaw CharSet :=
  m.checked span (m.negateIf negated (m.fold set))

def wordSet (m : Modes) : CharSet :=
  if m.unicode then Text.Property.word else CharSet.asciiWordCharacters

end Modes

-- ---------------------------------------------------------------------------
-- Sets
-- ---------------------------------------------------------------------------

def Shorthand.set (m : Modes) : Shorthand → CharSet
  | .word => m.wordSet
  | .digit => if m.unicode then Text.Property.ofCategory .decimalNumber else [(0x30, 0x39)]
  | .space => if m.unicode then Text.blanks else [(0x09, 0x0D), (0x20, 0x20)]

/-- Shorthands hold with each character all that differ from it in case only. -/
def Shorthand.meaning (m : Modes) (s : Shorthand) (negated : Bool) (span : Span) :
    Except Flaw CharSet :=
  m.checked span (m.negateIf negated (s.set m))

def reasonOf : Property.Unknown → Reason
  | .property => .propertyUnknown
  | .value => .valueUnknown

def PropertyQuery.set? : PropertyQuery → Except Property.Unknown CharSet
  | .named name => Text.Property.ofName name
  | .valued name value => Text.Property.ofValue name value

def PropertyQuery.meaning (m : Modes) (query : PropertyQuery) (negated : Bool) (span : Span) :
    Except Flaw CharSet :=
  if !m.unicode then .error { reason := .unicodeOff, span }
  else
    match query.set? with
    | .ok set => m.setAt negated span set
    | .error unknown => .error { reason := reasonOf unknown, span }

/-- A character, unless it is a byte that is none. -/
def Literal.checked (m : Modes) (l : Literal) : Except Flaw Char :=
  if !m.unicode && l.isByte && 0x80 ≤ l.char.toNat then
    .error { reason := .notText, span := l.span }
  else .ok l.char

def Literal.member (m : Modes) (l : Literal) : Except Flaw Nat := do
  let c ← l.checked m
  if m.unicode || c.toNat < 0x80 then return c.toNat
  else throw { reason := .unicodeOff, span := l.span }

def SetOperation.apply : SetOperation → CharSet → CharSet → CharSet
  | .intersection => CharSet.inter
  | .difference => CharSet.diff
  | .symmetricDifference => CharSet.symmDiff

mutual

def SetTree.meaning (m : Modes) : SetTree → Except Flaw CharSet
  | .nothing _ => return []
  | .literal l => do
    let n ← l.member m
    return [(n, n)]
  | .range first last => return [(← first.member m, ← last.member m)]
  | .ascii set negated span => m.setAt negated span set
  | .shorthand set negated span => set.meaning m negated span
  | .property query negated span => query.meaning m negated span
  | .bracket negated inner span => do m.setAt negated span (← inner.meaning m)
  | .union items _ => return CharSet.ofRuns (← SetTree.meanings m items)
  | .combined operation left right _ => do
    let left ← left.meaning m
    let right ← right.meaning m
    return operation.apply (m.fold left) (m.fold right)

def SetTree.meanings (m : Modes) : List SetTree → Except Flaw CharSet
  | [] => return []
  | item :: rest => return (← item.meaning m) ++ (← SetTree.meanings m rest)

end

-- ---------------------------------------------------------------------------
-- Patterns
-- ---------------------------------------------------------------------------

def Modes.pattern (m : Modes) (set : CharSet) : Pattern := .ofSet set (!m.unicode)

def Literal.meaning (m : Modes) (l : Literal) : Except Flaw Pattern :=
  return m.pattern (m.fold (CharSet.single (← l.checked m)))

def dotMeaning (m : Modes) (span : Span) : Except Flaw Pattern :=
  if !m.unicode then .error { reason := .notText, span }
  else
    let ends : CharSet :=
      if m.dotAll then []
      else if m.anyLineEnd then [(0x0A, 0x0A), (0x0D, 0x0D)] else [(0x0A, 0x0A)]
    .ok (m.pattern (CharSet.complement m.top ends))

def Assertion.meaning (m : Modes) : Assertion → Look
  | .lineStart =>
    if !m.multiLine then .textStart else if m.anyLineEnd then .anyLineStart else .lineStart
  | .lineEnd => if !m.multiLine then .textEnd else if m.anyLineEnd then .anyLineEnd else .lineEnd
  | .textStart => .textStart
  | .textEnd => .textEnd
  | .wordBoundary => .wordBoundary m.wordSet
  | .noWordBoundary => .noWordBoundary m.wordSet
  | .wordStart => .wordStart m.wordSet
  | .wordEnd => .wordEnd m.wordSet
  | .noWordBefore => .noWordBefore m.wordSet
  | .noWordAfter => .noWordAfter m.wordSet

def Atom.meaning (m : Modes) : Atom → Except Flaw Pattern
  | .literal l => l.meaning m
  | .dot span => dotMeaning m span
  | .assertion what _ => return .look (what.meaning m)
  | .shorthand set negated span => return m.pattern (← set.meaning m negated span)
  | .property query negated span => return m.pattern (← query.meaning m negated span)

mutual

/-- The pattern of a tree. Modes last to the end of the group that they stand in. -/
def Tree.meaning : Tree → StateT Modes (Except Flaw) Pattern
  | .empty _ => return .empty
  | .modes changes _ => do
    modify (·.changed changes)
    return .empty
  | .atom a => do liftM (a.meaning (← get))
  | .bracket negated inner span => do
    let m ← get
    return m.pattern (← m.setAt negated span (← inner.meaning m))
  | .repeated inner least most reluctant _ => do
    let p ← inner.meaning
    return p.times least most (reluctant == (← get).reluctant)
  | .group captures changes inner _ => do
    let around ← get
    set (around.changed changes)
    let p ← inner.meaning
    set around
    return if captures then .captured p else p
  | .sequence items _ => return .concat (← Tree.meanings items [])
  | .choice items _ => return .anyOf (← Tree.meanings items [])

/-- The patterns of trees, behind others of which the last one comes first. -/
def Tree.meanings : List Tree → List Pattern → StateT Modes (Except Flaw) (List Pattern)
  | [], done => return done.reverse
  | item :: rest, done => do Tree.meanings rest ((← item.meaning) :: done)

end

def ofText (text : String) : Except Fault Automaton := do
  let tree ← (Tree.ofChars text.toList).mapError .flawed
  let (p, _) ← (tree.meaning {}).mapError .flawed
  match p.automaton? with
  | some automaton => return automaton
  | none => throw .tooLarge

end Precompiled.Pattern
