import Precompiled.Text.CharSet

/-!
# Looks around a place

What a pattern can ask of a place in a text without taking characters: where lines and words begin
and end. It hangs on the two characters around the place only.
-/

namespace Precompiled.Pattern

open Text (CharSet)

/-- A place of a text: what stands before and behind it, unless the text begins or ends there. -/
structure Spot where
  before : Option Char
  after : Option Char
  deriving DecidableEq, Repr

/-- What is asked of a place. The characters of words are those of a set. -/
inductive Look where
  | textStart
  | textEnd
  | lineStart
  | lineEnd
  /-- The start of a line that a carriage return, a line feed or both of them may end. -/
  | anyLineStart
  | anyLineEnd
  | wordBoundary (word : CharSet)
  | noWordBoundary (word : CharSet)
  | wordStart (word : CharSet)
  | wordEnd (word : CharSet)
  | noWordBefore (word : CharSet)
  | noWordAfter (word : CharSet)
  deriving DecidableEq, Repr

namespace Look

def holds (look : Look) (spot : Spot) : Bool :=
  match look with
  | textStart => spot.before.isNone
  | textEnd => spot.after.isNone
  | lineStart => spot.before.all (· = '\n')
  | lineEnd => spot.after.all (· = '\n')
  | anyLineStart =>
    spot.before.all (· = '\n') || spot.before = some '\r' && spot.after ≠ some '\n'
  | anyLineEnd =>
    spot.after.all (· = '\r') || spot.after = some '\n' && spot.before ≠ some '\r'
  | wordBoundary word => spot.before.any word.has != spot.after.any word.has
  | noWordBoundary word => spot.before.any word.has == spot.after.any word.has
  | wordStart word => !spot.before.any word.has && spot.after.any word.has
  | wordEnd word => spot.before.any word.has && !spot.after.any word.has
  | noWordBefore word => !spot.before.any word.has
  | noWordAfter word => !spot.after.any word.has

theorem holds_wordBoundary_iff (word : CharSet) (spot : Spot) :
    (wordBoundary word).holds spot = !(noWordBoundary word).holds spot := by
  simp [holds, bne]

end Look
end Precompiled.Pattern
