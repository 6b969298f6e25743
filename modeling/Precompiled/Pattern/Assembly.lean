import Precompiled.Pattern
import Precompiled.Pattern.Automaton

/-!
# Putting automata together

The automaton of a pattern. Texts can be searched from either end, so that an automaton has to fit
for both directions; the one that goes forward is the one that is kept.
-/

namespace Precompiled.Pattern

open Text (CharSet)

namespace Assembling

-- ---------------------------------------------------------------------------
-- Sets
-- ---------------------------------------------------------------------------

def byteSet (runs : CharSet) : Assembling Fragment := do
  let stop ← add (.pass 0)
  let start ← add (.bytes (runs.map fun (first, last) =>
    ⟨⟨first.toUInt8, last.toUInt8⟩, stop⟩))
  return ⟨start, stop⟩

/-- Byte sequences by their first ranges, of which sequences side by side may have the same. -/
def byFirst (sequences : List (List ByteRange)) : List (ByteRange × List (List ByteRange)) :=
  (sequences.splitBy fun a b => a.head? = b.head?).filterMap fun group =>
    match group with
    | (range :: _) :: _ => some (range, group.map List.tail)
    | _ => none

/-- The node that byte sequences lead on from, of so many ranges at most. Nodes that lead on alike
are one. -/
def sharedEnds (stop : Nat) : Nat → List (List ByteRange) → Assembling Nat
  | 0, _ => return stop
  | depth + 1, sequences => do
    match byFirst sequences with
    | [] => return stop
    | groups =>
      let ways ← groups.mapM fun (range, ends) =>
        return (⟨range, ← sharedEnds stop depth ends⟩ : Way)
      let key := ways.flatMap fun way =>
        [way.range.first.toNat, way.range.last.toNat, way.next]
      shared 10000 key (.bytes ways)

def charSet (set : CharSet) : Assembling Fragment := do
  let stop ← add (.pass 0)
  forget
  return ⟨← sharedEnds stop 4 (byteSequences set), stop⟩

/-- The node that a byte sequence leads on from when it is read from its end. -/
def sharedStarts : Nat → List ByteRange → Assembling Nat
  | next, [] => return next
  | next, range :: ranges => do
    let n ← shared 1000 [next, range.first.toNat, range.last.toNat] (.byte ⟨range, next⟩)
    sharedStarts n ranges

def charSetBackward (set : CharSet) : Assembling Fragment := do
  let fork ← add (.fork [])
  let stop ← add (.pass 0)
  forget
  (byteSequences set).forM fun ranges => do connect fork (← sharedStarts stop ranges)
  return ⟨fork, stop⟩

-- ---------------------------------------------------------------------------
-- Words
-- ---------------------------------------------------------------------------

def byFirstByte (words : List Bytes) : List (UInt8 × List Bytes) :=
  let sorted := words.mergeSort fun a b => a.head?.getD 0 ≤ b.head?.getD 0
  (sorted.splitBy fun a b => a.head? = b.head?).filterMap fun group =>
    match group with
    | (b :: _) :: _ => some (b, group.map List.tail)
    | _ => none

/-- Words in groups of those that are not empty, with each empty word between them. Of empty words
at the start one is enough. -/
def groupWords (words : List Bytes) : List (List Bytes) :=
  let (ended, others) := words.span List.isEmpty
  (ended.take 1 ++ others).splitBy fun a b => !a.isEmpty && !b.isEmpty

/-- The node that words lead on from, of so many bytes at most. Words share what they start with,
unless a word that ends there comes between them. -/
def sharedWords (stop : Nat) : Nat → List Bytes → Assembling Nat
  | 0, _ => return stop
  | depth + 1, words => do
    let next ← (groupWords words).mapM fun group => do
      if group.all List.isEmpty then return stop
      let ways ← (byFirstByte group).mapM fun (b, ends) => do
        let next ← if ends.all List.isEmpty then pure stop else sharedWords stop depth ends
        return (⟨.single b, next⟩ : Way)
      match ways with
      | [way] => add (.byte way)
      | ways => add (.bytes ways)
    add (.fork next)

def anyWord (words : List Bytes) : Assembling Fragment := do
  let stop ← add (.pass 0)
  let depth := words.foldl (fun n word => max n word.length) 0
  return ⟨← sharedWords stop (depth + 1) words, stop⟩

-- ---------------------------------------------------------------------------
-- Patterns
-- ---------------------------------------------------------------------------

def wordOf (backward : Bool) (chars : List Char) : Bytes :=
  let bytes := chars.flatMap String.utf8EncodeChar
  if backward then bytes.reverse else bytes

def words? (backward : Bool) (items : List Pattern) : Option (List Bytes) :=
  items.mapM fun
    | .literal chars => some (wordOf backward chars)
    | _ => none

mutual

/-- The fragment of a pattern, for texts that are read in one direction. -/
def ofPattern (backward : Bool) : Pattern → Assembling Fragment
  | .empty => single (.pass 0)
  | .literal chars =>
    chain ((wordOf backward chars).map fun b => single (.byte ⟨.single b, 0⟩))
  | .oneOf set _ =>
    if set.all (·.2 < 0x80) then byteSet set
    else if backward then charSetBackward set else charSet set
  | .look what => single (.look what 0)
  | .repeated inner least most _ =>
    repetition (inner.minLength.any (0 < ·)) (ofPattern backward inner) least most
  | .captured inner =>
    if backward then ofPattern backward inner else capture (ofPattern backward inner)
  | .sequence items =>
    let parts := ofPatterns backward items []
    chain (if backward then parts else parts.reverse)
  | .choice items =>
    match words? backward items with
    | some words => anyWord words
    | none => branches (ofPatterns backward items []).reverse

/-- The fragments of patterns, the last of them first, before others. -/
def ofPatterns (backward : Bool) :
    List Pattern → List (Assembling Fragment) → List (Assembling Fragment)
  | [], done => done
  | p :: rest, done => ofPatterns backward rest (ofPattern backward p :: done)

end

/-- The bytes that may be passed over before a pattern. -/
def entrance (isBound : Bool) : Assembling Fragment :=
  if isBound then single (.pass 0) else anyNumber true (byteSet [(0, 0xFF)])

def whole (backward : Bool) (p : Pattern) : Assembling Nat := do
  let entrance ← entrance (if backward then p.endsWith .textEnd else p.startsWith .textStart)
  let inner ←
    if backward then ofPattern backward p else capture (ofPattern backward p)
  connect inner.stop (← add .accept)
  connect entrance.stop inner.start
  return entrance.start

end Assembling

/-- The automaton of a pattern, unless it takes too much memory. -/
def automaton? (p : Pattern) : Option Automaton := do
  let (start, assembly) ← (Assembling.whole false p).run {}
  let _ ← (Assembling.whole true p).run {}
  return ⟨assembly.nodes, start⟩

end Precompiled.Pattern
