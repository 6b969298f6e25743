import Precompiled.Pattern.Look

/-!
# Patterns of text

Patterns tell which texts are looked for. They are put together by functions that keep them short:
sequences hold no further sequences and no two literals side by side, choices hold no further
choices, and choices among single characters or among sets are sets themselves. How much memory the
search for a pattern takes is counted on this form.
-/

namespace Precompiled

open Text (CharSet)

inductive Pattern where
  | empty
  | literal (chars : List Char)
  /-- One character of a set. Sets of bytes hold ASCII characters only. -/
  | oneOf (chars : CharSet) (isBytes : Bool)
  | look (what : Pattern.Look)
  /-- At least so many times, and with an end at most so many times. -/
  | repeated (inner : Pattern) (least : Nat) (most : Option Nat) (greedy : Bool)
  | captured (inner : Pattern)
  | sequence (items : List Pattern)
  | choice (items : List Pattern)
  deriving Repr

namespace Pattern

def nothing : Pattern := .oneOf [] true

-- ---------------------------------------------------------------------------
-- Measures
-- ---------------------------------------------------------------------------

mutual

/-- The least number of bytes in texts of a pattern, unless it has none. -/
def minLength : Pattern → Option Nat
  | .empty | .look _ => some 0
  | .literal chars => some (chars.map Char.utf8Size).sum
  | .oneOf [] _ => none
  | .oneOf ((first, _) :: _) _ => some (Char.ofNat first).utf8Size
  | .repeated inner least _ _ => inner.minLength.map (· * least)
  | .captured inner => inner.minLength
  | .sequence items => sumOfMin items 0
  | .choice items => leastOfMin items none

def sumOfMin : List Pattern → Nat → Option Nat
  | [], sum => some sum
  | p :: rest, sum =>
    match p.minLength with
    | some n => sumOfMin rest (sum + n)
    | none => none

def leastOfMin : List Pattern → Option Nat → Option Nat
  | [], least => least
  | p :: rest, least =>
    match p.minLength with
    | some n => leastOfMin rest (some (min n (least.getD n)))
    | none => none

end

mutual

/-- Whether a pattern has texts, and all of them are empty. -/
def isWidthless : Pattern → Bool
  | .empty | .look _ => true
  | .literal chars => chars.isEmpty
  | .oneOf .. => false
  | .repeated inner _ most _ => most.isSome && inner.isWidthless
  | .captured inner => inner.isWidthless
  | .sequence items | .choice items => allWidthless items

def allWidthless : List Pattern → Bool
  | [] => true
  | p :: rest => p.isWidthless && allWidthless rest

end

mutual

/-- Whether every text of a pattern starts where a look holds. -/
def startsWith (what : Look) : Pattern → Bool
  | .empty | .literal _ | .oneOf .. => false
  | .look l => l = what
  | .repeated inner least _ _ => 0 < least && inner.startsWith what
  | .captured inner => inner.startsWith what
  | .sequence items => anyStartsWith what items
  | .choice items => allStartWith what items

/-- Whether some part of a sequence starts where a look holds, with no text before it. -/
def anyStartsWith (what : Look) : List Pattern → Bool
  | [] => false
  | p :: rest => p.startsWith what || p.isWidthless && anyStartsWith what rest

def allStartWith (what : Look) : List Pattern → Bool
  | [] => true
  | p :: rest => p.startsWith what && allStartWith what rest

end

mutual

def mirrored : Pattern → Pattern
  | .repeated inner least most greedy => .repeated inner.mirrored least most greedy
  | .captured inner => .captured inner.mirrored
  | .sequence items => .sequence (mirroredAll items [])
  | .choice items => .choice (mirroredAll items []).reverse
  | p => p

/-- Mirrored patterns, the last of them first, before others. -/
def mirroredAll : List Pattern → List Pattern → List Pattern
  | [], done => done
  | p :: rest, done => mirroredAll rest (p.mirrored :: done)

end

def endsWith (what : Look) (p : Pattern) : Bool := p.mirrored.startsWith what

mutual

/-- Whether one pattern can stand for another. Captured parts are always told apart. -/
def same : Pattern → Pattern → Bool
  | .empty, .empty => true
  | .literal a, .literal b => a = b
  | .oneOf a isBytes, .oneOf b areBytes => a = b && isBytes = areBytes
  | .look a, .look b => a = b
  | .repeated a least most greedy, .repeated b least' most' greedy' =>
    least = least' && most = most' && greedy = greedy' && same a b
  | .sequence a, .sequence b => sameAll a b
  | .choice a, .choice b => sameAll a b
  | _, _ => false

def sameAll : List Pattern → List Pattern → Bool
  | [], [] => true
  | p :: ps, q :: qs => same p q && sameAll ps qs
  | _, _ => false

end

-- ---------------------------------------------------------------------------
-- Putting patterns together
-- ---------------------------------------------------------------------------

/-- One character of a set. Surrogates are no characters. -/
def ofSet (set : CharSet) (isBytes : Bool) : Pattern :=
  match set.inter CharSet.characters with
  | [] => nothing
  | [(first, last)] =>
    if first = last then .literal [Char.ofNat first] else .oneOf [(first, last)] isBytes
  | runs => .oneOf runs isBytes

/-- A pattern a number of times. More than once makes no difference to a pattern without width. -/
def times (inner : Pattern) (least : Nat) (most : Option Nat) (greedy : Bool) : Pattern :=
  let (least, most) :=
    if inner.isWidthless then (min least 1, some (min (most.getD 1) 1)) else (least, most)
  if least = 0 && most = some 0 then .empty
  else if least = 1 && most = some 1 then inner
  else .repeated inner least most greedy

def attach : Pattern → List Pattern → List Pattern
  | .empty, items => items
  | .literal a, .literal b :: items => .literal (a ++ b) :: items
  | p, items => p :: items

def concat (items : List Pattern) : Pattern :=
  let parts := items.flatMap fun
    | .sequence inner => inner
    | p => [p]
  match parts.foldr attach [] with
  | [] => .empty
  | [p] => p
  | parts => .sequence parts

def singleChars? (items : List Pattern) : Option CharSet :=
  items.mapM fun
    | Pattern.literal [c] => some (c.toNat, c.toNat)
    | _ => none

def setRuns? (items : List Pattern) : Option CharSet :=
  (items.mapM fun
    | Pattern.oneOf runs _ => some runs
    | _ => none).map List.flatten

/-- Any of a list of patterns that have no start in common. -/
def choiceOf (items : List Pattern) : Pattern :=
  let branches := items.flatMap fun
    | .choice inner => inner
    | p => [p]
  match branches with
  | [] => nothing
  | [p] => p
  | branches =>
    match (singleChars? branches).or (setRuns? branches) with
    | some runs => ofSet (CharSet.ofRuns runs) false
    | none => .choice branches

def parts : Pattern → List Pattern
  | .sequence items => items
  | _ => []

def commonParts (a b : List Pattern) : Nat :=
  ((a.zip b).takeWhile fun (p, q) => same p q).length

/-- Any of a list of patterns. What all of them start with alike comes first. -/
def anyOf (items : List Pattern) : Pattern :=
  match choiceOf items with
  | .choice (first :: rest) =>
    let common := rest.foldl (fun n p => commonParts (first.parts.take n) p.parts)
      first.parts.length
    if common = 0 then .choice (first :: rest)
    else
      concat (first.parts.take common ++
        [choiceOf ((first :: rest).map fun p => concat (p.parts.drop common))])
  | p => p

theorem times_once (p : Pattern) (greedy : Bool) : p.times 1 (some 1) greedy = p := by
  by_cases h : p.isWidthless <;> simp [times, h]

theorem concat_nil : concat [] = .empty := rfl

theorem anyOf_nil : anyOf [] = nothing := rfl

end Pattern
end Precompiled
