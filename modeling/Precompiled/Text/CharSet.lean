/-!
# Sets of characters

Sets of characters as runs of code points.
-/

namespace Precompiled.Text

/-- The first and the last code point of each run of a set, in ascending order. -/
abbrev CharSet := List (Nat × Nat)

namespace CharSet

def has (s : CharSet) (c : Char) : Bool :=
  s.any fun (first, last) => first ≤ c.toNat && c.toNat ≤ last

def single (c : Char) : CharSet := [(c.toNat, c.toNat)]

/-- Adds a run to runs that start before it, of which the last comes first. Runs that touch or
overlap become one. -/
def addRun : List (Nat × Nat) → Nat × Nat → List (Nat × Nat)
  | [], run => [run]
  | (first, last) :: done, run =>
    if run.1 ≤ last + 1 then (first, max last run.2) :: done else run :: (first, last) :: done

def ofRuns (runs : List (Nat × Nat)) : CharSet :=
  ((runs.mergeSort fun a b => a.1 ≤ b.1).foldl addRun []).reverse

/-- Every second code point of runs, from the first of each run on. -/
def everySecond (runs : List (Nat × Nat)) : List (Nat × Nat) :=
  runs.flatMap fun (first, last) =>
    (List.range ((last - first) / 2 + 1)).map fun n => (first + 2 * n, first + 2 * n)

def union (a b : CharSet) : CharSet := ofRuns (a ++ b)

/-- The runs between those of a set, from a code point on up to the last of all. -/
def gaps (top : Nat) : Nat → CharSet → CharSet
  | next, [] => if next ≤ top then [(next, top)] else []
  | next, (first, last) :: rest =>
    if next < first then (next, first - 1) :: gaps top (last + 1) rest
    else gaps top (last + 1) rest

def complement (top : Nat) (s : CharSet) : CharSet := gaps top 0 s

def inter : CharSet → CharSet → CharSet
  | [], _ => []
  | _, [] => []
  | (a, b) :: s, (c, d) :: t =>
    if b < c then inter s ((c, d) :: t)
    else if d < a then inter ((a, b) :: s) t
    else
      (max a c, min b d) :: if b ≤ d then inter s ((c, d) :: t) else inter ((a, b) :: s) t
termination_by s t => s.length + t.length

def lastCodePoint : Nat := 0x10FFFF

def diff (a b : CharSet) : CharSet := a.inter (b.complement lastCodePoint)

def symmDiff (a b : CharSet) : CharSet := union (diff a b) (diff b a)

/-- The code points of characters, which are all but the surrogates. -/
def characters : CharSet := [(0, 0xD7FF), (0xE000, 0x10FFFF)]

end CharSet
end Precompiled.Text
