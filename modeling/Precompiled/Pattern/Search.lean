import Precompiled.Pattern.Automaton

/-!
# Searching texts

Whether a text holds something that an automaton accepts. The automaton reads the bytes of the text
one after the other and is at many nodes at once, so that no byte is read twice.
-/

namespace Precompiled.Pattern

structure Front where
  /-- Counts the bytes, from one on. -/
  round : Nat := 1
  reached : Array Nat
  waiting : List Nat := []
  accepted : Bool := false
  deriving Repr

namespace Automaton

/-- Goes from nodes on as far as no bytes are needed. There is no spot within a character, and no
look holds there. No more steps are needed than the automaton has ways, each of which takes
memory. -/
def enter (a : Automaton) (spot : Option Spot) : Nat → List Nat → Front → Front
  | 0, _, front => front
  | _, [], front => front
  | steps + 1, n :: rest, front =>
    if front.reached[n]? = some front.round then a.enter spot steps rest front
    else
      let front := { front with reached := front.reached.setIfInBounds n front.round }
      match a.nodes[n]? with
      | some (.pass next) => a.enter spot steps (next :: rest) front
      | some (.look what next) =>
        if spot.any what.holds then a.enter spot steps (next :: rest) front
        else a.enter spot steps rest front
      | some (.fork next) => a.enter spot steps (next ++ rest) front
      | some .accept => { front with accepted := true }
      | some (.byte _) | some (.bytes _) =>
        a.enter spot steps rest { front with waiting := n :: front.waiting }
      | none => a.enter spot steps rest front

def next? (a : Automaton) (b : UInt8) (n : Nat) : Option Nat :=
  match a.nodes[n]? with
  | some (.byte way) => if way.range.has b then some way.next else none
  | some (.bytes ways) => (ways.find? (·.range.has b)).map (·.next)
  | _ => none

def readByte (a : Automaton) (b : UInt8) (spot : Option Spot) (front : Front) : Front :=
  let next := front.waiting.filterMap (a.next? b)
  a.enter spot sizeLimit next
    { front with round := front.round + 1, waiting := [], accepted := false }

/-- The front after some bytes, of which the last one ends a character. -/
def readBytes (a : Automaton) (spot : Spot) : Bytes → Front → Front
  | [], front => front
  | [b], front => a.readByte b (some spot) front
  | b :: rest, front => a.readBytes spot rest (a.readByte b none front)

def acceptsFrom (a : Automaton) : List Char → Front → Bool
  | [], front => front.accepted
  | c :: rest, front =>
    front.accepted ||
      a.acceptsFrom rest
        (a.readBytes ⟨some c, rest.head?⟩ (String.utf8EncodeChar c) front)

def occursIn (a : Automaton) (text : String) : Bool :=
  let chars := text.toList
  let front : Front := { reached := Array.replicate a.nodes.size 0 }
  a.acceptsFrom chars (a.enter (some ⟨none, chars.head?⟩) sizeLimit [a.start] front)

end Automaton
end Precompiled.Pattern
