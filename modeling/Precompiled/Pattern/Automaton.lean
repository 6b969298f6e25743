import Std.Data.HashMap
import Precompiled.Pattern.ByteRange
import Precompiled.Pattern.Fault
import Precompiled.Pattern.Look
import Precompiled.Text.Utf8

/-!
# Automata

What texts are searched with: nodes that a byte of the text, or nothing at all, leads on from. They
are put together node by node, and only as long as they do not take too much memory.
-/

namespace Precompiled.Pattern

structure Way where
  range : ByteRange
  next : Nat
  deriving DecidableEq, Repr

inductive Node where
  | pass (next : Nat)
  | byte (way : Way)
  /-- Bytes of ranges that do not overlap. -/
  | bytes (ways : List Way)
  | look (what : Look) (next : Nat)
  | fork (next : List Nat)
  | accept
  deriving DecidableEq, Repr

namespace Node

def memory : Node → Nat
  | bytes ways => 32 + 8 * ways.length
  | fork next => 32 + 4 * next.length
  | _ => 32

/-- The node with another one to lead to: one more for a fork, and the only one for all else. -/
def leadTo (target : Nat) : Node → Node
  | pass _ => pass target
  | byte way => byte { way with next := target }
  | bytes ways => bytes ways
  | look what _ => look what target
  | fork next => fork (target :: next)
  | accept => accept

end Node

structure Automaton where
  nodes : Array Node
  start : Nat
  deriving DecidableEq, Repr

structure Assembly where
  nodes : Array Node := #[]
  memory : Nat := 0
  /-- Nodes that may be led to once more, by slots: what tells a node apart, and the node. -/
  known : Std.HashMap Nat (List Nat × Nat) := {}

/-- Steps of putting an automaton together. There are no more once it takes too much memory. -/
abbrev Assembling := StateT Assembly Option

/-- A part of an automaton: where it starts, and where it leads on. -/
structure Fragment where
  start : Nat
  stop : Nat
  deriving DecidableEq, Repr

namespace Assembling

def charge (bytes : Nat) : Assembling Unit := do
  modify fun a => { a with memory := a.memory + bytes }
  if sizeLimit < (← get).memory then failure

def add (node : Node) : Assembling Nat := do
  charge node.memory
  modifyGet fun a => (a.nodes.size, { a with nodes := a.nodes.push node })

def single (node : Node) : Assembling Fragment := do
  let n ← add node
  return ⟨n, n⟩

def connect (source target : Nat) : Assembling Unit := do
  if let some (.fork _) := (← get).nodes[source]? then charge 4
  modify fun a => { a with nodes := a.nodes.modify source (·.leadTo target) }

-- ---------------------------------------------------------------------------
-- Sequences and choices
-- ---------------------------------------------------------------------------

def chainFrom (before : Fragment) : List (Assembling Fragment) → Assembling Fragment
  | [] => return before
  | part :: parts => do
    let next ← part
    connect before.stop next.start
    chainFrom ⟨before.start, next.stop⟩ parts

def chain : List (Assembling Fragment) → Assembling Fragment
  | [] => single (.pass 0)
  | part :: parts => do chainFrom (← part) parts

def branchesBetween (fork stop : Nat) : List (Assembling Fragment) → Assembling Unit
  | [] => return
  | part :: parts => do
    let branch ← part
    connect fork branch.start
    connect branch.stop stop
    branchesBetween fork stop parts

/-- Any of some fragments. The first two of them come before the fork. -/
def branches : List (Assembling Fragment) → Assembling Fragment
  | [] => single (.bytes [])
  | [part] => part
  | part :: other :: parts => do
    let first ← part
    let second ← other
    let fork ← add (.fork [])
    let stop ← add (.pass 0)
    branchesBetween fork stop ([pure first, pure second] ++ parts)
    return ⟨fork, stop⟩

/-- A fragment whose ends are nodes of their own. -/
def capture (part : Assembling Fragment) : Assembling Fragment := do
  let start ← add (.pass 0)
  let inner ← part
  let stop ← add (.pass 0)
  connect start inner.start
  connect inner.stop stop
  return ⟨start, stop⟩

-- ---------------------------------------------------------------------------
-- Repetitions
-- ---------------------------------------------------------------------------

def copiesFrom (part : Assembling Fragment) : Nat → Fragment → Assembling Fragment
  | 0, before => return before
  | n + 1, before => do
    let next ← part
    connect before.stop next.start
    copiesFrom part n ⟨before.start, next.stop⟩

def copies (part : Assembling Fragment) : Nat → Assembling Fragment
  | 0 => single (.pass 0)
  | n + 1 => do copiesFrom part n (← part)

def optional (part : Assembling Fragment) : Assembling Fragment := do
  let fork ← add (.fork [])
  let inner ← part
  let stop ← add (.pass 0)
  connect fork inner.start
  connect fork stop
  connect inner.stop stop
  return ⟨fork, stop⟩

/-- A fragment any number of times. One that may take no bytes is entered by a fork of its own. -/
def anyNumber (takesBytes : Bool) (part : Assembling Fragment) : Assembling Fragment := do
  if takesBytes then
    let fork ← add (.fork [])
    let inner ← part
    connect fork inner.start
    connect inner.stop fork
    return ⟨fork, fork⟩
  else
    let inner ← part
    let again ← add (.fork [])
    connect inner.stop again
    connect again inner.start
    let start ← add (.fork [])
    let stop ← add (.pass 0)
    connect start inner.start
    connect start stop
    connect again stop
    return ⟨start, stop⟩

/-- A fragment a number of times or more, behind those copies that are there already. -/
def endless (part : Assembling Fragment) (before : Option Fragment) : Assembling Fragment := do
  let last ← part
  let fork ← add (.fork [])
  if let some before := before then connect before.stop last.start
  connect last.stop fork
  connect fork last.start
  return ⟨(before.getD last).start, fork⟩

/-- Copies that each lead on only if the one before was there, or to the end. -/
def optionalsTo (part : Assembling Fragment) (stop : Nat) : Nat → Nat → Assembling Unit
  | 0, before => connect before stop
  | n + 1, before => do
    let fork ← add (.fork [])
    let next ← part
    connect before fork
    connect fork next.start
    connect fork stop
    optionalsTo part stop n next.stop

def repetition (takesBytes : Bool) (part : Assembling Fragment) :
    Nat → Option Nat → Assembling Fragment
  | 0, none => anyNumber takesBytes part
  | 1, none => endless part none
  | n + 2, none => do endless part (some (← copies part (n + 1)))
  | 0, some 1 => optional part
  | least, some most => do
    let before ← copies part least
    if most ≤ least then return before
    let stop ← add (.pass 0)
    optionalsTo part stop (most - least) before.stop
    return ⟨before.start, stop⟩

-- ---------------------------------------------------------------------------
-- Nodes that are used again
-- ---------------------------------------------------------------------------

def slot (count : Nat) (key : List Nat) : Nat :=
  let mixed := key.foldl (fun h n => (h ^^^ n.toUInt64) * 1099511628211)
    (14695981039346656037 : UInt64)
  mixed.toNat % count

/-- The node that something tells apart, if it is known; otherwise a new one, which takes the place
of the node in its slot. -/
def shared (count : Nat) (key : List Nat) (node : Node) : Assembling Nat := do
  let place := slot count key
  match (← get).known[place]? with
  | some (known, n) => if known = key then return n
  | none => pure ()
  let n ← add node
  modify fun a => { a with known := a.known.insert place (key, n) }
  return n

def forget : Assembling Unit := modify fun a => { a with known := {} }

end Assembling
end Precompiled.Pattern
