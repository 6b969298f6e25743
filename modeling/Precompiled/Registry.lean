/-!
# Registries

A registry keeps backends in slots and names them by ids. An id tells the slot and the slot's
generation; taking a backend out moves its slot on to the next generation, so the id names nothing
from then on. A slot that has no next generation is never filled again.
-/

namespace Precompiled

structure BackendId where
  index : UInt32
  generation : UInt32
  deriving DecidableEq, Repr

def BackendId.describe (id : BackendId) : String :=
  s!"#{id.index.toNat}.{id.generation.toNat}"

structure Slot (β : Type) where
  generation : UInt32
  occupant : Option β

structure Registry (β : Type) where
  slots : List (Slot β) := []
  /-- The empty slots that can be filled, the one to fill next first. -/
  free : List UInt32 := []

namespace Registry

variable {β γ : Type}

def lastGeneration : UInt32 := 0xFFFFFFFF

def get? (r : Registry β) (id : BackendId) : Option β := do
  let slot ← r.slots[id.index.toNat]?
  if slot.generation = id.generation then slot.occupant else none

def contains (r : Registry β) (id : BackendId) : Bool := (r.get? id).isSome

def register (r : Registry β) (b : β) : BackendId × Registry β :=
  match r.free with
  | index :: free =>
    let generation := match r.slots[index.toNat]? with
      | some slot => slot.generation
      | none => 0
    (⟨index, generation⟩, ⟨r.slots.set index.toNat ⟨generation, some b⟩, free⟩)
  | [] => (⟨UInt32.ofNat r.slots.length, 0⟩, ⟨r.slots ++ [⟨0, some b⟩], []⟩)

/-- Whether taking out the backend of an id leaves a slot that is never filled again. -/
def retires (r : Registry β) (id : BackendId) : Bool :=
  r.contains id && id.generation == lastGeneration

/-- Takes the backend of an id out. An id that names none changes nothing. -/
def unregister (r : Registry β) (id : BackendId) : Option β × Registry β :=
  match r.get? id with
  | none => (none, r)
  | some b =>
    if id.generation = lastGeneration then
      (some b, { r with slots := r.slots.set id.index.toNat ⟨id.generation, none⟩ })
    else
      (some b, ⟨r.slots.set id.index.toNat ⟨id.generation + 1, none⟩, id.index :: r.free⟩)

def size (r : Registry β) : Nat := r.slots.countP (·.occupant.isSome)

def isEmpty (r : Registry β) : Bool := r.size == 0

def map (f : β → γ) (r : Registry β) : Registry γ :=
  ⟨r.slots.map fun slot => ⟨slot.generation, slot.occupant.map f⟩, r.free⟩

def describe (r : Registry β) : String := s!"BackendRegistry \x7b live: {r.size} \x7d"

theorem get?_map (f : β → γ) (r : Registry β) (id : BackendId) :
    (r.map f).get? id = (r.get? id).map f := by
  simp only [get?, map, List.getElem?_map]
  cases r.slots[id.index.toNat]? with
  | none => rfl
  | some slot => by_cases h : slot.generation = id.generation <;> simp [h]

theorem unregister_of_get?_eq_none {r : Registry β} {id : BackendId} (h : r.get? id = none) :
    r.unregister id = (none, r) := by
  simp [unregister, h]

end Registry
end Precompiled
