import Precompiled.Text.Hex

/-!
# Entry points

The address of a compiled kernel in memory. There is nothing at address zero, so no entry point
has it.
-/

namespace Precompiled

structure EntryPoint where
  address : UInt64
  nonzero : address ≠ 0
  deriving DecidableEq

namespace EntryPoint

def at? (address : UInt64) : Option EntryPoint :=
  if nonzero : address ≠ 0 then some ⟨address, nonzero⟩ else none

def describe (e : EntryPoint) : String := s!"EntryPoint(0x{Hex.render e.address.toNat})"

theorem at?_eq_none_iff {address : UInt64} : at? address = none ↔ address = 0 := by
  simp [at?]

theorem at?_address (e : EntryPoint) : at? e.address = some e := by
  simp [at?, e.nonzero]

end EntryPoint
end Precompiled
