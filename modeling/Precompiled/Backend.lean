import Precompiled.Descriptor
import Precompiled.EntryPoint

/-!
# Backends

What a module is bound against: something that runs kernels, seen through the questions that a
binding asks of it.
-/

namespace Precompiled

structure Backend where
  name : String
  /-- The architecture that it runs, if it insists on one. -/
  arch : Option String
  resolve : String → Option EntryPoint
  declared : String → Option Field

end Precompiled
