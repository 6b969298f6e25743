import Precompiled.Dict
import Precompiled.EntryPoint
import Precompiled.Metadata
import Precompiled.Registry

/-!
# Modules

A module that is bound: its kernels have entry points, and its fields fit the backend. Kernels and
fields are looked up by name through tables of their positions. Where a name is declared twice, the
tables know the last one.
-/

namespace Precompiled

structure BoundKernel where
  name : String
  symbol : String
  entry : EntryPoint
  args : List ElementType
  deriving DecidableEq

/-- The position at which each name stands last. -/
def positions (names : List String) : Dict String Nat :=
  names.zipIdx.foldl (fun table (name, position) => Dict.put name position table) []

structure Module where
  metadata : Metadata
  backend : BackendId
  backendName : String
  kernels : List BoundKernel
  fields : List Field
  kernelPositions : Dict String Nat
  fieldPositions : Dict String Nat
  deriving DecidableEq

namespace Module

def build (metadata : Metadata) (backend : BackendId) (backendName : String)
    (kernels : List BoundKernel) (fields : List Field) : Module :=
  { metadata, backend, backendName, kernels, fields
    kernelPositions := positions (kernels.map (·.name))
    fieldPositions := positions (fields.map (·.name)) }

def kernel? (m : Module) (name : String) : Option BoundKernel := do
  let position ← Dict.get? m.kernelPositions name
  m.kernels[position]?

def field? (m : Module) (name : String) : Option Field := do
  let position ← Dict.get? m.fieldPositions name
  m.fields[position]?

def kernelNames (m : Module) : List String := m.kernels.map (·.name)

def fieldNames (m : Module) : List String := m.fields.map (·.name)

/-- Whether the backend that the module is bound against is still registered. -/
def isLive {β : Type} (m : Module) (r : Registry β) : Bool := r.contains m.backend

end Module
end Precompiled
