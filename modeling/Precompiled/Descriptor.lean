import Precompiled.ElementType

/-!
# Descriptors

What a compiled module says of its kernels and of its fields, and how large a field is.
-/

namespace Precompiled

def mulWord? (a b : UInt64) : Option UInt64 :=
  if a.toNat * b.toNat < UInt64.size then some (a * b) else none

structure Kernel where
  name : String
  symbol : String
  args : List ElementType
  deriving DecidableEq, Repr

/-- A field: an array of elements, or one element if it has no dimension. -/
structure Field where
  name : String
  type : ElementType
  /-- The dimensions, outermost first. -/
  shape : List UInt64 := []
  deriving DecidableEq, Repr

namespace Field

/-- The number of elements. The dimensions are multiplied from the outermost on, and the first
product that is too large for a word leaves none. -/
def count? (f : Field) : Option UInt64 := f.shape.foldlM mulWord? 1

/-- The number of bytes, unless it or the number of elements is too large for a word. -/
def bytes? (f : Field) : Option UInt64 := f.count?.bind (mulWord? · f.type.size)

def sameLayout (a b : Field) : Bool := a.type = b.type && a.shape = b.shape

def dimensions (f : Field) : String := ", ".intercalate (f.shape.map (toString ·.toNat))

/-- Element type and shape as text. One element shows no brackets. -/
def layout (f : Field) : String :=
  if f.shape.isEmpty then f.type.tag else s!"{f.type.tag}[{f.dimensions}]"

end Field
end Precompiled
