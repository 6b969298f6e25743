import Precompiled.Descriptor

/-!
# Module metadata

What a compiled module declares. Metadata is sound when a host can rely on it: names are present
and say which kernel or field is meant, symbols are present, and every field can be stored and
allocated. `Metadata.check` finds the first fault in declared order, kernels before fields.
-/

namespace Precompiled

structure Metadata where
  version : UInt32
  /-- The architecture that the kernels were compiled for, if they need one. -/
  arch : Option String := none
  kernels : List Kernel := []
  fields : List Field := []
  deriving DecidableEq, Repr

inductive TagOwner where
  | argument (kernel : String) (index : Nat)
  | field (name : String)
  deriving DecidableEq, Repr

def TagOwner.describe : TagOwner → String
  | .argument kernel index => s!"kernel `{kernel}` argument {index}"
  | .field name => s!"field `{name}`"

inductive DescriptorFault where
  | unknownTag (owner : TagOwner) (tag : String)
  | negativeDimension (field : String) (axis : Nat) (value : Int64)
  | dimensionTooLarge (field : String) (axis : Nat) (value : UInt64)
  | sizeOverflow (field : String)
  | repeatedKernel (name : String)
  | repeatedField (name : String)
  | unnamedKernel
  | unnamedField
  | missingSymbol (kernel : String)
  deriving DecidableEq, Repr

def DescriptorFault.message : DescriptorFault → String
  | .unknownTag owner tag => s!"{owner.describe}: {ElementType.unknownTag tag}"
  | .negativeDimension field axis value =>
    s!"field `{field}` has negative dimension {value.toInt} on axis {axis}"
  | .dimensionTooLarge field axis value =>
    s!"field `{field}` has dimension {value.toNat} on axis {axis}, above the encodable maximum"
  | .sizeOverflow field =>
    s!"field `{field}` is too large: its byte size does not fit in 64 bits"
  | .repeatedKernel name => s!"duplicate kernel name `{name}`"
  | .repeatedField name => s!"duplicate field name `{name}`"
  | .unnamedKernel => "kernel with an empty name"
  | .unnamedField => "field with an empty name"
  | .missingSymbol kernel => s!"kernel `{kernel}` has an empty entry symbol"

def maxDimension : UInt64 := Int64.maxValue.toUInt64

/-- The first dimension that is too large to be stored, with its axis. -/
def Field.oversized? (f : Field) : Option (Nat × UInt64) :=
  (f.shape.zipIdx.find? fun (value, _) => maxDimension < value).map fun (value, axis) =>
    (axis, value)

def Field.checkSize (f : Field) : Except DescriptorFault Unit :=
  match f.oversized? with
  | some (axis, value) => .error (.dimensionTooLarge f.name axis value)
  | none => if f.bytes?.isNone then .error (.sizeOverflow f.name) else .ok ()

namespace Metadata

/-- Checks kernels in order, after others whose names are taken. -/
def checkKernels (taken : List String) : List Kernel → Except DescriptorFault Unit
  | [] => .ok ()
  | k :: rest =>
    if k.name = "" then .error .unnamedKernel
    else if k.symbol = "" then .error (.missingSymbol k.name)
    else if k.name ∈ taken then .error (.repeatedKernel k.name)
    else checkKernels (k.name :: taken) rest

def checkFields (taken : List String) : List Field → Except DescriptorFault Unit
  | [] => .ok ()
  | f :: rest =>
    if f.name = "" then .error .unnamedField
    else if f.name ∈ taken then .error (.repeatedField f.name)
    else do
      f.checkSize
      checkFields (f.name :: taken) rest

/-- Reports the first fault. -/
def check (m : Metadata) : Except DescriptorFault Unit := do
  checkKernels [] m.kernels
  checkFields [] m.fields

def kernel? (m : Metadata) (name : String) : Option Kernel := m.kernels.find? (·.name = name)

def field? (m : Metadata) (name : String) : Option Field := m.fields.find? (·.name = name)

end Metadata
end Precompiled
