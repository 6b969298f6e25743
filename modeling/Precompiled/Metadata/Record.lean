import Precompiled.Metadata

/-!
# Records

The form in which metadata is stored: types are tags, dimensions are signed. A record is turned
into metadata only if the metadata is sound, so the metadata of a record can be turned back into
that very record.
-/

namespace Precompiled

structure Record.Kernel where
  name : String
  symbol : String
  args : List String := []
  deriving DecidableEq, Repr

structure Record.Field where
  name : String
  type : String
  shape : List Int64 := []
  deriving DecidableEq, Repr

structure Record where
  version : UInt32
  arch : Option String := none
  kernels : List Record.Kernel := []
  fields : List Record.Field := []
  deriving DecidableEq, Repr

-- ---------------------------------------------------------------------------
-- From a record
-- ---------------------------------------------------------------------------

def readTag (owner : TagOwner) (tag : String) : Except DescriptorFault ElementType :=
  match ElementType.ofTag? tag with
  | some type => .ok type
  | none => .error (.unknownTag owner tag)

def Record.Kernel.descriptor (k : Record.Kernel) : Except DescriptorFault Precompiled.Kernel := do
  let args ← k.args.zipIdx.mapM fun (tag, index) => readTag (.argument k.name index) tag
  return { name := k.name, symbol := k.symbol, args }

def readDimension (field : String) (axis : Nat) (value : Int64) : Except DescriptorFault UInt64 :=
  if value < 0 then .error (.negativeDimension field axis value) else .ok value.toUInt64

def Record.Field.descriptor (f : Record.Field) : Except DescriptorFault Precompiled.Field := do
  let type ← readTag (.field f.name) f.type
  let shape ← f.shape.zipIdx.mapM fun (value, axis) => readDimension f.name axis value
  return { name := f.name, type, shape }

def Record.metadata (r : Record) : Except DescriptorFault Metadata := do
  let kernels ← r.kernels.mapM Record.Kernel.descriptor
  let fields ← r.fields.mapM Record.Field.descriptor
  let m : Metadata := { version := r.version, arch := r.arch, kernels, fields }
  m.check
  return m

-- ---------------------------------------------------------------------------
-- To a record
-- ---------------------------------------------------------------------------

def Kernel.record (k : Kernel) : Record.Kernel :=
  { name := k.name, symbol := k.symbol, args := k.args.map ElementType.tag }

/-- A dimension as it is stored. One that is too large becomes the largest. -/
def storedDimension (value : UInt64) : Int64 :=
  if value ≤ maxDimension then value.toInt64 else maxDimension.toInt64

def Field.record (f : Field) : Record.Field :=
  { name := f.name, type := f.type.tag, shape := f.shape.map storedDimension }

def Metadata.record (m : Metadata) : Record :=
  { version := m.version, arch := m.arch, kernels := m.kernels.map Kernel.record
    fields := m.fields.map Field.record }

end Precompiled
