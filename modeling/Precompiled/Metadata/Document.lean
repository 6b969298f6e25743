import Precompiled.Metadata.Record
import Precompiled.Json.Decode
import Precompiled.Json.Layout

/-!
# Metadata documents

Records as JSON. Members are written in declared order, and a missing architecture is left out.
Lists and the architecture may be missing when a record is read.
-/

namespace Precompiled.Record

open Json

-- ---------------------------------------------------------------------------
-- Writing
-- ---------------------------------------------------------------------------

def textValue (text : String) : Value := .text (Quoted.escape text)

def member (name : String) (v : Value) : Bytes × Value := (Quoted.escape name, v)

def Kernel.value (k : Kernel) : Value :=
  .object [member "name" (textValue k.name), member "entry_symbol" (textValue k.symbol),
    member "args" (.array (k.args.map textValue) true)] true

def Field.value (f : Field) : Value :=
  .object [member "name" (textValue f.name), member "dtype" (textValue f.type),
    member "shape" (.array (f.shape.map fun d => .int d.toInt) true)] true

def value (r : Record) : Value :=
  .object ([member "format_version" (.int r.version.toNat)] ++
    (r.arch.map fun arch => member "arch" (textValue arch)).toList ++
    [member "kernels" (.array (r.kernels.map Kernel.value) true),
     member "fields" (.array (r.fields.map Field.value) true)]) true

def compact (r : Record) : Bytes := Json.compact r.value.tokens

def pretty (r : Record) : Bytes := Json.pretty r.value.tokens

-- ---------------------------------------------------------------------------
-- Reading
-- ---------------------------------------------------------------------------

structure Kernel.Found where
  name : Option String := none
  symbol : Option String := none
  args : Option (List String) := none

def Kernel.reading : Reading Kernel.Found Kernel where
  names := ["name", "entry_symbol", "args"]
  take found name v :=
    match name with
    | "name" => return { found with name := ← takeOnce found.name name Value.readText v }
    | "entry_symbol" =>
      return { found with symbol := ← takeOnce found.symbol name Value.readText v }
    | "args" =>
      return { found with args := ← takeOnce found.args name (Value.readList Value.readText) v }
    | _ => do v.skip; return found
  finish found := do
    let name ← required found.name "name"
    let symbol ← required found.symbol "entry_symbol"
    return { name, symbol, args := found.args.getD [] }

def Kernel.read : Value → Except Fault Kernel := Kernel.reading.read {}

structure Field.Found where
  name : Option String := none
  type : Option String := none
  shape : Option (List Int64) := none

def Field.reading : Reading Field.Found Field where
  names := ["name", "dtype", "shape"]
  take found name v :=
    match name with
    | "name" => return { found with name := ← takeOnce found.name name Value.readText v }
    | "dtype" => return { found with type := ← takeOnce found.type name Value.readText v }
    | "shape" =>
      return { found with shape := ← takeOnce found.shape name (Value.readList Value.readInt64) v }
    | _ => do v.skip; return found
  finish found := do
    let name ← required found.name "name"
    let type ← required found.type "dtype"
    return { name, type, shape := found.shape.getD [] }

def Field.read : Value → Except Fault Field := Field.reading.read {}

structure Found where
  version : Option UInt32 := none
  arch : Option (Option String) := none
  kernels : Option (List Kernel) := none
  fields : Option (List Field) := none

def reading : Reading Found Record where
  names := ["format_version", "arch", "kernels", "fields"]
  take found name v :=
    match name with
    | "format_version" =>
      return { found with version := ← takeOnce found.version name Value.readUInt32 v }
    | "arch" =>
      return { found with arch := ← takeOnce found.arch name (Value.readOptional Value.readText) v }
    | "kernels" =>
      return { found with kernels := ← takeOnce found.kernels name (Value.readList Kernel.read) v }
    | "fields" =>
      return { found with fields := ← takeOnce found.fields name (Value.readList Field.read) v }
    | _ => do v.skip; return found
  finish found := do
    let version ← required found.version "format_version"
    return { version, arch := found.arch.getD none, kernels := found.kernels.getD []
             fields := found.fields.getD [] }

def ofValue : Value → Except Fault Record := reading.read {}

def parse (text : Bytes) : Except Fault Record := (Json.parse text).read ofValue

end Precompiled.Record
