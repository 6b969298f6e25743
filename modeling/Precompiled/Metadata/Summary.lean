import Precompiled.Metadata

/-!
# Summaries

Metadata as lines for people to read.
-/

namespace Precompiled

def Kernel.summary (k : Kernel) : String :=
  let args := ", ".intercalate (k.args.map ElementType.tag)
  s!"  {k.name}({args}) -> {k.symbol}\n"

def Field.summary (f : Field) : String :=
  let size := match f.bytes? with
    | some bytes => s!"{bytes.toNat} bytes"
    | none => "size overflows u64"
  s!"  {f.name}: {f.type.tag}[{f.dimensions}] ({size})\n"

def Metadata.summary (m : Metadata) : String :=
  let arch := m.arch.getD "(any)"
  s!"format version: {m.version.toNat}\n" ++ s!"target arch:    {arch}\n" ++
    s!"kernels ({m.kernels.length}):\n" ++ String.join (m.kernels.map Kernel.summary) ++
    s!"fields ({m.fields.length}):\n" ++ String.join (m.fields.map Field.summary)

end Precompiled
