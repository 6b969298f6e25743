import Precompiled.Text.Utf8

/-!
# CRC-32

The cyclic redundancy check of 32 bits with the reflected polynomial `0xEDB88320`, started from all
ones and inverted at the end.
-/

namespace Precompiled

namespace Crc32

/-- The bits of the polynomial below its leading one, lowest power first. -/
def polynomial : UInt32 := 0xEDB88320

def shift (register : UInt32) : UInt32 :=
  if register &&& 1 = 1 then (register >>> 1) ^^^ polynomial else register >>> 1

def step (register : UInt32) (byte : UInt8) : UInt32 :=
  Nat.repeat shift 8 (register ^^^ byte.toUInt32)

def run (register : UInt32) (bytes : Bytes) : UInt32 := bytes.foldl step register

theorem run_append (register : UInt32) (first second : Bytes) :
    run register (first ++ second) = run (run register first) second :=
  List.foldl_append

end Crc32

def crc32 (bytes : Bytes) : UInt32 := Crc32.run 0xFFFFFFFF bytes ^^^ 0xFFFFFFFF

end Precompiled
