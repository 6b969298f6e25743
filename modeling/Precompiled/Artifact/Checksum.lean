import Precompiled.Crc32
import Precompiled.Text.Blank
import Precompiled.Text.Hex

/-!
# Checksum files

The check value of the metadata, as eight hexadecimal digits in a file of its own.
-/

namespace Precompiled.Artifact.Checksum

/-- The check value that a text states, blanks around it apart: eight characters, all of them
hexadecimal digits but for a plus sign that may stand first. -/
def parse? (text : String) : Option UInt32 :=
  let content := Text.trimmed text.toList
  if content.length = 8 then
    let digits := if content.head? = some '+' then content.tail else content
    (Hex.value? digits).map UInt32.ofNat
  else none

def digits (value : UInt32) : String := Hex.renderWide 8 value.toNat

def render (value : UInt32) : String := digits value ++ "\n"

end Precompiled.Artifact.Checksum
