import Precompiled.Text.CharSet

/-!
# Ranges of bytes

How sets of characters look in UTF-8: as sequences of byte ranges, of which every choice of a byte
from each range is the encoding of a character in the set.
-/

namespace Precompiled.Pattern

open Text (CharSet)

structure ByteRange where
  first : UInt8
  last : UInt8
  deriving DecidableEq, Repr

def ByteRange.has (r : ByteRange) (b : UInt8) : Bool := r.first ≤ b && b ≤ r.last

def ByteRange.single (b : UInt8) : ByteRange := ⟨b, b⟩

/-- The characters that take the same number of bytes, beginning with those of one byte. -/
def widths : List CharSet :=
  [[(0, 0x7F)], [(0x80, 0x7FF)], [(0x800, 0xFFFF)], [(0x10000, 0x10FFFF)]]

/-- How many characters differ in their last byte only, in their last two or in their last three. -/
def blockSizes : List Nat := [64, 64 * 64, 64 * 64 * 64]

/-- Cuts a run of characters where blocks begin or end, as far as it reaches out of them. -/
def cutRun (first last : Nat) : List Nat → CharSet
  | [] => [(first, last)]
  | size :: sizes =>
    if first / size = last / size then [(first, last)]
    else
      let start := if first % size = 0 then first else (first / size + 1) * size
      let before := if first % size = 0 then [] else [(first, start - 1)]
      if start / size = last / size then before ++ [(start, last)]
      else if last % size = size - 1 then before ++ cutRun start last sizes
      else
        let stop := last / size * size
        before ++ cutRun start (stop - 1) sizes ++ [(stop, last)]

def rangesBetween (first last : Nat) : List ByteRange :=
  List.zipWith ByteRange.mk (String.utf8EncodeChar (Char.ofNat first))
    (String.utf8EncodeChar (Char.ofNat last))

def byteSequences (set : CharSet) : List (List ByteRange) :=
  set.flatMap fun run =>
    widths.flatMap fun width =>
      (width.inter (CharSet.characters.inter [run])).flatMap fun (first, last) =>
        let cuts := if last < 0x80 then [(first, last)] else cutRun first last blockSizes
        cuts.map fun (first, last) => rangesBetween first last

example : byteSequences [(0x41, 0x10FFFF)] =
    [[⟨0x41, 0x7F⟩], [⟨0xC2, 0xDF⟩, ⟨0x80, 0xBF⟩], [⟨0xE0, 0xE0⟩, ⟨0xA0, 0xBF⟩, ⟨0x80, 0xBF⟩],
      [⟨0xE1, 0xEC⟩, ⟨0x80, 0xBF⟩, ⟨0x80, 0xBF⟩], [⟨0xED, 0xED⟩, ⟨0x80, 0x9F⟩, ⟨0x80, 0xBF⟩],
      [⟨0xEE, 0xEF⟩, ⟨0x80, 0xBF⟩, ⟨0x80, 0xBF⟩],
      [⟨0xF0, 0xF0⟩, ⟨0x90, 0xBF⟩, ⟨0x80, 0xBF⟩, ⟨0x80, 0xBF⟩],
      [⟨0xF1, 0xF3⟩, ⟨0x80, 0xBF⟩, ⟨0x80, 0xBF⟩, ⟨0x80, 0xBF⟩],
      [⟨0xF4, 0xF4⟩, ⟨0x80, 0x8F⟩, ⟨0x80, 0xBF⟩, ⟨0x80, 0xBF⟩]] := by
  decide +kernel

end Precompiled.Pattern
