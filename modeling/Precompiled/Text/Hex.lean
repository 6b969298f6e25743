/-!
# Hexadecimal numbers

Numbers are written with small letters and read with letters of either case.
-/

namespace Precompiled.Hex

def digit? (c : Char) : Option Nat :=
  if c.isDigit then some (c.toNat - '0'.toNat)
  else if 'a' ≤ c ∧ c ≤ 'f' then some (c.toNat - 'a'.toNat + 10)
  else if 'A' ≤ c ∧ c ≤ 'F' then some (c.toNat - 'A'.toNat + 10)
  else none

def value? (chars : List Char) : Option Nat :=
  chars.foldlM (fun value c => (digit? c).map (value * 16 + ·)) 0

def render (n : Nat) : String := String.ofList (Nat.toDigits 16 n)

/-- The digits of a number, filled up with zeros to a width. -/
def renderWide (width n : Nat) : String :=
  let digits := Nat.toDigits 16 n
  String.ofList (List.replicate (width - digits.length) '0' ++ digits)

end Precompiled.Hex
