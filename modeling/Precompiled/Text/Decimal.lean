/-!
# Decimal numbers

Reading the digits of a 32-bit number from the left. The first character that is no digit, or that
takes the value past the limit, is the fault.
-/

namespace Precompiled.Decimal

inductive Fault where
  | invalidDigit
  | tooLarge
  deriving DecidableEq, Repr

def Fault.message : Fault → String
  | .invalidDigit => "invalid digit found in string"
  | .tooLarge => "number too large to fit in target type"

def extend (value : Nat) (c : Char) : Except Fault Nat :=
  if c.isDigit then
    let next := value * 10 + (c.toNat - '0'.toNat)
    if next < UInt32.size then .ok next else .error .tooLarge
  else .error .invalidDigit

def digits : List Char → Except Fault UInt32
  | [] => .error .invalidDigit
  | chars => return UInt32.ofNat (← chars.foldlM extend 0)

/-- One or more digits after an optional plus sign. -/
def word : List Char → Except Fault UInt32
  | '+' :: rest => digits rest
  | chars => digits chars

end Precompiled.Decimal
