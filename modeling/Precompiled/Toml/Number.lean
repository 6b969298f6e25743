import Precompiled.Text.Hex
import Precompiled.Toml.Scan

/-!
# TOML numbers

Integers have 64 bits and are written in one of four bases. Floats are only checked, since nothing
reads them; one that is too large for a double is refused if it has no minus sign.
-/

namespace Precompiled.Toml

open Scan

/-- Digits that single underscores may part. -/
def digitRun (isDigit : Char → Bool) : Scan (List Char) := do
  let first ← satisfy isDigit
  let rest ← many do
    discard (attempt (char '_'))
    satisfy isDigit
  return first :: rest

def decimalValue (digits : List Char) : Nat :=
  digits.foldl (fun value c => value * 10 + (c.toNat - '0'.toNat)) 0

def sign : Scan Bool := do
  match ← attempt (satisfy fun c => c = '+' || c = '-') with
  | some c => return c = '-'
  | none => return false

def wholeDigits : Scan (List Char) :=
  (do ahead (satisfy fun c => c.isDigit && c ≠ '0')
      digitRun Char.isDigit) <|>
    (do char '0'
        return ['0'])

def fits (value : Int) : Bool :=
  Int64.minValue.toInt ≤ value && value ≤ Int64.maxValue.toInt

def checked (value : Int) : Scan Int := if fits value then pure value else failure

/-- An integer in base two, eight or sixteen, after a zero and the base's letter. -/
def basedInteger (letter : Char) (base : Nat) : Scan Int := do
  word ['0', letter]
  let isDigit := fun c => (Hex.digit? c).any (· < base)
  let digits ← digitRun isDigit
  checked (digits.foldl (fun value c => value * base + (Hex.digit? c).getD 0) 0 : Nat)

def decimalInteger : Scan Int := do
  let negative ← sign
  let value := decimalValue (← wholeDigits)
  checked (if negative then -value else value)

def integer : Scan Int :=
  basedInteger 'x' 16 <|> basedInteger 'o' 8 <|> basedInteger 'b' 2 <|> decimalInteger

-- ---------------------------------------------------------------------------
-- Floats
-- ---------------------------------------------------------------------------

/-- The bound from which on a number is nearer to the next power of two than to the largest double,
or as near. -/
def floatBound : Nat := 1 <<< 1024 - 1 <<< 970

/-- Whether `digits · 10 ^ exponent` is too large for a double. Digits and exponents far off the
bound are told by their size. -/
def tooLarge (digits : Nat) (exponent : Int) : Bool :=
  let magnitude : Int := (Nat.toDigits 10 digits).length + exponent
  if digits = 0 || magnitude < 300 then false
  else if 320 < magnitude then true
  else if 0 ≤ exponent then floatBound ≤ digits * Nat.pow 10 exponent.toNat
  else floatBound * Nat.pow 10 (-exponent).toNat ≤ digits

def exponentPart : Scan Int := do
  discard (satisfy fun c => c = 'e' || c = 'E')
  let negative ← sign
  let value := decimalValue (← digitRun Char.isDigit)
  return if negative then -value else value

def fractionPart : Scan (List Char) := do
  char '.'
  digitRun Char.isDigit

def finiteFloat : Scan Unit := do
  let negative ← sign
  let whole ← wholeDigits
  let (fraction, exponent) ←
    (do return ([], ← exponentPart)) <|>
      (do let fraction ← fractionPart
          return (fraction, (← attempt exponentPart).getD 0))
  if !negative && tooLarge (decimalValue (whole ++ fraction)) (exponent - fraction.length) then
    failure

def float : Scan Unit :=
  finiteFloat <|> do
    discard sign
    word "inf".toList <|> word "nan".toList

end Precompiled.Toml
