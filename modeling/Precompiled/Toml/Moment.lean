import Precompiled.Toml.Number

/-!
# TOML dates and times

Dates, times of day, and both with or without an offset. They are only checked, since nothing reads
them.
-/

namespace Precompiled.Toml

open Scan

def bounded (width least greatest : Nat) : Scan Nat := do
  let value := decimalValue (← count Char.isDigit width)
  if least ≤ value && value ≤ greatest then return value else failure

def isLeapYear (year : Nat) : Bool := year % 4 = 0 && (year % 100 ≠ 0 || year % 400 = 0)

def daysOfMonth (year month : Nat) : Nat :=
  if month = 2 then if isLeapYear year then 29 else 28
  else if month = 4 || month = 6 || month = 9 || month = 11 then 30
  else 31

def date : Scan Unit := do
  let year ← bounded 4 0 9999
  char '-'
  let month ← bounded 2 1 12
  char '-'
  discard (bounded 2 1 (daysOfMonth year month))

def time : Scan Unit := do
  discard (bounded 2 0 23)
  char ':'
  discard (bounded 2 0 59)
  char ':'
  discard (bounded 2 0 60)
  discard (attempt do
    char '.'
    discard (satisfy Char.isDigit)
    discard (run Char.isDigit))

def offset : Scan Unit :=
  discard (satisfy fun c => c = 'Z' || c = 'z') <|> do
    discard (satisfy fun c => c = '+' || c = '-')
    discard (bounded 2 0 23)
    char ':'
    discard (bounded 2 0 59)

def moment : Scan Unit :=
  (do date
      discard (attempt do
        discard (satisfy fun c => c = 'T' || c = 't' || c = ' ')
        time
        discard (attempt offset))) <|> time

end Precompiled.Toml
