import Precompiled.Text.Hex
import Precompiled.Toml.Scan

/-!
# TOML strings

A string stands between quotes or apostrophes, on one line or, between three of them, over several.
Only quotes let escapes in.
-/

namespace Precompiled.Toml

open Scan

def codePoint (width : Nat) : Scan Char := do
  let digits ← count (fun c => (Hex.digit? c).isSome) width
  let value := (Hex.value? digits).getD 0
  if value.isValidChar then return Char.ofNat value else failure

def escaped : Scan Char := do
  char '\\'
  match ← satisfy fun _ => true with
  | 'b' => return '\x08'
  | 't' => return '\t'
  | 'n' => return '\n'
  | 'f' => return '\x0c'
  | 'r' => return '\r'
  | '"' => return '"'
  | '\\' => return '\\'
  | 'u' => codePoint 4
  | 'U' => codePoint 8
  | _ => failure

def isUnescaped (c : Char) : Bool := isPlain c && c ≠ '"' && c ≠ '\\'

def isLiteral (c : Char) : Bool := isPlain c && c ≠ '\''

def basicString : Scan String := do
  char '"'
  let parts ← many (runOfSome isUnescaped <|> (do return [← escaped]))
  char '"'
  return String.ofList parts.flatten

def literalString : Scan String := do
  char '\''
  let content ← run isLiteral
  char '\''
  return String.ofList content

-- ---------------------------------------------------------------------------
-- Over several lines
-- ---------------------------------------------------------------------------

/-- One or two marks that do not end a string. -/
def innerMarks (mark : Char) : Scan (List Char) :=
  let other := ahead (satisfy (· ≠ mark))
  (do word [mark, mark]; other; return [mark, mark]) <|> (do char mark; other; return [mark])

/-- Three marks that end a string, after up to two that belong to it. -/
def endMarks (mark : Char) : Scan (List Char) :=
  let three := List.replicate 3 mark
  (do word (mark :: mark :: three); return [mark, mark]) <|>
    (do word (mark :: three); return [mark]) <|> (do word three; return [])

def lines (mark : Char) (part : Scan (List Char)) : Scan String := do
  word (List.replicate 3 mark)
  discard (attempt newline)
  let parts ← many (part <|> (do newline; return ['\n']) <|> innerMarks mark)
  let last ← endMarks mark
  return String.ofList (parts.flatten ++ last)

/-- A backslash at the end of a line, with all blanks and line ends that follow. -/
def joinedLines : Scan Unit := do
  char '\\'
  blanks
  newline
  discard (many (discard (satisfy isBlank) <|> newline))

def basicLines : Scan String :=
  lines '"' <|
    runOfSome isUnescaped <|> (do joinedLines; return []) <|> (do return [← escaped])

def literalLines : Scan String := lines '\'' (runOfSome isLiteral)

def quoted : Scan String := basicLines <|> basicString <|> literalLines <|> literalString

end Precompiled.Toml
