import Precompiled.Text.Hex
import Precompiled.Text.Shown
import Precompiled.Text.Utf8

/-!
# Quoted text in messages

Texts between double quotes. What would end them, what does not show and what is no text at all is
written as an escape.
-/

namespace Precompiled.Text

def quoteChar (c : Char) : String :=
  match c with
  | '\x00' => "\\0"
  | '\t' => "\\t"
  | '\n' => "\\n"
  | '\r' => "\\r"
  | '\\' => "\\\\"
  | '"' => "\\\""
  | c => if isShown c then c.toString else "\\u\x7b" ++ Hex.render c.toNat ++ "\x7d"

def quote (text : String) : String :=
  "\"" ++ String.join (text.toList.map quoteChar) ++ "\""

/-- Bytes between quotes, as the text that they encode and an escape for each byte that is none. -/
def quoteBytes (bytes : Bytes) : String :=
  let parts := (Utf8.pieces bytes).map fun
    | .char c => quoteChar c
    | .fault bytes => String.join (bytes.map fun b => "\\x" ++ (Hex.renderWide 2 b.toNat).toUpper)
  "\"" ++ String.join parts ++ "\""

end Precompiled.Text
