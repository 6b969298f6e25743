import Precompiled.Json.Token
import Precompiled.Text.Hex

/-!
# Quoted text

What stands between the quotes of a JSON string, and the text it means. Writing escapes the quote,
the backslash and the characters below the space, and nothing else. Reading takes every escape of
JSON, joins the two halves of a surrogate pair, and refuses a half alone and bytes that are no
UTF-8.
-/

namespace Precompiled.Json.Quoted

def escapeChar (c : Char) : Bytes :=
  match c with
  | '"' => Utf8.encode "\\\""
  | '\\' => Utf8.encode "\\\\"
  | '\x08' => Utf8.encode "\\b"
  | '\t' => Utf8.encode "\\t"
  | '\n' => Utf8.encode "\\n"
  | '\x0c' => Utf8.encode "\\f"
  | '\r' => Utf8.encode "\\r"
  | c =>
    if c.toNat < 0x20 then Utf8.encode "\\u" ++ Utf8.encode (Hex.renderWide 4 c.toNat)
    else String.utf8EncodeChar c

def escape (text : String) : Bytes := text.toList.flatMap escapeChar

def simpleEscape? (b : UInt8) : Option UInt8 :=
  match Char.ofUInt8 b with
  | '"' => some b
  | '\\' => some b
  | '/' => some b
  | 'b' => some 0x08
  | 'f' => some 0x0C
  | 'n' => some 0x0A
  | 'r' => some 0x0D
  | 't' => some 0x09
  | _ => none

def isLeading (unit : Nat) : Bool := 0xD800 ≤ unit && unit ≤ 0xDBFF

def isTrailing (unit : Nat) : Bool := 0xDC00 ≤ unit && unit ≤ 0xDFFF

def pair (leading trailing : Nat) : Char :=
  Char.ofNat ((leading - 0xD800) * 0x400 + (trailing - 0xDC00) + 0x10000)

inductive Mode where
  | plain
  /-- After a backslash; `leading` waits for its other half. -/
  | backslash (leading : Option Nat)
  /-- Within a code unit, with the digits still to come and the value so far. -/
  | unit (leading : Option Nat) (left value : Nat)
  /-- After a leading half: only another escape may follow. -/
  | half (leading : Nat)
  | refused

structure Unescaper where
  bytes : Bytes := []
  mode : Mode := .plain

namespace Unescaper

def push (bytes : Bytes) (c : Char) : Unescaper :=
  ⟨(String.utf8EncodeChar c).reverse ++ bytes, .plain⟩

/-- Takes a code unit, after a leading half or not. -/
def takeUnit (bytes : Bytes) (leading : Option Nat) (unit : Nat) : Unescaper :=
  match leading with
  | none =>
    if isLeading unit then ⟨bytes, .half unit⟩
    else if isTrailing unit then ⟨bytes, .refused⟩
    else push bytes (Char.ofNat unit)
  | some first =>
    if isTrailing unit then push bytes (pair first unit) else ⟨bytes, .refused⟩

def step (u : Unescaper) (b : UInt8) : Unescaper :=
  match u.mode with
  | .plain => if b = '\\'.toUInt8 then ⟨u.bytes, .backslash none⟩ else ⟨b :: u.bytes, .plain⟩
  | .backslash leading =>
    if b = 'u'.toUInt8 then ⟨u.bytes, .unit leading 4 0⟩
    else
      match leading, simpleEscape? b with
      | none, some byte => ⟨byte :: u.bytes, .plain⟩
      | _, _ => ⟨u.bytes, .refused⟩
  | .unit leading left value =>
    match Hex.digit? (.ofUInt8 b) with
    | none => ⟨u.bytes, .refused⟩
    | some digit =>
      let value := value * 16 + digit
      if left ≤ 1 then takeUnit u.bytes leading value
      else ⟨u.bytes, .unit leading (left - 1) value⟩
  | .half leading =>
    if b = '\\'.toUInt8 then ⟨u.bytes, .backslash (some leading)⟩ else ⟨u.bytes, .refused⟩
  | .refused => u

def finish (u : Unescaper) : Option String :=
  match u.mode with
  | .plain => Utf8.decode? u.bytes.reverse
  | _ => none

end Unescaper

def unescape? (raw : Bytes) : Option String := (raw.foldl Unescaper.step {}).finish

end Precompiled.Json.Quoted
