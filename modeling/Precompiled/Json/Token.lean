import Precompiled.Text.Utf8

/-!
# The tokens of a JSON text

A text is cut into tokens byte by byte. What is between the quotes of a string is kept as it
stands: its escapes are checked for form only, so that a string nobody reads may hold bytes that
are no text. The first byte that fits nowhere ends the run.
-/

namespace Precompiled.Json

inductive Token where
  | openObject
  | closeObject
  | openArray
  | closeArray
  | colon
  | comma
  | null
  | bool (value : Bool)
  /-- A number without fraction and exponent, minus zero apart. -/
  | int (value : Int)
  /-- Any other number, as it stands. -/
  | real (digits : Bytes)
  | text (raw : Bytes)
  deriving DecidableEq, Repr

def Token.spelling : Token → Bytes
  | .openObject => Utf8.encode "\x7b"
  | .closeObject => Utf8.encode "\x7d"
  | .openArray => Utf8.encode "["
  | .closeArray => Utf8.encode "]"
  | .colon => Utf8.encode ":"
  | .comma => Utf8.encode ","
  | .null => Utf8.encode "null"
  | .bool true => Utf8.encode "true"
  | .bool false => Utf8.encode "false"
  | .int value => Utf8.encode (toString value)
  | .real digits => digits
  | .text raw => Utf8.encode "\"" ++ raw ++ Utf8.encode "\""

-- ---------------------------------------------------------------------------
-- Numbers under way
-- ---------------------------------------------------------------------------

/-- Where the reading of a number stands. -/
inductive Number.Phase where
  | sign
  /-- After a zero that stands first; no digit may follow. -/
  | zero
  | whole
  | point
  | fraction
  | mark
  | markSign
  | exponent
  deriving DecidableEq, Repr

structure Number where
  phase : Number.Phase
  negative : Bool
  value : Nat
  read : Bytes
  deriving DecidableEq, Repr

namespace Number

def isMark (c : Char) : Bool := c = 'e' || c = 'E'

/-- The phase after one more character, if the number goes on with it. -/
def Phase.next? (phase : Phase) (c : Char) : Option Phase :=
  match phase with
  | .sign => if c = '0' then some .zero else if c.isDigit then some .whole else none
  | .zero => if c = '.' then some .point else if isMark c then some .mark else none
  | .whole =>
    if c.isDigit then some .whole else if c = '.' then some .point
    else if isMark c then some .mark else none
  | .point => if c.isDigit then some .fraction else none
  | .fraction => if c.isDigit then some .fraction else if isMark c then some .mark else none
  | .mark =>
    if c.isDigit then some .exponent else if c = '+' ∨ c = '-' then some .markSign else none
  | .markSign | .exponent => if c.isDigit then some .exponent else none

def next? (n : Number) (b : UInt8) : Option Number :=
  (n.phase.next? (.ofUInt8 b)).map fun phase =>
    let value := if phase = .whole then n.value * 10 + (b.toNat - '0'.toNat) else n.value
    { n with phase, value, read := b :: n.read }

def token? (n : Number) : Option Token :=
  match n.phase with
  | .zero | .whole =>
    if n.negative then
      if n.value = 0 then some (.real n.read.reverse) else some (.int (-n.value))
    else some (.int n.value)
  | .fraction | .exponent => some (.real n.read.reverse)
  | .sign | .point | .mark | .markSign => none

end Number

-- ---------------------------------------------------------------------------
-- The machine
-- ---------------------------------------------------------------------------

inductive Escape where
  | none
  | backslash
  | hex (left : Nat)
  deriving DecidableEq, Repr

inductive Mode where
  | between
  | word (left : Bytes) (token : Token)
  | number (n : Number)
  | text (read : Bytes) (escape : Escape)
  /-- Past a byte that fits nowhere. -/
  | stuck
  deriving DecidableEq, Repr

structure Lexer where
  tokens : List Token := []
  mode : Mode := .between
  deriving DecidableEq, Repr

/-- Blank bytes may stand between any two tokens. -/
def isBlank (b : UInt8) : Bool := b = 0x20 || b = 0x09 || b = 0x0A || b = 0x0D

def isHexDigit (c : Char) : Bool :=
  c.isDigit || ('a' ≤ c && c ≤ 'f') || ('A' ≤ c && c ≤ 'F')

def isSimpleEscape (c : Char) : Bool :=
  c = '"' || c = '\\' || c = '/' || c = 'b' || c = 'f' || c = 'n' || c = 'r' || c = 't'

namespace Lexer

def start (tokens : List Token) (b : UInt8) : Lexer :=
  match Char.ofUInt8 b with
  | '\x7b' => ⟨.openObject :: tokens, .between⟩
  | '\x7d' => ⟨.closeObject :: tokens, .between⟩
  | '[' => ⟨.openArray :: tokens, .between⟩
  | ']' => ⟨.closeArray :: tokens, .between⟩
  | ':' => ⟨.colon :: tokens, .between⟩
  | ',' => ⟨.comma :: tokens, .between⟩
  | '"' => ⟨tokens, .text [] .none⟩
  | 'n' => ⟨tokens, .word (Utf8.encode "ull") .null⟩
  | 't' => ⟨tokens, .word (Utf8.encode "rue") (.bool true)⟩
  | 'f' => ⟨tokens, .word (Utf8.encode "alse") (.bool false)⟩
  | '-' => ⟨tokens, .number ⟨.sign, true, 0, [b]⟩⟩
  | '0' => ⟨tokens, .number ⟨.zero, false, 0, [b]⟩⟩
  | c =>
    if isBlank b then ⟨tokens, .between⟩
    else if c.isDigit then ⟨tokens, .number ⟨.whole, false, c.toNat - '0'.toNat, [b]⟩⟩
    else ⟨tokens, .stuck⟩

def stepText (tokens : List Token) (read : Bytes) (b : UInt8) : Escape → Lexer
  | .none =>
    if b = '"'.toUInt8 then ⟨.text read.reverse :: tokens, .between⟩
    else if b = '\\'.toUInt8 then ⟨tokens, .text (b :: read) .backslash⟩
    else if b < 0x20 then ⟨tokens, .stuck⟩
    else ⟨tokens, .text (b :: read) .none⟩
  | .backslash =>
    if b = 'u'.toUInt8 then ⟨tokens, .text (b :: read) (.hex 4)⟩
    else if isSimpleEscape (.ofUInt8 b) then ⟨tokens, .text (b :: read) .none⟩
    else ⟨tokens, .stuck⟩
  | .hex left =>
    if isHexDigit (.ofUInt8 b) then
      ⟨tokens, .text (b :: read) (if left ≤ 1 then .none else .hex (left - 1))⟩
    else ⟨tokens, .stuck⟩

def step (l : Lexer) (b : UInt8) : Lexer :=
  match l.mode with
  | .between => start l.tokens b
  | .word left token =>
    match left with
    | [] => ⟨l.tokens, .stuck⟩
    | [last] => if b = last then ⟨token :: l.tokens, .between⟩ else ⟨l.tokens, .stuck⟩
    | next :: rest => if b = next then ⟨l.tokens, .word rest token⟩ else ⟨l.tokens, .stuck⟩
  | .number n =>
    match n.next? b with
    | some n => ⟨l.tokens, .number n⟩
    | none =>
      match n.token? with
      | some token => start (token :: l.tokens) b
      | none => ⟨l.tokens, .stuck⟩
  | .text read escape => stepText l.tokens read b escape
  | .stuck => l

end Lexer

structure Lexed where
  tokens : List Token
  whole : Bool
  deriving DecidableEq, Repr

/-- Ends the run. A number may end with the text; a word or a string may not. -/
def Lexer.finish (l : Lexer) : Lexed :=
  match l.mode with
  | .between => ⟨l.tokens.reverse, true⟩
  | .number n =>
    match n.token? with
    | some token => ⟨(token :: l.tokens).reverse, true⟩
    | none => ⟨l.tokens.reverse, false⟩
  | .word .. | .text .. | .stuck => ⟨l.tokens.reverse, false⟩

def lex (text : Bytes) : Lexed := (text.foldl Lexer.step {}).finish

end Precompiled.Json
