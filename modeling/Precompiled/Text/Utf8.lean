/-!
# UTF-8

Text as bytes and back. Decoding goes byte by byte; bytes that encode nothing are cut into the
longest starts of characters among them, so that strict reading refuses any of them and lenient
reading puts one replacement character for each.
-/

namespace Precompiled

abbrev Bytes := List UInt8

namespace Utf8

def encode (text : String) : Bytes := text.toList.flatMap String.utf8EncodeChar

/-- A part of a byte sequence: a character, or bytes that start one but do not end it. -/
inductive Piece where
  | char (c : Char)
  | fault (bytes : Bytes)
  deriving DecidableEq, Repr

/-- A character whose first bytes have been read: the bytes, latest first, the bits of them, the
number of bytes still owed, and the least and the greatest value that the next one may have. -/
structure Unfinished where
  read : Bytes
  bits : Nat
  owed : Nat
  least : UInt8 := 0x80
  greatest : UInt8 := 0xBF

structure Decoder where
  pieces : List Piece := []
  unfinished : Option Unfinished := none

/-- Reads the first byte of a character. The bounds on the second byte keep out overlong forms,
surrogates and values past the last code point. -/
def Decoder.start (pieces : List Piece) (b : UInt8) : Decoder :=
  let n := b.toNat
  if n < 0x80 then ⟨.char (Char.ofNat n) :: pieces, none⟩
  else if n < 0xC2 then ⟨.fault [b] :: pieces, none⟩
  else if n < 0xE0 then ⟨pieces, some { read := [b], bits := n % 32, owed := 1 }⟩
  else if n = 0xE0 then
    ⟨pieces, some { read := [b], bits := n % 16, owed := 2, least := 0xA0 }⟩
  else if n = 0xED then
    ⟨pieces, some { read := [b], bits := n % 16, owed := 2, greatest := 0x9F }⟩
  else if n < 0xF0 then ⟨pieces, some { read := [b], bits := n % 16, owed := 2 }⟩
  else if n = 0xF0 then ⟨pieces, some { read := [b], bits := n % 8, owed := 3, least := 0x90 }⟩
  else if n < 0xF4 then ⟨pieces, some { read := [b], bits := n % 8, owed := 3 }⟩
  else if n = 0xF4 then
    ⟨pieces, some { read := [b], bits := n % 8, owed := 3, greatest := 0x8F }⟩
  else ⟨.fault [b] :: pieces, none⟩

/-- Reads one byte. One that does not continue what is under way ends it as a fault and is read
again as the first byte of a character. -/
def Decoder.step (d : Decoder) (b : UInt8) : Decoder :=
  match d.unfinished with
  | none => Decoder.start d.pieces b
  | some u =>
    if u.least ≤ b ∧ b ≤ u.greatest then
      let bits := u.bits * 64 + b.toNat % 64
      if u.owed ≤ 1 then ⟨.char (Char.ofNat bits) :: d.pieces, none⟩
      else ⟨d.pieces, some { read := b :: u.read, bits, owed := u.owed - 1 }⟩
    else Decoder.start (.fault u.read.reverse :: d.pieces) b

/-- The pieces in reading order. A character that the end cuts off is a fault. -/
def Decoder.finish (d : Decoder) : List Piece :=
  match d.unfinished with
  | none => d.pieces.reverse
  | some u => (.fault u.read.reverse :: d.pieces).reverse

def pieces (bytes : Bytes) : List Piece := (bytes.foldl Decoder.step {}).finish

def Piece.char? : Piece → Option Char
  | .char c => some c
  | .fault _ => none

def decode? (bytes : Bytes) : Option String := do
  let chars ← (pieces bytes).mapM Piece.char?
  return String.ofList chars

/-- The text that the bytes encode, with U+FFFD in place of every fault. -/
def decodeLossy (bytes : Bytes) : String :=
  String.ofList ((pieces bytes).map fun piece => piece.char?.getD '\uFFFD')

end Utf8
end Precompiled
