import Precompiled.Pattern.Cursor
import Precompiled.Text.Hex

/-!
# Escapes

What a backslash and the characters after it stand for.
-/

namespace Precompiled.Pattern

open Reading

-- ---------------------------------------------------------------------------
-- Characters by number
-- ---------------------------------------------------------------------------

/-- How many hexadecimal digits stand after a letter when there are no braces. -/
def hexWidth : Char → Nat
  | 'x' => 2
  | 'u' => 4
  | _ => 8

def isHexDigit (c : Char) : Bool := (Hex.digit? c).isSome

def charOf? (digits : List Char) : Option Char := do
  let n ← Hex.value? digits
  if n.isValidChar then some (Char.ofNat n) else none

def hexDigits (others : Bool) : Nat → Reading (List Char)
  | 0 => return []
  | n + 1 => do
    if others then advance
    match ← peek? with
    | none => fail .escapeOpen (← here)
    | some c =>
      if isHexDigit c then return c :: (← hexDigits true n)
      else fail .hexDigit (← nextSpan)

def hexFixed (escape width : Nat) : Reading Literal := do
  let start ← offset
  let digits ← hexDigits false width
  advance
  match charOf? digits with
  | some char => return { char, span := ⟨escape, ← offset⟩, isByte := width = 2 }
  | none => fail .hexNoCharacter (← since start)

def hexBraced (escape : Nat) : Reading Literal := do
  let brace ← offset
  advance
  let digits ← run isHexDigit
  match ← peek? with
  | none => fail .escapeOpen (← since brace)
  | some c =>
    if c ≠ '\x7d' then fail .hexDigit (← nextSpan)
    let stop ← offset
    advance
    if digits.isEmpty then fail .hexMissing (← since brace)
    match charOf? digits with
    | some char => return { char, span := ⟨escape, ← offset⟩ }
    | none => fail .hexNoCharacter ⟨brace + 1, stop⟩

def hexLiteral (escape : Nat) (letter : Char) : Reading Literal := do
  advance
  match ← peek? with
  | none => fail .escapeOpen (← here)
  | some '\x7b' => hexBraced escape
  | some _ => hexFixed escape (hexWidth letter)

-- ---------------------------------------------------------------------------
-- Properties
-- ---------------------------------------------------------------------------

def splitAt? (word : List Char) : List Char → Option (List Char × List Char)
  | [] => none
  | c :: rest =>
    if word.isPrefixOf (c :: rest) then some ([], (c :: rest).drop word.length)
    else (splitAt? word rest).map fun (before, after) => (c :: before, after)

/-- The signs between a property and its value, and whether they stand for any other value. -/
def valueSigns : List (List Char × Bool) := [(['!', '='], true), ([':'], false), (['='], false)]

/-- A property as it is written in braces, and whether its value is one that characters must not
have. -/
def PropertyQuery.ofChars (chars : List Char) : PropertyQuery × Bool :=
  let split := valueSigns.findSome? fun (sign, differs) =>
    (splitAt? sign chars).map fun (name, value) => (name, value, differs)
  match split with
  | some (name, value, differs) => (.valued (String.ofList name) (String.ofList value), differs)
  | none => (.named (String.ofList chars), false)

def propertyAtom (escape : Nat) (negated : Bool) : Reading Atom := do
  advance
  match ← peek? with
  | none => fail .escapeOpen (← here)
  | some '\x7b' =>
    advance
    let chars ← run (· ≠ '\x7d')
    if (← peek?).isNone then fail .escapeOpen (← here)
    drop 1
    let (query, differs) := PropertyQuery.ofChars chars
    return .property query (negated != differs) (← since escape)
  | some '\\' => fail .propertyForm (← nextSpan)
  | some c =>
    advance
    return .property (.named c.toString) negated (← since escape)

-- ---------------------------------------------------------------------------
-- Word boundaries
-- ---------------------------------------------------------------------------

def isBoundaryChar (c : Char) : Bool := c.isAlpha || c = '-'

def boundaryOf? : String → Option Assertion
  | "start" => some .wordStart
  | "end" => some .wordEnd
  | "start-half" => some .noWordBefore
  | "end-half" => some .noWordAfter
  | _ => none

/-- The kind of a word boundary in braces, if there is one. Anything but a letter or a hyphen after
the brace belongs to a repetition. -/
def boundaryKind? (escape : Nat) : Reading (Option Assertion) := do
  if (← peek?) ≠ some '\x7b' then return none
  let start ← get
  advance
  let first ← offset
  match ← peek? with
  | none => fail .boundaryOrCountOpen (← since escape)
  | some c =>
    if !isBoundaryChar c then
      set start
      return none
    let word ← run isBoundaryChar
    if (← peek?) ≠ some '\x7d' then fail .boundaryOpen (← since start.offset)
    let span ← since first
    drop 1
    match boundaryOf? (String.ofList word) with
    | some kind => return some kind
    | none => fail .boundaryUnknown span

-- ---------------------------------------------------------------------------
-- All escapes
-- ---------------------------------------------------------------------------

def standsForItself (c : Char) : Bool :=
  c.toNat < 0x80 && !c.isAlphanum && c ≠ '<' && c ≠ '>'

def shorthandOf? : Char → Option Shorthand
  | 'd' | 'D' => some .digit
  | 's' | 'S' => some .space
  | 'w' | 'W' => some .word
  | _ => none

def controlOf? : Char → Option Char
  | 'a' => some '\x07'
  | 'f' => some '\x0c'
  | 't' => some '\t'
  | 'n' => some '\n'
  | 'r' => some '\r'
  | 'v' => some '\x0b'
  | _ => none

def assertionOf? : Char → Option Assertion
  | 'A' => some .textStart
  | 'z' => some .textEnd
  | 'b' => some .wordBoundary
  | 'B' => some .noWordBoundary
  | '<' => some .wordStart
  | '>' => some .wordEnd
  | _ => none

def shortEscape (escape : Nat) (c : Char) : Reading Atom := do
  drop 1
  let span ← since escape
  if standsForItself c then return .literal { char := c, span }
  match controlOf? c, assertionOf? c with
  | some char, _ => return .literal { char, span }
  | none, some what =>
    let kind ← if c = 'b' then boundaryKind? escape else pure none
    return .assertion (kind.getD what) (← since escape)
  | none, none => fail .escapeUnknown span

def escapeAtom : Reading Atom := do
  let escape ← offset
  drop 1
  match ← peek? with
  | none => fail .escapeOpen (← since escape)
  | some c =>
    if c.isDigit then fail .backreference ⟨escape, (← offset) + 1⟩
    else if c = 'x' || c = 'u' || c = 'U' then return .literal (← hexLiteral escape c)
    else if c = 'p' || c = 'P' then propertyAtom escape (c = 'P')
    else
      match shorthandOf? c with
      | some kind =>
        drop 1
        return .shorthand kind c.isUpper (← since escape)
      | none => shortEscape escape c

end Precompiled.Pattern
