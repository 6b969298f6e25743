import Precompiled.Toml.Moment
import Precompiled.Toml.Quoted
import Precompiled.Toml.Table

/-!
# TOML documents

A document is a run of lines: entries, headers, comments and empty lines. Reading it gives the
entries of its outermost table, or nothing if it is no document.
-/

namespace Precompiled.Toml

open Scan

/-- The number of containers that may stand in one another, and of keys in a dotted key. -/
def depthLimit : Nat := 79

-- ---------------------------------------------------------------------------
-- Keys
-- ---------------------------------------------------------------------------

def isKeyChar (c : Char) : Bool := c.isAlphanum || c = '_' || c = '-'

def bareKey : Scan String := String.ofList <$> runOfSome isKeyChar

def simpleKey : Scan String := do
  blanks
  let key ← basicString <|> literalString <|> bareKey
  blanks
  return key

def dottedKey : Scan (List String) := do
  let keys ← separated simpleKey (char '.')
  if keys.length ≤ depthLimit then return keys else failure

-- ---------------------------------------------------------------------------
-- Values
-- ---------------------------------------------------------------------------

def entry (value : Scan Item) : Scan Entry := do
  let keys ← dottedKey
  char '='
  blanks
  let item ← value
  match keys.getLast? with
  | some key => return { path := keys.dropLast, key, item }
  | none => failure

def scalar : Scan Item :=
  (do return .text (← quoted)) <|>
    (do moment; return .moment) <|>
    (do float; return .float) <|>
    (do return .integer (← integer)) <|>
    (do word "true".toList; return .boolean true) <|>
    (do word "false".toList; return .boolean false)

/-- Values between brackets. A comma may follow the last one. -/
def array (value : Scan Item) : Scan Item := do
  char '['
  let items ← attempt do
    let items ← separated (do gap; let item ← value; gap; return item) (char ',')
    discard (attempt (char ','))
    return items
  gap
  char ']'
  return .array (items.getD [])

/-- Entries between braces, all on one line. -/
def inlineTable (value : Scan Item) : Scan Item := do
  char '\x7b'
  let values ← attempt (separated (do let e ← entry value; blanks; return e) (char ','))
  blanks
  char '\x7d'
  match fill [] (values.getD []) with
  | some entries => return .table .inline entries
  | none => failure

/-- A value in which at most so many containers stand in one another. -/
def value : Nat → Scan Item
  | 0 => scalar
  | depth + 1 => array (value depth) <|> inlineTable (value depth) <|> scalar

-- ---------------------------------------------------------------------------
-- Lines
-- ---------------------------------------------------------------------------

inductive Line where
  | empty
  | header (h : Header)
  | entry (e : Entry)

def header : Scan Header :=
  (do word ['[', '[']
      let path ← dottedKey
      word [']', ']']
      return ⟨true, path⟩) <|>
    (do char '['
        let path ← dottedKey
        char ']'
        return ⟨false, path⟩)

def line : Scan Line :=
  (do newline; return .empty) <|>
    (do comment; lineEnding; return .empty) <|>
    (do let h ← header; restOfLine; return .header h) <|>
    (do let e ← entry (value depthLimit); restOfLine; return .entry e)

/-- The lines of a text. A byte order mark before them is passed over. -/
def lines? (text : String) : Option (List Line) := do
  let read : Scan (List Line) := do
    discard (attempt (char '\uFEFF'))
    blanks
    let found ← many do
      let found ← line
      blanks
      return found
    finish
    return found
  return (← read text.toList).1

/-- Lines cut before each header: the entries that come first, then the sections. -/
def cut (found : List Line) : List Entry × List Section :=
  found.foldr (fun next (values, sections) =>
    match next with
    | .empty => (values, sections)
    | .entry e => (e :: values, sections)
    | .header h => ([], ⟨h, values⟩ :: sections)) ([], [])

def parse? (text : String) : Option Entries := do
  let (values, sections) := cut (← lines? text)
  sections.foldlM addSection (← fill [] values)

end Precompiled.Toml
