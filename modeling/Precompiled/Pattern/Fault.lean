/-!
# Faults of patterns

Why a text is no pattern. A flaw lies in a part of the text and is shown below it: the lines of the
text come first, each with marks under the parts that are to blame, and the reason last.
-/

namespace Precompiled.Pattern

/-- A part of a text, by how many characters stand before its start and before its end. -/
structure Span where
  start : Nat
  stop : Nat
  deriving DecidableEq, Repr

inductive Reason where
  | setEscape
  | setRangeOrder
  | setRangeEnd
  | setOpen
  | countTooLarge
  | countMissing
  | countOrder
  | countOpen
  | repeatedMissing
  | hexMissing
  | hexNoCharacter
  | hexDigit
  | escapeOpen
  | escapeUnknown
  | modeNegationLast
  | modeTwice
  | modeNegationTwice
  | modesOpen
  | modeUnknown
  | nameTwice
  | nameMissing
  | nameCharacter
  | nameOpen
  | groupOpen
  | groupNotOpened
  | tooDeep (limit : Nat)
  | boundaryOpen
  | boundaryUnknown
  | boundaryOrCountOpen
  | propertyForm
  | backreference
  | lookAround
  | unicodeOff
  | notText
  | propertyUnknown
  | valueUnknown
  deriving DecidableEq, Repr

def Reason.message : Reason → String
  | setEscape => "invalid escape sequence found in character class"
  | setRangeOrder => "invalid character class range, the start must be <= the end"
  | setRangeEnd => "invalid range boundary, must be a literal"
  | setOpen => "unclosed character class"
  | countTooLarge => "decimal literal invalid"
  | countMissing => "repetition quantifier expects a valid decimal"
  | countOrder => "invalid repetition count range, the start must be <= the end"
  | countOpen => "unclosed counted repetition"
  | repeatedMissing => "repetition operator missing expression"
  | hexMissing => "hexadecimal literal empty"
  | hexNoCharacter => "hexadecimal literal is not a Unicode scalar value"
  | hexDigit => "invalid hexadecimal digit"
  | escapeOpen => "incomplete escape sequence, reached end of pattern prematurely"
  | escapeUnknown => "unrecognized escape sequence"
  | modeNegationLast => "dangling flag negation operator"
  | modeTwice => "duplicate flag"
  | modeNegationTwice => "flag negation operator repeated"
  | modesOpen => "expected flag but got end of regex"
  | modeUnknown => "unrecognized flag"
  | nameTwice => "duplicate capture group name"
  | nameMissing => "empty capture group name"
  | nameCharacter => "invalid capture group character"
  | nameOpen => "unclosed capture group name"
  | groupOpen => "unclosed group"
  | groupNotOpened => "unopened group"
  | tooDeep limit => s!"exceed the maximum number of nested parentheses/brackets ({limit})"
  | boundaryOpen =>
    "special word boundary assertion is either unclosed or contains an invalid character"
  | boundaryUnknown =>
    "unrecognized special word boundary assertion, " ++
      "valid choices are: start, end, start-half or end-half"
  | boundaryOrCountOpen =>
    "found either the beginning of a special word boundary or a bounded repetition " ++
      "on a \\b with an opening brace, but no closing brace"
  | propertyForm => "invalid Unicode character class"
  | backreference => "backreferences are not supported"
  | lookAround => "look-around, including look-ahead and look-behind, is not supported"
  | unicodeOff => "Unicode not allowed here"
  | notText => "pattern can match invalid UTF-8"
  | propertyUnknown => "Unicode property not found"
  | valueUnknown => "Unicode property value not found"

structure Flaw where
  reason : Reason
  span : Span
  related : Option Span := none
  deriving DecidableEq, Repr

inductive Fault where
  | flawed (flaw : Flaw)
  | tooLarge
  deriving DecidableEq, Repr

-- ---------------------------------------------------------------------------
-- Showing flaws
-- ---------------------------------------------------------------------------

/-- The most memory that a pattern may take, in bytes. -/
def sizeLimit : Nat := 10 * 1024 * 1024

/-- Where a character stands. Lines and columns are counted from one. -/
structure Place where
  line : Nat
  column : Nat
  deriving DecidableEq, Repr

def Place.behind (chars : List Char) : Place :=
  chars.foldl (fun place c =>
    if c = '\n' then ⟨place.line + 1, 1⟩ else ⟨place.line, place.column + 1⟩) ⟨1, 1⟩

/-- The lines of a text. A carriage return before the end of a line belongs to that end. -/
def linesOf (text : List Char) : List String :=
  match ((String.ofList text).split (· = '\n')).toStringList.reverse with
  | [] => []
  | last :: ended =>
    (ended.map fun line => (line.dropSuffix '\r').toString).reverse ++
      if last = "" then [] else [last]

abbrev Extent := Place × Place

def Span.extent (text : List Char) (span : Span) : Extent :=
  (.behind (text.take span.start), .behind (text.take span.stop))

def spaces (count : Nat) : String := String.ofList (List.replicate count ' ')

def marksFrom (column : Nat) : List Extent → String
  | [] => ""
  | (first, last) :: rest =>
    let width := max 1 (last.column - first.column)
    spaces (first.column - column) ++ String.ofList (List.replicate width '^') ++
      marksFrom (max column first.column + width) rest

/-- Tells where a part of more than one line is. -/
def farNote : Extent → String
  | (first, last) =>
    s!"on line {first.line} (column {first.column}) " ++
      s!"through line {last.line} (column {last.column - 1})"

/-- The lines of a text with their numbers if there are several, and the marks under each. -/
def notedLines (text : List Char) (extents : List Extent) : List String :=
  let count := 1 + text.count '\n'
  let digits := if count = 1 then 0 else (toString count).length
  (linesOf text).zipIdx.flatMap fun (line, index) =>
    let number := toString (index + 1)
    let label := if count = 1 then spaces 4 else spaces (digits - number.length) ++ number ++ ": "
    let here := extents.filter fun (first, _) => first.line = index + 1
    (label ++ line) :: if here.isEmpty then [] else [spaces label.length ++ marksFrom 1 here]

def Flaw.render (text : List Char) (flaw : Flaw) : List String :=
  let spans := (flaw.span :: flaw.related.toList).mergeSort fun a b =>
    a.start < b.start || a.start = b.start && a.stop ≤ b.stop
  let (near, far) := (spans.map (·.extent text)).partition fun (first, last) =>
    first.line = last.line
  let lines := notedLines text near
  let shown :=
    if text.contains '\n' then
      let divider := String.ofList (List.replicate 79 '~')
      divider :: lines ++ [divider] ++ far.map farNote
    else lines
  "regex parse error:" :: shown ++ ["error: " ++ flaw.reason.message]

def Fault.message (text : List Char) : Fault → String
  | .flawed flaw => "\n".intercalate (flaw.render text)
  | .tooLarge => s!"Compiled regex exceeds size limit of {sizeLimit} bytes."

end Precompiled.Pattern
