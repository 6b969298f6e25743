import Precompiled.Attempt
import Precompiled.Backend
import Precompiled.Dict
import Precompiled.Text.Quoted

/-!
# Libraries

A backend that finds symbols in shared libraries, and possibly in the running process. Libraries
are searched in the order in which they were opened, and the first one that has a symbol gives its
entry point.
-/

namespace Precompiled

open Storage (Path)

abbrev Exports := String → Option EntryPoint

/-- What a machine offers to those who open libraries on it. -/
structure Host where
  arch : String
  process : Exports
  library : String → Except String Exports

structure Library where
  path : String
  exports : Exports

namespace Library

/-- Whether a text can be handed to the machine, where a NUL ends every text. -/
def isName (text : String) : Bool := !text.toList.contains '\x00'

def resolve (l : Library) (symbol : String) : Option EntryPoint :=
  if isName symbol then l.exports symbol else none

def ofProcess (host : Host) : Library := { path := "<process>", exports := host.process }

inductive Error where
  | notText (path : Path)
  | nulInPath (position : Nat)
  | notFound (path reason : String)
  deriving DecidableEq, Repr

def Error.message : Error → String
  | .notText path => s!"invalid UTF-8 in path: {Text.quoteBytes path.bytes}"
  | .nulInPath position =>
    s!"platform error: invalid path: nul byte found in provided data at position: {position}"
  | .notFound path reason => s!"library not found: {path}: {reason}"

def openAt (host : Host) (path : Path) : Except Error Library :=
  match Utf8.decode? path.bytes with
  | none => .error (.notText path)
  | some name =>
    if path.hasNul then .error (.nulInPath (path.bytes.idxOf 0))
    else
      match host.library name with
      | .error reason => .error (.notFound name reason)
      | .ok exports => .ok { path := name, exports }

end Library

structure LibraryBackend where
  name : String
  arch : String
  /-- The open libraries, in the order of the search. -/
  libraries : List Library := []
  fields : Dict String Field := []

namespace LibraryBackend

def empty (host : Host) (name : String) : LibraryBackend := { name, arch := host.arch }

def ofProcess (host : Host) (name : String) : LibraryBackend :=
  { empty host name with libraries := [.ofProcess host] }

/-- Opens one more library, to be searched after the others. -/
def openLibrary (b : LibraryBackend) (host : Host) (path : Path) :
    Attempt Library.Error LibraryBackend := do
  let library ← Library.openAt host path
  Attempt.tell (.libraryOpened b.name library.path)
  return { b with libraries := b.libraries ++ [library] }

def declare (b : LibraryBackend) (field : Field) : LibraryBackend :=
  { b with fields := Dict.put field.name field b.fields }

def resolve (b : LibraryBackend) (symbol : String) : Option EntryPoint :=
  b.libraries.findSome? (·.resolve symbol)

def paths (b : LibraryBackend) : List String := b.libraries.map (·.path)

def backend (b : LibraryBackend) : Backend where
  name := b.name
  arch := some b.arch
  resolve := b.resolve
  declared := Dict.get? b.fields

theorem resolve_append (b : LibraryBackend) (more : List Library) (symbol : String) :
    { b with libraries := b.libraries ++ more }.resolve symbol =
      (b.resolve symbol).or (more.findSome? (·.resolve symbol)) := by
  simp [resolve, List.findSome?_append]

theorem resolve_eq_none_of_nul (b : LibraryBackend) {symbol : String}
    (h : Library.isName symbol = false) : b.resolve symbol = none := by
  simp [resolve, Library.resolve, h]

end LibraryBackend
end Precompiled
