import Precompiled.Dict
import Precompiled.Storage.Path

/-!
# File trees

A tree of directories and files without links. The root is also the working directory. Paths are
walked name by name: each name but the last one has to lead to a directory.
-/

namespace Precompiled.Storage

inductive Fault where
  | notFound
  | alreadyExists
  | notADirectory
  | isADirectory
  | notText
  | nulInPath
  | nameTooLong
  /-- Any other refusal, in the words of whoever keeps the files. -/
  | other (text : String)
  deriving DecidableEq, Repr

def Fault.message : Fault → String
  | .notFound => "No such file or directory (os error 2)"
  | .alreadyExists => "File exists (os error 17)"
  | .notADirectory => "Not a directory (os error 20)"
  | .isADirectory => "Is a directory (os error 21)"
  | .notText => "stream did not contain valid UTF-8"
  | .nulInPath => "file name contained an unexpected NUL byte"
  | .nameTooLong => "File name too long (os error 36)"
  | .other text => text

inductive Node where
  | file (content : Bytes)
  | directory (entries : List (Name × Node))
  deriving Repr

/-- The names that lead from the root to a node. -/
abbrev Location := List Name

namespace Node

def isDirectory : Node → Bool
  | .file _ => false
  | .directory _ => true

def find? : Node → Location → Option Node
  | n, [] => some n
  | .file _, _ :: _ => none
  | .directory entries, name :: rest =>
    match Dict.get? entries name with
    | some child => child.find? rest
    | none => none

/-- Puts a node at a location whose directory is there, or takes the node there away. -/
def set : Node → Location → Option Node → Node
  | n, [], _ => n
  | .file content, _ :: _, _ => .file content
  | .directory entries, [name], some child => .directory (Dict.put name child entries)
  | .directory entries, [name], none => .directory (Dict.erase name entries)
  | .directory entries, name :: next :: rest, child =>
    match Dict.get? entries name with
    | some inner => .directory (Dict.put name (inner.set (next :: rest) child) entries)
    | none => .directory entries

end Node

structure FileTree where
  entries : List (Name × Node) := []
  deriving Repr

inductive Kind where
  | file
  | directory
  deriving DecidableEq, Repr

namespace FileTree

def root (t : FileTree) : Node := .directory t.entries

def find? (t : FileTree) (l : Location) : Option Node := t.root.find? l

def set (t : FileTree) (l : Location) (child : Option Node) : FileTree :=
  match t.root.set l child with
  | .directory entries => ⟨entries⟩
  | .file _ => t

/-- Walks names from a directory, which is given by its location with the innermost name first. A
name that is too long is one that no directory holds. -/
def walk (t : FileTree) (place : Location) : List Name → Except Fault Location
  | [] => .ok place
  | name :: rest =>
    match t.find? place.reverse with
    | some (.directory entries) =>
      if name = Path.here then t.walk place rest
      else if name = Path.up then t.walk place.tail rest
      else if Path.nameLimit < name.length then .error .nameTooLong
      else if (Dict.get? entries name).isSome then t.walk (name :: place) rest
      else .error .notFound
    | some (.file _) => .error .notADirectory
    | none => .error .notFound

/-- Refuses a path that names nothing in any tree. -/
def checkPath (p : Path) : Except Fault Unit :=
  if p.hasNul then .error .nulInPath
  else if Path.lengthLimit < p.bytes.length then .error .nameTooLong
  else if p.bytes.isEmpty then .error .notFound
  else .ok ()

def node (t : FileTree) (p : Path) : Except Fault Node := do
  checkPath p
  let place ← t.walk [] p.names
  match t.find? place.reverse with
  | none => throw .notFound
  | some n => if p.trailing && !n.isDirectory then throw .notADirectory else return n

def kind (t : FileTree) (p : Path) : Except Fault Kind :=
  (t.node p).map fun n => if n.isDirectory then .directory else .file

def holds (t : FileTree) (p : Path) : Bool := (t.node p).isOk

def isDirectory (t : FileTree) (p : Path) : Bool :=
  match t.node p with
  | .ok n => n.isDirectory
  | .error _ => false

def read (t : FileTree) (p : Path) : Except Fault Bytes := do
  match ← t.node p with
  | .file content => return content
  | .directory _ => throw .isADirectory

def list (t : FileTree) (p : Path) : Except Fault (List Name) := do
  match ← t.node p with
  | .file _ => throw .notADirectory
  | .directory entries => return entries.map Prod.fst

/-- A path taken apart at its last name: the location of its directory, innermost name first, and
the name in it. A path that ends in `.` or `..` has no last name. -/
def site (t : FileTree) (p : Path) : Except Fault (Location × Option Name) := do
  checkPath p
  let place ← t.walk [] p.names.dropLast
  match t.find? place.reverse with
  | some (.directory _) =>
    match p.names.getLast? with
    | some name =>
      if Path.nameLimit < name.length then throw .nameTooLong
      return (place, if name = Path.here ∨ name = Path.up then none else some name)
    | none => return (place, none)
  | some (.file _) => throw .notADirectory
  | none => throw .notFound

-- ---------------------------------------------------------------------------
-- Changes
-- ---------------------------------------------------------------------------

def makeDir (t : FileTree) (p : Path) : Except Fault FileTree := do
  match ← t.site p with
  | (place, some name) =>
    let location := (name :: place).reverse
    if (t.find? location).isSome then throw .alreadyExists
    return t.set location (some (.directory []))
  | (_, none) => throw .alreadyExists

/-- Makes the first of some directories, and before it the others that are missing. What was made
stays when a later one fails. -/
def makeDirsAlong (t : FileTree) : List Path → FileTree × Option Fault
  | [] => (t, none)
  | p :: outer =>
    match t.makeDir p with
    | .ok t => (t, none)
    | .error .notFound =>
      match t.makeDirsAlong outer with
      | (t, some fault) => (t, some fault)
      | (t, none) =>
        match t.makeDir p with
        | .ok t => (t, none)
        | .error fault => (t, if t.isDirectory p then none else some fault)
    | .error fault => (t, if t.isDirectory p then none else some fault)

def makeDirs (t : FileTree) (p : Path) : FileTree × Option Fault := t.makeDirsAlong p.ancestors

def store (t : FileTree) (p : Path) (content : Bytes) : Except Fault FileTree := do
  match ← t.site p with
  | (place, some name) =>
    let location := (name :: place).reverse
    match t.find? location with
    | some (.directory _) => throw .isADirectory
    | some (.file _) =>
      if p.trailing then throw .notADirectory
      return t.set location (some (.file content))
    | none =>
      if p.trailing then throw .isADirectory
      return t.set location (some (.file content))
  | (_, none) => throw .isADirectory

def removeFile (t : FileTree) (p : Path) : Except Fault FileTree := do
  match ← t.site p with
  | (place, some name) =>
    let location := (name :: place).reverse
    match t.find? location with
    | some (.directory _) => throw .isADirectory
    | some (.file _) =>
      if p.trailing then throw .notADirectory
      return t.set location none
    | none => throw .notFound
  | (_, none) => throw .isADirectory

def removeAll (t : FileTree) (p : Path) : Except Fault FileTree := do
  match ← t.site p with
  | (place, some name) =>
    let location := (name :: place).reverse
    if (t.find? location).isNone then throw .notFound
    return t.set location none
  | (_, none) => throw .isADirectory

end FileTree

-- ---------------------------------------------------------------------------
-- Views
-- ---------------------------------------------------------------------------

/-- What can be asked about files: all that reading looks at. -/
structure Files where
  kind : Path → Except Fault Kind
  read : Path → Except Fault Bytes

def Files.readText (f : Files) (p : Path) : Except Fault String := do
  match Utf8.decode? (← f.read p) with
  | some text => return text
  | none => throw .notText

def FileTree.files (t : FileTree) : Files := { kind := t.kind, read := t.read }

end Precompiled.Storage
