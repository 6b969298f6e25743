import Precompiled.Text.Utf8

/-!
# Paths

A path is a sequence of bytes that slashes cut into names. The names `.` and `..` stay for the
place where they lead to, which only a file tree can tell.
-/

namespace Precompiled.Storage

abbrev Name := Bytes

structure Path where
  bytes : Bytes
  deriving DecidableEq, Repr

namespace Path

def slash : UInt8 := '/'.toUInt8

def ofString (text : String) : Path := ⟨Utf8.encode text⟩

instance : Coe String Path := ⟨ofString⟩

def display (p : Path) : String := Utf8.decodeLossy p.bytes

def rooted (p : Path) : Bool := p.bytes.head? = some slash

/-- Whether the path ends with a slash, so that it can only name a directory. -/
def trailing (p : Path) : Bool := p.bytes.getLast? = some slash

def hasNul (p : Path) : Bool := p.bytes.contains 0

def nameLimit : Nat := 255

def lengthLimit : Nat := 4095

def cut : Bytes → List Bytes
  | [] => [[]]
  | b :: rest =>
    match cut rest with
    | [] => [[b]]
    | first :: more => if b = slash then [] :: first :: more else (b :: first) :: more

def names (p : Path) : List Name := (cut p.bytes).filter (!·.isEmpty)

def join (dir : Path) (name : String) : Path :=
  let tail := Utf8.encode name
  if dir.bytes.isEmpty || dir.trailing then ⟨dir.bytes ++ tail⟩
  else ⟨dir.bytes ++ slash :: tail⟩

def here : Name := Utf8.encode "."

def up : Name := Utf8.encode ".."

/-- The names that count when a path is shortened. A `.` stands for nothing unless it comes
first. -/
def components (p : Path) : List Name :=
  match p.names with
  | [] => []
  | first :: rest =>
    (if first = here ∧ p.rooted then [] else [first]) ++ rest.filter (· ≠ here)

def ofNames (rooted : Bool) (names : List Name) : Path :=
  ⟨(if rooted then [slash] else []) ++ [slash].intercalate names⟩

/-- The path, then what remains when names are dropped from its end, longest first, as long as
there is a name. The empty path has none of them. -/
def ancestors (p : Path) : List Path :=
  if p.bytes.isEmpty then []
  else
    let outer := p.components.dropLast
    p :: (List.range outer.length).reverse.map fun n => ofNames p.rooted (outer.take (n + 1))

end Path
end Precompiled.Storage
