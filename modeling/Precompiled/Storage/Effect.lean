import Precompiled.Storage.Tree

/-!
# Effects

Changes to a file tree as data. A plan is carried out from its first effect on and stops at the
first one that fails; what was done before stays done.
-/

namespace Precompiled.Storage

inductive Effect where
  /-- Makes a directory and all that lead to it, as far as they are missing. -/
  | makeDirs (path : Path)
  /-- Takes a file away if something is there. -/
  | discard (path : Path)
  | store (path : Path) (content : Bytes)
  deriving DecidableEq, Repr

def Effect.path : Effect → Path
  | .makeDirs path | .discard path | .store path _ => path

/-- A tree after a change that either succeeds as a whole or leaves the tree as it was. -/
def FileTree.after (t : FileTree) : Except Fault FileTree → FileTree × Option Fault
  | .ok changed => (changed, none)
  | .error fault => (t, some fault)

namespace FileTree

/-- The tree after an effect, and the fault that stopped the effect, if one did. -/
def apply (t : FileTree) : Effect → FileTree × Option Fault
  | .makeDirs path => t.makeDirs path
  | .discard path => if t.holds path then t.after (t.removeFile path) else (t, none)
  | .store path content => t.after (t.store path content)

def carryOut (t : FileTree) : List Effect → FileTree × Option (Path × Fault)
  | [] => (t, none)
  | e :: rest =>
    match t.apply e with
    | (t, none) => t.carryOut rest
    | (t, some fault) => (t, some (e.path, fault))

end FileTree
end Precompiled.Storage
