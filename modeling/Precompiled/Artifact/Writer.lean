import Precompiled.Artifact.Error
import Precompiled.Artifact.Files
import Precompiled.Attempt
import Precompiled.Storage.Effect

/-!
# Writing artifacts

Metadata that nobody could read back is refused before anything is touched. The marker goes first
and comes last, so that a directory in which the writing stopped is no artifact.
-/

namespace Precompiled.Artifact

open Storage (Effect FileTree Path)

structure Writer where
  checksum : Bool := true
  deriving DecidableEq, Repr

namespace Writer

/-- Refuses metadata of a version that does not exist or with a fault in it. -/
def check (dir : Path) (m : Metadata) : Except Error Unit :=
  if m.version ∈ supportedVersions then
    m.check.mapError fun fault => .corrupt (dir.join metadataFile) (.descriptors fault)
  else .error (.version (.unsupported m.version supportedVersions))

/-- The effects that put metadata into a directory, in place of an artifact that is there. -/
def effects (w : Writer) (dir : Path) (m : Metadata) : List Effect :=
  let checksumPath := dir.join checksumFile
  [.makeDirs dir, .discard (dir.join versionFile),
   .store (dir.join metadataFile) (metadataBytes m),
   if w.checksum then .store checksumPath (checksumBytes m) else .discard checksumPath,
   .store (dir.join versionFile) (markerBytes m)]

def plan (w : Writer) (dir : Path) (m : Metadata) : Except Error (List Effect) := do
  check dir m
  return w.effects dir m

/-- The outcome of writing, by what stopped the effects, if anything did. -/
def conclude (dir : Path) (m : Metadata) (stopped : Option (Path × Storage.Fault)) :
    Attempt Error Unit :=
  match stopped with
  | none => Attempt.tell (.artifactWritten dir m.version)
  | some (path, fault) => .fail (.storage path fault)

/-- Writes metadata into a directory. What was done before a fault stays done. -/
def write (w : Writer) (t : FileTree) (dir : Path) (m : Metadata) :
    FileTree × Attempt Error Unit :=
  match w.plan dir m with
  | .error e => (t, .fail e)
  | .ok effects =>
    let (t, stopped) := t.carryOut effects
    (t, conclude dir m stopped)

end Writer
end Precompiled.Artifact
