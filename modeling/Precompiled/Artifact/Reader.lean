import Precompiled.Artifact.Error
import Precompiled.Artifact.Files
import Precompiled.Attempt

/-!
# Reading artifacts

An artifact is read in stages: the directory, the version marker, the bytes of the metadata, their
check value, the record in them, its version, its descriptors. The first stage that fails gives the
error, and nothing that only later stages look at is looked at.
-/

namespace Precompiled.Artifact

open Storage (Files Path)

structure Reader where
  versions : VersionRange := supportedVersions
  /-- Whether to compare the metadata with its check value, if there is one. -/
  verify : Bool := true
  deriving DecidableEq, Repr

namespace Reader

def checkDirectory (files : Files) (dir : Path) : Except Error Unit :=
  match files.kind dir with
  | .ok .directory => .ok ()
  | .ok .file => .error (.notADirectory dir)
  | .error fault => .error (.storage dir fault)

def readVersion (r : Reader) (files : Files) (dir : Path) : Except Error UInt32 :=
  let path := dir.join versionFile
  match files.readText path with
  | .error .notFound => .error (.version (.missingMarker path))
  | .error fault => .error (.version (.unreachableMarker path fault))
  | .ok text =>
    match Marker.parse text with
    | .error fault => .error (.version (.unreadableMarker path fault))
    | .ok version =>
      if version ∈ r.versions then .ok version
      else .error (.version (.unsupported version r.versions))

def readMetadata (files : Files) (dir : Path) : Except Error Bytes :=
  let path := dir.join metadataFile
  (files.read path).mapError (.storage path)

/-- Compares the metadata with the check value in its file. Without a file there is nothing to
compare. -/
def checkChecksum (files : Files) (dir : Path) (content : Bytes) : Except Error Unit :=
  let path := dir.join checksumFile
  match files.readText path with
  | .error .notFound => .ok ()
  | .error fault => .error (.storage path fault)
  | .ok text =>
    match Checksum.parse? text with
    | none => .error (.corrupt path (.invalidChecksum (Text.trim text)))
    | some expected =>
      let actual := crc32 content
      if expected = actual then .ok ()
      else .error (.corrupt (dir.join metadataFile) (.checksumMismatch expected actual))

def decode (version : UInt32) (content : Bytes) : Except Corruption Metadata := do
  let record ← (Record.parse content).mapError .malformed
  if record.version ≠ version then throw (.versionDisagreement version record.version)
  record.metadata.mapError .descriptors

def read (r : Reader) (files : Files) (dir : Path) : Attempt Error Metadata := do
  checkDirectory files dir
  let version ← r.readVersion files dir
  Attempt.tell (.versionAccepted dir version)
  let content ← readMetadata files dir
  if r.verify then checkChecksum files dir content
  let m ← (decode version content).mapError fun reason =>
    Error.corrupt (dir.join metadataFile) reason
  Attempt.tell (.metadataRead dir m.kernels.length m.fields.length)
  return m

end Reader
end Precompiled.Artifact
