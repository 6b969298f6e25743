import Precompiled.Artifact.Checksum
import Precompiled.Artifact.Version
import Precompiled.Json.Decode
import Precompiled.Metadata
import Precompiled.Storage.Tree

/-!
# Artifact errors

Why an artifact cannot be read or written: its files cannot be reached, its version is none that
is accepted, or what its files hold is corrupt.
-/

namespace Precompiled.Artifact

open Storage (Path)

inductive Corruption where
  | malformed (fault : Json.Fault)
  | versionDisagreement (marker embedded : UInt32)
  | checksumMismatch (expected actual : UInt32)
  | invalidChecksum (text : String)
  | descriptors (fault : DescriptorFault)
  deriving DecidableEq, Repr

inductive VersionFault where
  | missingMarker (path : Path)
  | unreachableMarker (path : Path) (fault : Storage.Fault)
  | unreadableMarker (path : Path) (fault : Marker.Fault)
  | unsupported (found : UInt32) (accepted : VersionRange)
  deriving DecidableEq, Repr

inductive Error where
  | storage (path : Path) (fault : Storage.Fault)
  | notADirectory (path : Path)
  | version (fault : VersionFault)
  | corrupt (path : Path) (reason : Corruption)
  deriving DecidableEq, Repr

inductive Error.Class where
  | storage
  | version
  | content
  deriving DecidableEq, Repr

def Error.classify : Error → Error.Class
  | .storage .. | .notADirectory _ => .storage
  | .version _ => .version
  | .corrupt .. => .content

-- ---------------------------------------------------------------------------
-- Texts
-- ---------------------------------------------------------------------------

def Corruption.message : Corruption → String
  | .malformed fault => s!"metadata is not valid JSON: {fault.message}"
  | .versionDisagreement marker embedded =>
    s!"metadata declares format version {embedded.toNat} but the marker says {marker.toNat}"
  | .checksumMismatch expected actual =>
    s!"checksum mismatch: expected {Checksum.digits expected}, computed {Checksum.digits actual}"
  | .invalidChecksum text => s!"checksum file does not hold a hex CRC32: `{text}`"
  | .descriptors fault => fault.message

def VersionFault.message : VersionFault → String
  | .missingMarker path => s!"format version marker `{path.display}` is missing"
  | .unreachableMarker path fault =>
    s!"format version marker `{path.display}` is unreadable: {fault.message}"
  | .unreadableMarker path fault =>
    s!"format version marker `{path.display}` is unreadable: {fault.message}"
  | .unsupported found accepted =>
    s!"format version {found.toNat} is not supported " ++
      s!"(supported: {accepted.min.toNat}..={accepted.max.toNat})"

def Error.message : Error → String
  | .storage path fault => s!"failed to access `{path.display}`: {fault.message}"
  | .notADirectory path => s!"artifact path `{path.display}` is not a directory"
  | .version fault => fault.message
  | .corrupt path reason => s!"corrupt artifact `{path.display}`: {reason.message}"

-- ---------------------------------------------------------------------------
-- Causes: the texts of what lies behind an error, nearest cause first
-- ---------------------------------------------------------------------------

end Artifact

def DescriptorFault.causes : DescriptorFault → List String
  | .unknownTag _ tag => [ElementType.unknownTag tag]
  | _ => []

namespace Artifact

def Corruption.causes : Corruption → List String
  | .malformed fault => [fault.message]
  | .descriptors fault => fault.causes
  | _ => []

def Error.causes : Error → List String
  | .storage _ fault => [fault.message]
  | .corrupt _ reason => reason.message :: reason.causes
  | .notADirectory _ | .version _ => []

end Precompiled.Artifact
