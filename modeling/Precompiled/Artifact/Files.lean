import Precompiled.Artifact.Checksum
import Precompiled.Artifact.Version
import Precompiled.Metadata.Document
import Precompiled.Storage.Path

/-!
# Files of an artifact

An artifact is a directory with a version marker, the metadata and, if wanted, a check value of the
metadata, each in a file of its own.
-/

namespace Precompiled.Artifact

open Storage (Path)

def versionFile : String := "VERSION"

def metadataFile : String := "metadata.json"

def checksumFile : String := "metadata.crc32"

def metadataBytes (m : Metadata) : Bytes := m.record.pretty ++ [0x0A]

def markerBytes (m : Metadata) : Bytes := Utf8.encode (Marker.render m.version)

def checksumBytes (m : Metadata) : Bytes :=
  Utf8.encode (Checksum.render (crc32 (metadataBytes m)))

end Precompiled.Artifact
