import Precompiled.Artifact.Reader

/-!
# Load options

Which versions a load accepts, whether it verifies the metadata, and whether a backend has to have
declared the fields. Only a range of versions that is not empty and lies within those that exist is
valid.
-/

namespace Precompiled

open Artifact (VersionRange supportedVersions)

structure LoadOptions where
  versions : VersionRange := supportedVersions
  verify : Bool := true
  /-- Whether every field has to be declared by the backend. -/
  requireDeclared : Bool := false
  deriving DecidableEq, Repr

namespace LoadOptions

inductive Invalid where
  | inverted (range : VersionRange)
  | unsupported (range : VersionRange)
  deriving DecidableEq, Repr

def Invalid.message : Invalid → String
  | .inverted range =>
    s!"min_format_version {range.min.toNat} is greater than " ++
      s!"max_format_version {range.max.toNat}"
  | .unsupported range =>
    s!"format versions {range.min.toNat}..={range.max.toNat} fall outside the supported range " ++
      s!"{supportedVersions.min.toNat}..={supportedVersions.max.toNat}"

def check (o : LoadOptions) : Except Invalid Unit :=
  let range := o.versions
  if range.max < range.min then .error (.inverted range)
  else if range.min < supportedVersions.min ∨ supportedVersions.max < range.max then
    .error (.unsupported range)
  else .ok ()

def reader (o : LoadOptions) : Artifact.Reader := { versions := o.versions, verify := o.verify }

end LoadOptions
end Precompiled
