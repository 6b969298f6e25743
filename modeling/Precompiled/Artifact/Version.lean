import Precompiled.Text.Blank
import Precompiled.Text.Decimal

/-!
# Format versions

The versions of the artifact format, and the marker that states one in a file of its own.
-/

namespace Precompiled.Artifact

/-- A range of versions, both ends included. It is empty if the ends are in the wrong order. -/
structure VersionRange where
  min : UInt32
  max : UInt32
  deriving DecidableEq, Repr

instance : Membership UInt32 VersionRange where
  mem range version := range.min ≤ version ∧ version ≤ range.max

instance (version : UInt32) (range : VersionRange) : Decidable (version ∈ range) :=
  inferInstanceAs (Decidable (range.min ≤ version ∧ version ≤ range.max))

def supportedVersions : VersionRange := ⟨1, 5⟩

def currentVersion : UInt32 := supportedVersions.max

namespace Marker

inductive Fault where
  | empty
  | noVersion (text : String) (fault : Decimal.Fault)
  deriving DecidableEq, Repr

def Fault.message : Fault → String
  | .empty => "marker is empty"
  | .noVersion text fault => s!"`{text}` is not a format version: {fault.message}"

/-- The version that a marker states, blanks around it apart. -/
def parse (text : String) : Except Fault UInt32 :=
  let content := Text.trim text
  if content = "" then .error .empty
  else
    match Decimal.word content.toList with
    | .ok version => .ok version
    | .error fault => .error (.noVersion content fault)

def render (version : UInt32) : String := s!"{version.toNat}\n"

end Marker
end Precompiled.Artifact
