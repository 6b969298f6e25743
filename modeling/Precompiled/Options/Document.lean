import Precompiled.Options
import Precompiled.Toml.Document

/-!
# Option files

Load options as a TOML document with one key for each option, all of which may be missing. A text
that is no document is refused first, then the first key that names no option or holds no value of
its kind, and last a range of versions that is not valid.
-/

namespace Precompiled

namespace LoadOptions

def keys : List String :=
  ["min_format_version", "max_format_version", "verify_checksum", "require_declared_fields"]

inductive Unreadable where
  | malformed
  | unknownKey (key : String)
  | mismatch (key : String)
  /-- A version that does not fit into 32 bits. -/
  | outOfRange (key : String) (value : Int)
  deriving DecidableEq, Repr

def Unreadable.message : Unreadable → String
  | .malformed => "the text is no TOML document"
  | .unknownKey key =>
    s!"unknown field `{key}`, expected one of " ++
      ", ".intercalate (keys.map fun known => s!"`{known}`")
  | .mismatch key => s!"the value of `{key}` is of the wrong kind"
  | .outOfRange key value => s!"the value of `{key}` is out of range: {value}"

inductive Error where
  | storage (fault : Storage.Fault)
  | unreadable (fault : Unreadable)
  | invalid (fault : Invalid)
  deriving DecidableEq, Repr

def Error.message : Error → String
  | .storage fault => s!"failed to read loader options: {fault.message}"
  | .unreadable fault => s!"failed to parse loader options: {fault.message}"
  | .invalid fault => s!"invalid loader options: {fault.message}"

def Error.causes : Error → List String
  | .storage fault => [fault.message]
  | .unreadable fault => [fault.message]
  | .invalid _ => []

-- ---------------------------------------------------------------------------
-- Reading
-- ---------------------------------------------------------------------------

def readVersion (key : String) : Toml.Item → Except Unreadable UInt32
  | .integer value =>
    if 0 ≤ value ∧ value < UInt32.size then .ok (UInt32.ofNat value.toNat)
    else .error (.outOfRange key value)
  | _ => .error (.mismatch key)

def readSwitch (key : String) : Toml.Item → Except Unreadable Bool
  | .boolean value => .ok value
  | _ => .error (.mismatch key)

def take (o : LoadOptions) (key : String) (item : Toml.Item) : Except Unreadable LoadOptions :=
  match key with
  | "min_format_version" => do
    let min ← readVersion key item
    return { o with versions := { o.versions with min } }
  | "max_format_version" => do
    let max ← readVersion key item
    return { o with versions := { o.versions with max } }
  | "verify_checksum" => return { o with verify := ← readSwitch key item }
  | "require_declared_fields" => return { o with requireDeclared := ← readSwitch key item }
  | _ => .error (.unknownKey key)

/-- The options that the entries of a document set; the others have their defaults. -/
def ofEntries (entries : Toml.Entries) : Except Unreadable LoadOptions :=
  entries.foldlM (fun o (key, item) => o.take key item) {}

def ofTable (entries : Toml.Entries) : Except Error LoadOptions := do
  let o ← (ofEntries entries).mapError .unreadable
  o.check.mapError .invalid
  return o

def parse (text : String) : Except Error LoadOptions :=
  match Toml.parse? text with
  | none => .error (.unreadable .malformed)
  | some entries => ofTable entries

def ofFile (files : Storage.Files) (path : Storage.Path) : Except Error LoadOptions :=
  match files.readText path with
  | .ok text => parse text
  | .error fault => .error (.storage fault)

end LoadOptions
end Precompiled
