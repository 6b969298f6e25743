import Precompiled.EntryPoint
import Precompiled.Registry
import Precompiled.Storage.Path

/-!
# Events

What is told about the work while it is done, how important it is, and which part of the program
tells it.
-/

namespace Precompiled

open Storage (Path)

inductive Level where
  | error
  | warn
  | info
  | debug
  | trace
  deriving DecidableEq, Repr

namespace Level

def rank : Level → Nat
  | .error => 1
  | .warn => 2
  | .info => 3
  | .debug => 4
  | .trace => 5

def name : Level → String
  | .error => "error"
  | .warn => "warn"
  | .info => "info"
  | .debug => "debug"
  | .trace => "trace"

def ofName? : String → Option Level
  | "error" => some .error
  | "warn" => some .warn
  | "info" => some .info
  | "debug" => some .debug
  | "trace" => some .trace
  | _ => none

def covers (limit level : Level) : Bool := level.rank ≤ limit.rank

theorem ofName?_name (level : Level) : ofName? level.name = some level := by cases level <;> rfl

end Level

/-- How far a load has come. -/
inductive Stage where
  | unloaded
  | reading
  | binding
  | bound
  | failed
  deriving DecidableEq, Repr

namespace Stage

def all : List Stage := [.unloaded, .reading, .binding, .bound, .failed]

def name : Stage → String
  | .unloaded => "Unloaded"
  | .reading => "Reading"
  | .binding => "Binding"
  | .bound => "Bound"
  | .failed => "Failed"

def isTerminal : Stage → Bool
  | .bound | .failed => true
  | .unloaded | .reading | .binding => false

end Stage

inductive Event where
  | versionAccepted (dir : Path) (version : UInt32)
  | metadataRead (dir : Path) (kernels fields : Nat)
  | artifactWritten (dir : Path) (version : UInt32)
  | libraryOpened (backend path : String)
  | slotRetired (index : UInt32)
  | kernelResolved (kernel symbol : String) (entry : EntryPoint)
  | moduleBound (kernels fields : Nat) (backend : String)
  | stageReached (path : Path) (last next : Stage)
  | loaded (path : Path) (kernels fields : Nat) (backend : BackendId)
  | loadFailed (path : Path) (reason : String)
  /-- A library is about to be opened. -/
  | libraryNamed (path : Path)
  deriving DecidableEq

namespace Event

def level : Event → Level
  | .loaded .. => .info
  | .loadFailed .. => .warn
  | _ => .debug

def message : Event → String
  | .versionAccepted dir version =>
    s!"artifact {dir.display}: format version {version.toNat} accepted"
  | .metadataRead dir kernels fields =>
    s!"artifact {dir.display}: {kernels} kernel(s), {fields} field(s)"
  | .artifactWritten dir version =>
    s!"wrote artifact {dir.display} (format version {version.toNat})"
  | .libraryOpened backend path => s!"backend {backend}: opened {path}"
  | .slotRetired index => s!"backend slot {index.toNat} retired"
  | .kernelResolved kernel symbol entry =>
    s!"kernel `{kernel}` -> `{symbol}` at {entry.describe}"
  | .moduleBound kernels fields backend =>
    s!"bound {kernels} kernel(s) and {fields} field(s) against backend `{backend}`"
  | .stageReached path last next => s!"{path.display}: {last.name} -> {next.name}"
  | .loaded path kernels fields backend =>
    s!"loaded {path.display} ({kernels} kernel(s), {fields} field(s)) " ++
      s!"on backend {backend.describe}"
  | .loadFailed path reason => s!"failed to load {path.display}: {reason}"
  | .libraryNamed path => s!"opening {path.display}"

def source : Event → String
  | .versionAccepted .. | .metadataRead .. => "aotmod_artifact::reader"
  | .artifactWritten .. => "aotmod_artifact::writer"
  | .libraryOpened .. => "aotmod_runtime::backend::dylib"
  | .slotRetired _ => "aotmod_runtime::registry"
  | .kernelResolved .. | .moduleBound .. => "aotmod_runtime::binder"
  | .stageReached .. | .loaded .. | .loadFailed .. => "aotmod_runtime::loader"
  | .libraryNamed _ => "aotmod::commands::check"

end Event
end Precompiled
