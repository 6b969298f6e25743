import Precompiled.Bind
import Precompiled.Options.Document

/-!
# Loading

A load checks its options, reads an artifact and binds what it has read. It tells each stage that it
reaches, and last how it ended.
-/

namespace Precompiled

open Storage (Files Path)

inductive LoadError where
  | artifact (e : Artifact.Error)
  | bind (e : BindError)
  | options (e : LoadOptions.Error)
  deriving DecidableEq

namespace LoadError

inductive Kind where
  | storage
  | version
  | content
  | unresolvedSymbol
  | fieldMismatch
  | targetMismatch
  | backend
  | options
  deriving DecidableEq, Repr

def Kind.name : Kind → String
  | .storage => "Io"
  | .version => "Format"
  | .content => "Corrupt"
  | .unresolvedSymbol => "UnresolvedSymbol"
  | .fieldMismatch => "FieldMismatch"
  | .targetMismatch => "TargetMismatch"
  | .backend => "Backend"
  | .options => "Options"

def kind : LoadError → Kind
  | .artifact e =>
    match e.classify with
    | .storage => .storage
    | .version => .version
    | .content => .content
  | .bind (.unresolvedSymbol ..) => .unresolvedSymbol
  | .bind (.fieldMismatch ..) => .fieldMismatch
  | .bind (.targetMismatch ..) => .targetMismatch
  | .bind (.backendUnavailable _) => .backend
  | .options _ => .options

def message : LoadError → String
  | .artifact e => e.message
  | .bind e => e.message
  | .options e => e.message

def causes : LoadError → List String
  | .artifact e => e.causes
  | .bind _ => []
  | .options e => e.causes

end LoadError

namespace Load

/-- A load that has come to the end of its work in some stage. -/
structure Run where
  stage : Stage
  attempt : Attempt LoadError Module

def reach (path : Path) (last next : Stage) : Attempt LoadError Unit :=
  Attempt.tell (.stageReached path last next)

def reading (files : Files) (o : LoadOptions) (path : Path) : Attempt LoadError Metadata := do
  reach path .unloaded .reading
  (o.reader.read files path).mapError .artifact

def run (files : Files) (r : Registry Backend) (o : LoadOptions) (path : Path) (id : BackendId) :
    Run :=
  match o.check with
  | .error fault => ⟨.unloaded, .fail (.options (.invalid fault))⟩
  | .ok () =>
    let read := reading files o path
    match read.outcome with
    | .error e => ⟨.reading, ⟨read.events, .error e⟩⟩
    | .ok m =>
      let bound : Attempt LoadError Module := do
        reach path .reading .binding
        (r.bind id o m).mapError .bind
      ⟨.binding, ⟨read.events ++ bound.events, bound.outcome⟩⟩

def Run.conclude (run : Run) (path : Path) (id : BackendId) : Attempt LoadError Module :=
  match run.attempt.outcome with
  | .ok m =>
    ⟨run.attempt.events ++
      [.stageReached path run.stage .bound, .loaded path m.kernels.length m.fields.length id],
      .ok m⟩
  | .error e =>
    ⟨run.attempt.events ++ [.stageReached path run.stage .failed, .loadFailed path e.message],
      .error e⟩

end Load

/-- Loads the artifact at a path against the backend that an id names. -/
def load (files : Files) (r : Registry Backend) (o : LoadOptions) (path : Path) (id : BackendId) :
    Attempt LoadError Module :=
  (Load.run files r o path id).conclude path id

end Precompiled
