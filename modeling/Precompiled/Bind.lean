import Precompiled.Attempt
import Precompiled.Backend
import Precompiled.Module
import Precompiled.Options

/-!
# Binding

Metadata becomes a module against a backend that is registered: the architectures must not differ,
every kernel has to have an entry point, and no field may be declared with another layout. The
first fault in this order, and in declared order within it, is the error. There is a module only if
there is no fault.
-/

namespace Precompiled

inductive BindError where
  | backendUnavailable (id : BackendId)
  | targetMismatch (module backend : String)
  | unresolvedSymbol (kernel symbol : String)
  /-- A field whose declaration by the backend is another one, or missing. -/
  | fieldMismatch (field : Field) (declared : Option Field)
  deriving DecidableEq

namespace BindError

def foundLayout (declared : Option Field) : String :=
  match declared with
  | some field => field.layout
  | none => "no declaration"

def message : BindError → String
  | .backendUnavailable id => s!"backend {id.describe} is not registered"
  | .targetMismatch module backend =>
    s!"module targets `{module}` but the backend runs `{backend}`"
  | .unresolvedSymbol kernel symbol =>
    s!"kernel `{kernel}`: entry symbol `{symbol}` is not defined by the backend"
  | .fieldMismatch field declared =>
    s!"field `{field.name}`: module declares {field.layout}, " ++
      s!"backend has {foundLayout declared}"

end BindError

namespace Backend

def checkTarget (b : Backend) (m : Metadata) : Except BindError Unit :=
  match m.arch, b.arch with
  | some wanted, some given =>
    if wanted = given then .ok () else .error (.targetMismatch wanted given)
  | _, _ => .ok ()

def bindKernel (b : Backend) (k : Kernel) : Attempt BindError BoundKernel :=
  match b.resolve k.symbol with
  | none => .fail (.unresolvedSymbol k.name k.symbol)
  | some entry => do
    Attempt.tell (.kernelResolved k.name k.symbol entry)
    return { name := k.name, symbol := k.symbol, entry, args := k.args }

def bindKernels (b : Backend) : List Kernel → Attempt BindError (List BoundKernel)
  | [] => return []
  | k :: rest => do
    let bound ← b.bindKernel k
    let others ← b.bindKernels rest
    return bound :: others

def bindField (b : Backend) (requireDeclared : Bool) (f : Field) : Except BindError Field :=
  match b.declared f.name with
  | some declared =>
    if declared.sameLayout f then .ok f else .error (.fieldMismatch f (some declared))
  | none => if requireDeclared then .error (.fieldMismatch f none) else .ok f

def bindFields (b : Backend) (requireDeclared : Bool) (fields : List Field) :
    Except BindError (List Field) :=
  fields.mapM (b.bindField requireDeclared)

/-- Binds metadata against the backend that an id names. -/
def bind (b : Backend) (id : BackendId) (o : LoadOptions) (m : Metadata) :
    Attempt BindError Module := do
  b.checkTarget m
  let kernels ← b.bindKernels m.kernels
  let fields ← b.bindFields o.requireDeclared m.fields
  Attempt.tell (.moduleBound kernels.length fields.length b.name)
  return Module.build m id b.name kernels fields

end Backend

def Registry.bind (r : Registry Backend) (id : BackendId) (o : LoadOptions) (m : Metadata) :
    Attempt BindError Module :=
  match r.get? id with
  | some b => b.bind id o m
  | none => .fail (.backendUnavailable id)

end Precompiled
