import Precompiled.Backend.Library
import Precompiled.Backend.SymbolTable
import Precompiled.Proofs.Bind.Outcome

/-!
# What a bind asks of a backend

A bind asks for the name and the architecture of a backend, for the symbols of the kernels and for
the declarations of the fields that the metadata names. Two backends that answer these alike
(`Backend.AgreesOn`) give the same events and the same result, where a module differs by the id
that it keeps. So nothing that a host changes beside the metadata (`Hosted.ChangesBeside`) plays a
part in a bind.
-/

namespace Precompiled

def Module.under (m : Module) (id : BackendId) : Module := { m with backend := id }

namespace Backend

variable {b b' b'' : Backend} {id id' : BackendId} {o : LoadOptions} {m : Metadata}

/-- Two backends that give the same answers to all that a bind of the metadata asks. -/
structure AgreesOn (b b' : Backend) (m : Metadata) : Prop where
  name : b'.name = b.name
  arch : b'.arch = b.arch
  symbols : ∀ k ∈ m.kernels, b'.resolve k.symbol = b.resolve k.symbol
  fields : ∀ f ∈ m.fields, b'.declared f.name = b.declared f.name

theorem AgreesOn.refl (b : Backend) (m : Metadata) : b.AgreesOn b m :=
  ⟨rfl, rfl, fun _ _ => rfl, fun _ _ => rfl⟩

theorem AgreesOn.trans (h : b.AgreesOn b' m) (h' : b'.AgreesOn b'' m) : b.AgreesOn b'' m :=
  ⟨h'.name.trans h.name, h'.arch.trans h.arch,
    fun k hk => (h'.symbols k hk).trans (h.symbols k hk),
    fun f hf => (h'.fields f hf).trans (h.fields f hf)⟩

-- ---------------------------------------------------------------------------
-- One lemma for each part of a bind
-- ---------------------------------------------------------------------------

theorem checkTarget_congr (h : b'.arch = b.arch) : b'.checkTarget m = b.checkTarget m := by
  rw [checkTarget, checkTarget, h]

theorem bindKernel_congr {k : Kernel} (h : b'.resolve k.symbol = b.resolve k.symbol) :
    b'.bindKernel k = b.bindKernel k := by
  rw [bindKernel, bindKernel, h]

theorem bindKernels_congr {ks : List Kernel}
    (h : ∀ k ∈ ks, b'.resolve k.symbol = b.resolve k.symbol) :
    b'.bindKernels ks = b.bindKernels ks := by
  induction ks with
  | nil => rfl
  | cons k rest ih =>
    rw [List.forall_mem_cons] at h
    rw [bindKernels, bindKernels, bindKernel_congr h.1, ih h.2]

theorem bindField_congr {requireDeclared : Bool} {f : Field}
    (h : b'.declared f.name = b.declared f.name) :
    b'.bindField requireDeclared f = b.bindField requireDeclared f := by
  rw [bindField, bindField, h]

theorem bindFields_congr {requireDeclared : Bool} {fs : List Field}
    (h : ∀ f ∈ fs, b'.declared f.name = b.declared f.name) :
    b'.bindFields requireDeclared fs = b.bindFields requireDeclared fs := by
  unfold bindFields
  induction fs with
  | nil => rfl
  | cons f rest ih =>
    rw [List.forall_mem_cons] at h
    rw [List.mapM_cons, List.mapM_cons, bindField_congr h.1, ih h.2]

-- ---------------------------------------------------------------------------
-- The bind
-- ---------------------------------------------------------------------------

theorem AgreesOn.bind_eq (h : b.AgreesOn b' m) : b'.bind id o m = b.bind id o m := by
  rw [Backend.bind, Backend.bind, checkTarget_congr h.arch, bindKernels_congr h.symbols,
    bindFields_congr h.fields, h.name]

theorem bind_under :
    (b.bind id' o m).events = (b.bind id o m).events ∧
      (b.bind id' o m).outcome = (b.bind id o m).outcome.map (·.under id') := by
  simp only [Backend.bind, Attempt.bind_def, Attempt.andThen]
  split
  · split
    · split
      · exact ⟨rfl, rfl⟩
      · exact ⟨rfl, rfl⟩
    · exact ⟨rfl, rfl⟩
  · exact ⟨rfl, rfl⟩

theorem AgreesOn.bind_under (h : b.AgreesOn b' m) :
    (b'.bind id' o m).events = (b.bind id o m).events ∧
      (b'.bind id' o m).outcome = (b.bind id o m).outcome.map (·.under id') := by
  rw [h.bind_eq]
  exact Backend.bind_under

end Backend

-- ---------------------------------------------------------------------------
-- Changes of a backend
-- ---------------------------------------------------------------------------

inductive Hosted where
  | table (t : SymbolTable)
  | library (l : LibraryBackend)

namespace Hosted

def backend : Hosted → Backend
  | table t => t.backend
  | library l => l.backend

/-- A change that may be made to a backend while it is registered, of something that the metadata
does not name. -/
inductive ChangesBeside (m : Metadata) : Hosted → Hosted → Prop
  | define {t symbol entry} : (∀ k ∈ m.kernels, symbol ≠ k.symbol) →
      ChangesBeside m (table t) (table (t.define symbol entry))
  | undefine {t symbol} : (∀ k ∈ m.kernels, symbol ≠ k.symbol) →
      ChangesBeside m (table t) (table (t.undefine symbol))
  | declare {t field} : (∀ f ∈ m.fields, field.name ≠ f.name) →
      ChangesBeside m (table t) (table (t.declare field))
  | declareIn {l field} : (∀ f ∈ m.fields, field.name ≠ f.name) →
      ChangesBeside m (library l) (library (l.declare field))

theorem ChangesBeside.agreesOn {m : Metadata} {x y : Hosted} (h : ChangesBeside m x y) :
    x.backend.AgreesOn y.backend m := by
  cases h with
  | @define t symbol entry hs =>
    refine ⟨rfl, rfl, fun k hk => ?_, fun _ _ => rfl⟩
    exact (t.resolve_define symbol k.symbol entry).trans (if_neg (hs k hk))
  | @undefine t symbol hs =>
    refine ⟨rfl, rfl, fun k hk => ?_, fun _ _ => rfl⟩
    exact (t.resolve_undefine symbol k.symbol).trans (if_neg (hs k hk))
  | @declare t field hf =>
    refine ⟨rfl, rfl, fun _ _ => rfl, fun f hm => ?_⟩
    exact (t.declared_declare field f.name).trans (if_neg (hf f hm))
  | @declareIn l field hf =>
    refine ⟨rfl, rfl, fun _ _ => rfl, fun f hm => ?_⟩
    exact (Dict.get?_put field.name f.name field l.fields).trans (if_neg (hf f hm))

end Hosted
end Precompiled
