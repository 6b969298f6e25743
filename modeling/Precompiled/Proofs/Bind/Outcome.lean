import Precompiled.Backend.SymbolTable
import Precompiled.Bind
import Precompiled.Proofs.Attempt

/-!
# What a bind comes to

When metadata suits a backend, what is wrong with it when it does not, and what the module of a
bind holds. A bind gives a module exactly if the metadata suits the backend, and else the first
fault: the architecture, then the kernels in declared order, then the fields in declared order.
-/

namespace Precompiled

def BoundKernel.kernel (k : BoundKernel) : Kernel :=
  { name := k.name, symbol := k.symbol, args := k.args }

namespace Backend

-- ---------------------------------------------------------------------------
-- What a backend asks of metadata
-- ---------------------------------------------------------------------------

/-- No architecture is wanted, none is given, or it is the same one. -/
def RunsTarget (b : Backend) (m : Metadata) : Prop :=
  ∀ wanted given, m.arch = some wanted → b.arch = some given → wanted = given

def Resolves (b : Backend) (k : Kernel) : Prop := (b.resolve k.symbol).isSome

instance (b : Backend) (k : Kernel) : Decidable (b.Resolves k) :=
  inferInstanceAs (Decidable (_ = true))

/-- The backend has declared a field with the same element type and shape, or not at all where that
is not required. -/
def Admits (b : Backend) (requireDeclared : Bool) (f : Field) : Prop :=
  match b.declared f.name with
  | some declared => declared.type = f.type ∧ declared.shape = f.shape
  | none => requireDeclared = false

theorem admits_of_declared {b : Backend} {requireDeclared : Bool} {f declared : Field}
    (h : b.declared f.name = some declared) :
    b.Admits requireDeclared f ↔ declared.type = f.type ∧ declared.shape = f.shape := by
  rw [Admits, h]

theorem admits_of_undeclared {b : Backend} {requireDeclared : Bool} {f : Field}
    (h : b.declared f.name = none) : b.Admits requireDeclared f ↔ requireDeclared = false := by
  rw [Admits, h]

instance (b : Backend) (requireDeclared : Bool) (f : Field) :
    Decidable (b.Admits requireDeclared f) :=
  match h : b.declared f.name with
  | some declared =>
    decidable_of_iff (declared.type = f.type ∧ declared.shape = f.shape)
      (admits_of_declared h).symm
  | none => decidable_of_iff (requireDeclared = false) (admits_of_undeclared h).symm

structure Suits (b : Backend) (requireDeclared : Bool) (m : Metadata) : Prop where
  target : b.RunsTarget m
  kernels : ∀ k ∈ m.kernels, b.Resolves k
  fields : ∀ f ∈ m.fields, b.Admits requireDeclared f

inductive Refuses (b : Backend) (requireDeclared : Bool) (m : Metadata) : BindError → Prop
  | target {wanted given} : m.arch = some wanted → b.arch = some given → wanted ≠ given →
      Refuses b requireDeclared m (.targetMismatch wanted given)
  | kernel {k} : b.RunsTarget m → m.kernels.find? (¬ b.Resolves ·) = some k →
      Refuses b requireDeclared m (.unresolvedSymbol k.name k.symbol)
  | field {f} : b.RunsTarget m → (∀ k ∈ m.kernels, b.Resolves k) →
      m.fields.find? (¬ b.Admits requireDeclared ·) = some f →
      Refuses b requireDeclared m (.fieldMismatch f (b.declared f.name))

/-- What the module of a bind holds: what was declared, in declared order, and the entry point that
the backend gives for each kernel. -/
structure Binds (b : Backend) (id : BackendId) (m : Metadata) (module : Module) : Prop where
  metadata : module.metadata = m
  backend : module.backend = id
  backendName : module.backendName = b.name
  kernels : module.kernels.map BoundKernel.kernel = m.kernels
  entries : ∀ k ∈ module.kernels, b.resolve k.symbol = some k.entry
  fields : module.fields = m.fields
  kernelPositions : module.kernelPositions = positions (module.kernels.map (·.name))
  fieldPositions : module.fieldPositions = positions (module.fields.map (·.name))

variable {b : Backend} {m : Metadata} {id : BackendId} {module : Module}

theorem Binds.kernelNames (h : b.Binds id m module) :
    module.kernelNames = m.kernels.map (·.name) := by
  rw [← h.kernels, List.map_map]
  rfl

theorem Binds.fieldNames (h : b.Binds id m module) :
    module.fieldNames = m.fields.map (·.name) := by
  rw [Module.fieldNames, h.fields]

-- ---------------------------------------------------------------------------
-- One lemma for each part of a bind
-- ---------------------------------------------------------------------------

variable {e : BindError}

theorem checkTarget_ok {u : Unit} : b.checkTarget m = .ok u ↔ b.RunsTarget m := by
  unfold checkTarget RunsTarget
  split
  · rename_i wanted given hw hg
    split <;> simp [*]
  · rename_i hnone
    simp only [true_iff]
    intro wanted given hw hg
    exact absurd hg (hnone wanted given hw)

theorem checkTarget_error :
    b.checkTarget m = .error e ↔ ∃ wanted given, m.arch = some wanted ∧ b.arch = some given ∧
      wanted ≠ given ∧ e = .targetMismatch wanted given := by
  unfold checkTarget
  split
  · rename_i wanted given hw hg
    split
    · simp [*]
    · simp [*, eq_comm]
  · rename_i hnone
    simp only [reduceCtorEq, false_iff]
    rintro ⟨wanted, given, hw, hg, -⟩
    exact hnone wanted given hw hg

theorem bindKernel_ok {k : Kernel} {bound : BoundKernel} :
    (b.bindKernel k).outcome = .ok bound ↔
      bound.kernel = k ∧ b.resolve bound.symbol = some bound.entry := by
  obtain ⟨name, symbol, entry, args⟩ := bound
  obtain ⟨kname, ksymbol, kargs⟩ := k
  unfold bindKernel
  split
  · rename_i hnone
    simp only [Attempt.outcome_fail, reduceCtorEq, BoundKernel.kernel, Kernel.mk.injEq, false_iff]
    rintro ⟨⟨-, rfl, -⟩, hsome⟩
    cases hnone.symm.trans hsome
  · rename_i found hsome
    simp only [Attempt.outcome_bind, Attempt.outcome_tell, Attempt.outcome_pure, bind_ok,
      Except.ok.injEq, BoundKernel.mk.injEq, BoundKernel.kernel, Kernel.mk.injEq]
    constructor
    · rintro ⟨-, -, rfl, rfl, rfl, rfl⟩
      exact ⟨⟨rfl, rfl, rfl⟩, hsome⟩
    · rintro ⟨⟨rfl, rfl, rfl⟩, hentry⟩
      have hfound := Option.some.inj (hsome.symm.trans hentry)
      exact ⟨(), trivial, rfl, rfl, hfound, rfl⟩

theorem bindKernel_error {k : Kernel} :
    (b.bindKernel k).outcome = .error e ↔
      ¬ b.Resolves k ∧ .unresolvedSymbol k.name k.symbol = e := by
  unfold bindKernel Resolves
  split
  · simp [*]
  · simp [*, bind_error]

theorem exists_bindKernel {k : Kernel} :
    (∃ bound, (b.bindKernel k).outcome = .ok bound) ↔ b.Resolves k := by
  cases h : (b.bindKernel k).outcome with
  | ok bound =>
    obtain ⟨rfl, hentry⟩ := bindKernel_ok.mp h
    simp [Resolves, BoundKernel.kernel, hentry]
  | error e => simp [(bindKernel_error.mp h).1]

theorem outcome_bindKernels {ks : List Kernel} :
    (b.bindKernels ks).outcome = ks.mapM fun k => (b.bindKernel k).outcome := by
  induction ks with
  | nil => rfl
  | cons k rest ih =>
    simp only [bindKernels, Attempt.outcome_bind, Attempt.outcome_pure, ih, List.mapM_cons]
    rfl

theorem bindKernels_ok {ks : List Kernel} {bound : List BoundKernel} :
    (b.bindKernels ks).outcome = .ok bound ↔
      bound.map BoundKernel.kernel = ks ∧ ∀ k ∈ bound, b.resolve k.symbol = some k.entry := by
  induction ks generalizing bound with
  | nil => cases bound <;> simp [bindKernels]
  | cons k rest ih =>
    simp only [bindKernels, Attempt.outcome_bind, Attempt.outcome_pure, bind_ok, bindKernel_ok, ih,
      Except.ok.injEq]
    constructor
    · rintro ⟨first, ⟨hfirst, hentry⟩, others, ⟨hothers, hentries⟩, rfl⟩
      rw [List.map_cons, hfirst, hothers, List.forall_mem_cons]
      exact ⟨rfl, hentry, hentries⟩
    · rintro ⟨hmap, hentries⟩
      obtain ⟨first, others, rfl, hfirst, hothers⟩ := List.map_eq_cons_iff.mp hmap
      rw [List.forall_mem_cons] at hentries
      exact ⟨first, ⟨hfirst, hentries.1⟩, others, ⟨hothers, hentries.2⟩, rfl⟩

theorem exists_bindKernels {ks : List Kernel} :
    (∃ bound, (b.bindKernels ks).outcome = .ok bound) ↔ ∀ k ∈ ks, b.Resolves k := by
  rw [outcome_bindKernels]
  exact mapM_isOk fun k => exists_bindKernel

theorem bindKernels_error {ks : List Kernel} :
    (b.bindKernels ks).outcome = .error e ↔
      ∃ k, ks.find? (¬ b.Resolves ·) = some k ∧ .unresolvedSymbol k.name k.symbol = e := by
  rw [outcome_bindKernels, mapM_error fun k => exists_bindKernel]
  refine exists_congr fun k => and_congr_right fun hk => ?_
  have hmissing : ¬ b.Resolves k := by simpa using List.find?_some hk
  rw [bindKernel_error, and_iff_right hmissing]

theorem bindField_eq (b : Backend) (requireDeclared : Bool) (f : Field) :
    b.bindField requireDeclared f =
      if b.Admits requireDeclared f then .ok f
      else .error (.fieldMismatch f (b.declared f.name)) := by
  cases h : b.declared f.name with
  | some declared =>
    simp only [bindField, h, admits_of_declared h, Field.sameLayout, Bool.and_eq_true,
      decide_eq_true_eq]
  | none => cases requireDeclared <;> simp [bindField, h, admits_of_undeclared h]

theorem bindField_ok {requireDeclared : Bool} {f g : Field} :
    b.bindField requireDeclared f = .ok g ↔ f = g ∧ b.Admits requireDeclared f := by
  rw [bindField_eq]
  split <;> simp [*]

theorem bindField_error {requireDeclared : Bool} {f : Field} :
    b.bindField requireDeclared f = .error e ↔
      ¬ b.Admits requireDeclared f ∧ .fieldMismatch f (b.declared f.name) = e := by
  rw [bindField_eq]
  split <;> simp [*]

theorem exists_bindField {requireDeclared : Bool} {f : Field} :
    (∃ g, b.bindField requireDeclared f = .ok g) ↔ b.Admits requireDeclared f := by
  simp [bindField_ok]

theorem eq_of_bindFields {requireDeclared : Bool} {fs gs : List Field}
    (h : b.bindFields requireDeclared fs = .ok gs) : gs = fs := by
  have hmap : gs.map id = fs.map id :=
    map_of_mapM (fun _ _ hb => (bindField_ok.mp hb).1.symm) h
  rwa [List.map_id, List.map_id] at hmap

theorem bindFields_ok {requireDeclared : Bool} {fs gs : List Field} :
    b.bindFields requireDeclared fs = .ok gs ↔
      gs = fs ∧ ∀ f ∈ fs, b.Admits requireDeclared f := by
  rw [← mapM_isOk fun f => exists_bindField]
  constructor
  · intro h
    exact ⟨eq_of_bindFields h, gs, h⟩
  · rintro ⟨rfl, others, h⟩
    rwa [eq_of_bindFields h] at h

theorem bindFields_error {requireDeclared : Bool} {fs : List Field} :
    b.bindFields requireDeclared fs = .error e ↔
      ∃ f, fs.find? (¬ b.Admits requireDeclared ·) = some f ∧
        .fieldMismatch f (b.declared f.name) = e := by
  rw [bindFields, mapM_error fun f => exists_bindField]
  refine exists_congr fun f => and_congr_right fun hf => ?_
  have hrefused : ¬ b.Admits requireDeclared f := by simpa using List.find?_some hf
  rw [bindField_error, and_iff_right hrefused]

-- ---------------------------------------------------------------------------
-- Against one backend
-- ---------------------------------------------------------------------------

variable {o : LoadOptions}

theorem resolves_of_entries {bound : List BoundKernel} {ks : List Kernel}
    (hk : bound.map BoundKernel.kernel = ks)
    (he : ∀ k ∈ bound, b.resolve k.symbol = some k.entry) : ∀ k ∈ ks, b.Resolves k := by
  subst hk
  rw [List.forall_mem_map]
  intro k hk
  exact Option.isSome_iff_exists.mpr ⟨k.entry, he k hk⟩

theorem bind_ok_iff :
    (b.bind id o m).outcome = .ok module ↔ b.Suits o.requireDeclared m ∧ b.Binds id m module := by
  simp only [Backend.bind, Attempt.outcome_bind, Attempt.outcome_lift, Attempt.outcome_tell,
    Attempt.outcome_pure, bind_ok, checkTarget_ok, bindKernels_ok, bindFields_ok, Except.ok.injEq]
  constructor
  · rintro ⟨-, ht, bound, ⟨hk, he⟩, fields, ⟨rfl, hf⟩, -, -, rfl⟩
    exact ⟨⟨ht, resolves_of_entries hk he, hf⟩, ⟨rfl, rfl, rfl, hk, he, rfl, rfl, rfl⟩⟩
  · rintro ⟨⟨ht, -, hf⟩, ⟨hm, hid, hname, hk, he, hfields, hkp, hfp⟩⟩
    refine ⟨(), ht, module.kernels, ⟨hk, he⟩, m.fields, ⟨rfl, hf⟩, (), trivial, ?_⟩
    cases module
    simp_all [Module.build]

theorem bind_error_iff :
    (b.bind id o m).outcome = .error e ↔ b.Refuses o.requireDeclared m e := by
  simp only [Backend.bind, Attempt.outcome_bind, Attempt.outcome_lift, Attempt.outcome_tell,
    Attempt.outcome_pure, bind_error, checkTarget_ok, checkTarget_error, bindKernels_error,
    bindFields_error, bindFields_ok]
  constructor
  · rintro (⟨wanted, given, hw, hg, hne, rfl⟩ | ⟨-, ht, h⟩)
    · exact .target hw hg hne
    rcases h with ⟨k, hk, rfl⟩ | ⟨bound, hbound, h⟩
    · exact .kernel ht hk
    rcases h with ⟨f, hf, rfl⟩ | ⟨fields, -, h⟩
    · exact .field ht (exists_bindKernels.mp ⟨bound, hbound⟩) hf
    · simp at h
  · rintro (⟨hw, hg, hne⟩ | ⟨ht, hk⟩ | ⟨ht, hk, hf⟩)
    · exact .inl ⟨_, _, hw, hg, hne, rfl⟩
    · exact .inr ⟨(), ht, .inl ⟨_, hk, rfl⟩⟩
    · obtain ⟨bound, hbound⟩ := exists_bindKernels.mpr hk
      exact .inr ⟨(), ht, .inr ⟨bound, hbound, .inl ⟨_, hf, rfl⟩⟩⟩

theorem exists_bind : (∃ module, (b.bind id o m).outcome = .ok module) ↔
    b.Suits o.requireDeclared m := by
  constructor
  · rintro ⟨module, h⟩
    exact (bind_ok_iff.mp h).1
  · intro h
    obtain ⟨bound, hbound⟩ := exists_bindKernels.mpr h.kernels
    obtain ⟨hk, he⟩ := bindKernels_ok.mp hbound
    refine ⟨Module.build m id b.name bound m.fields, bind_ok_iff.mpr ⟨h, ?_⟩⟩
    exact ⟨rfl, rfl, rfl, hk, he, rfl, rfl, rfl⟩

end Backend

-- ---------------------------------------------------------------------------
-- Against a backend that is registered
-- ---------------------------------------------------------------------------

namespace Registry

inductive Refuses (r : Registry Backend) (id : BackendId) (requireDeclared : Bool) (m : Metadata) :
    BindError → Prop
  | unavailable : r.get? id = none → Refuses r id requireDeclared m (.backendUnavailable id)
  | backend {b e} : r.get? id = some b → b.Refuses requireDeclared m e →
      Refuses r id requireDeclared m e

variable {r : Registry Backend} {id : BackendId} {o : LoadOptions} {m : Metadata}

theorem bind_ok_iff {module : Module} :
    (r.bind id o m).outcome = .ok module ↔
      ∃ b, r.get? id = some b ∧ b.Suits o.requireDeclared m ∧ b.Binds id m module := by
  unfold Registry.bind
  cases h : r.get? id with
  | none => simp
  | some b => simp [Backend.bind_ok_iff]

theorem bind_error_iff {e : BindError} :
    (r.bind id o m).outcome = .error e ↔ r.Refuses id o.requireDeclared m e := by
  unfold Registry.bind
  cases h : r.get? id with
  | none =>
    simp only [Attempt.outcome_fail, Except.error.injEq]
    constructor
    · rintro rfl
      exact .unavailable h
    · rintro (_ | ⟨hb, _⟩)
      · rfl
      · cases h.symm.trans hb
  | some b =>
    simp only [Backend.bind_error_iff]
    constructor
    · exact .backend h
    · rintro (hn | ⟨hb, he⟩)
      · cases h.symm.trans hn
      · obtain rfl := Option.some.inj (h.symm.trans hb)
        exact he

theorem exists_bind : (∃ module, (r.bind id o m).outcome = .ok module) ↔
    ∃ b, r.get? id = some b ∧ b.Suits o.requireDeclared m := by
  unfold Registry.bind
  cases h : r.get? id with
  | none => simp
  | some b => simp [Backend.exists_bind]

theorem bind_congr_options {o' : LoadOptions} (h : o'.requireDeclared = o.requireDeclared) :
    r.bind id o' m = r.bind id o m := by
  unfold Registry.bind Backend.bind
  rw [h]

/-- A bind gives a module exactly if the id names a backend that the metadata suits. The module
holds what was declared, in declared order, with the backend's entry points. Otherwise the error is
the first fault: no backend, then another architecture, then the first kernel without an entry
point, then the first field that the backend does not admit. Of the options only the one that asks
for declarations has a part in it. -/
theorem bind_outcome (r : Registry Backend) (id : BackendId) (o : LoadOptions) (m : Metadata) :
    ((∃ module, (r.bind id o m).outcome = .ok module) ↔
      ∃ b, r.get? id = some b ∧ b.Suits o.requireDeclared m) ∧
    (∀ module, (r.bind id o m).outcome = .ok module →
      ∃ b, r.get? id = some b ∧ b.Binds id m module) ∧
    (∀ e, (r.bind id o m).outcome = .error e ↔ r.Refuses id o.requireDeclared m e) ∧
    (∀ o' : LoadOptions, o'.requireDeclared = o.requireDeclared →
      r.bind id o' m = r.bind id o m) := by
  refine ⟨exists_bind, fun module h => ?_, fun e => bind_error_iff, fun o' h =>
    bind_congr_options h⟩
  obtain ⟨b, hb, -, hbinds⟩ := bind_ok_iff.mp h
  exact ⟨b, hb, hbinds⟩

def adder : Backend :=
  let table : SymbolTable := { name := "host", arch := some "x86_64" }
  let field : Field := { name := "x", type := .f32, shape := [4] }
  ((table.define "k_add" ⟨0x10, by decide⟩).declare field).backend

def ofAdder : Registry Backend := { slots := [⟨0, some adder⟩] }

/-- Kernels that share a symbol, a field of two and one that nobody has declared are bound; with
declarations required the second field is the fault, and a missing symbol comes before it. -/
theorem bind_outcome_of_adder :
    let id : BackendId := ⟨0, 0⟩
    let add : Kernel := { name := "add", symbol := "k_add", args := [.i32, .i32] }
    let x : Field := { name := "x", type := .f32, shape := [4] }
    let y : Field := { name := "y", type := .i32 }
    let m : Metadata :=
      { version := 1, kernels := [add, { add with name := "plus" }], fields := [x, y] }
    let lacking : Metadata :=
      { m with kernels := m.kernels ++ [⟨"scale", "k_scale", []⟩, ⟨"shift", "k_shift", []⟩] }
    (∃ module, (ofAdder.bind id {} m).outcome = .ok module ∧
      ∃ b, ofAdder.get? id = some b ∧ b.Binds id m module) ∧
    (ofAdder.bind id { requireDeclared := true } m).outcome = .error (.fieldMismatch y none) ∧
    (ofAdder.bind id { requireDeclared := true } lacking).outcome =
      .error (.unresolvedSymbol "scale" "k_scale") ∧
    ofAdder.bind id { versions := ⟨5, 1⟩, verify := false } m = ofAdder.bind id {} m := by
  intro id add x y m lacking
  obtain ⟨hok, hbinds, -, hoptions⟩ := bind_outcome ofAdder id {} m
  obtain ⟨-, -, herror, -⟩ := bind_outcome ofAdder id { requireDeclared := true } m
  obtain ⟨-, -, hlacking, -⟩ := bind_outcome ofAdder id { requireDeclared := true } lacking
  have hb : ofAdder.get? id = some adder := rfl
  have htarget : adder.RunsTarget m := nofun
  obtain ⟨module, hm⟩ := hok.mpr ⟨adder, hb, htarget, by decide, by decide⟩
  refine ⟨⟨module, hm, hbinds module hm⟩, ?_, ?_, hoptions _ rfl⟩
  · exact (herror _).mpr (.backend hb (.field (f := y) htarget (by decide) (by decide)))
  · exact (hlacking _).mpr (.backend hb
      (.kernel (k := ⟨"scale", "k_scale", []⟩) htarget (by decide)))

end Registry
end Precompiled
