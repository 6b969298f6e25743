import Precompiled.Proofs.Artifact.RoundTrip
import Precompiled.Proofs.Load.Soundness
import Precompiled.Proofs.Module.Lookup

/-!
# From the writer to the host

A load of an artifact that was written gives a module that exposes every declaration under its name,
if the metadata suits the backend, and else the fault of the bind.
-/

namespace Precompiled

open Artifact (Reader Writer checksumFile)
open Artifact.Reader (slashedPath)
open Storage (FileTree Path)

-- ---------------------------------------------------------------------------
-- What a module exposes
-- ---------------------------------------------------------------------------

/-- A module that gives each declaration of the metadata under its name, each kernel with the entry
point of the backend, and nothing under any other name. -/
structure Backend.Exposes (b : Backend) (m : Metadata) (module : Module) : Prop where
  metadata : module.metadata = m
  isSome_kernel : ∀ name, (module.kernel? name).isSome ↔ ∃ k ∈ m.kernels, k.name = name
  kernel : ∀ k ∈ m.kernels, ∃ bound, module.kernel? k.name = some bound ∧ bound.kernel = k ∧
    b.resolve k.symbol = some bound.entry
  isSome_field : ∀ name, (module.field? name).isSome ↔ ∃ f ∈ m.fields, f.name = name
  field : ∀ f ∈ m.fields, module.field? f.name = some f
  kernelNames : module.kernelNames = m.kernels.map (·.name)
  fieldNames : module.fieldNames = m.fields.map (·.name)

variable {b : Backend} {m : Metadata} {id : BackendId} {module : Module}

theorem Backend.Binds.exposes (h : b.Binds id m module)
    (hk : (m.kernels.map (·.name)).Nodup) (hf : (m.fields.map (·.name)).Nodup) :
    b.Exposes m module where
  metadata := h.metadata
  isSome_kernel name := by
    rw [Module.isSome_kernel? h.kernelPositions, h.kernelNames, List.mem_map]
  kernel k hmem := by
    rw [← h.kernels] at hmem
    obtain ⟨bound, hbound, rfl⟩ := List.mem_map.mp hmem
    refine ⟨bound, ?_, rfl, h.entries bound hbound⟩
    rw [← h.kernelNames] at hk
    rw [Module.kernel?_eq_find? h.kernelPositions]
    exact find?_reverse_of_nodup hk hbound
  isSome_field name := by
    rw [Module.isSome_field? h.fieldPositions, h.fieldNames, List.mem_map]
  field f hmem := by
    rw [← h.fields] at hmem hf
    rw [Module.field?_eq_find? h.fieldPositions]
    exact find?_reverse_of_nodup hf hmem
  kernelNames := h.kernelNames
  fieldNames := h.fieldNames

-- ---------------------------------------------------------------------------
-- Loading what was written
-- ---------------------------------------------------------------------------

variable {r : Registry Backend} {o : LoadOptions}

theorem Backend.Suits.exists_exposes (h : b.Suits o.requireDeclared m) (hb : r.get? id = some b)
    (hm : m.Sound) : ∃ module, (r.bind id o m).outcome = .ok module ∧ b.Exposes m module := by
  obtain ⟨module, hmodule⟩ := Registry.exists_bind.mpr ⟨b, hb, h⟩
  obtain ⟨b', hb', -, hbinds⟩ := Registry.bind_ok_iff.mp hmodule
  obtain rfl := Option.some.inj (hb.symm.trans hb')
  exact ⟨module, hmodule, hbinds.exposes hm.kernelsDistinct hm.fieldsDistinct⟩

/-- Metadata that was written is what a load with the default options binds, from every state that
the write may have begun in: the module exposes all of it if it suits the backend, and otherwise
the error is the fault of the bind. There is one case apart: the load fails where the path of the
checksum file is too long to be walked, and without a checksum the writer does not walk it. -/
theorem load_written (w : Writer) (t : FileTree) (dir : Path) (m : Metadata)
    (r : Registry Backend) (id : BackendId) (hd : dir.bytes ≠ [])
    (h : (w.write t dir m).2.outcome = .ok ()) :
    let outcome := (load (w.write t dir m).1.files r {} dir id).outcome
    (w.checksum = true ∨ (dir.join checksumFile).bytes.length ≤ Path.lengthLimit →
      (∀ b, r.get? id = some b → b.Suits false m →
        ∃ module, outcome = .ok module ∧ b.Exposes m module) ∧
      (∀ e, outcome = .error (.bind e) ↔ r.Refuses id false m e) ∧
      ((¬ ∃ b, r.get? id = some b ∧ b.Suits false m) → ∃ e, outcome = .error (.bind e))) ∧
    (w.checksum = false ∧ Path.lengthLimit < (dir.join checksumFile).bytes.length →
      outcome = .error (.artifact (.storage (dir.join checksumFile) .nameTooLong))) := by
  intro outcome
  have hwritten := Writer.written h
  obtain ⟨hversion, hcheck⟩ := Writer.check_ok.mp (Writer.write_ok h).1
  constructor
  · intro hwalk
    have hload : outcome = (r.bind id {} m).outcome.mapError .bind :=
      outcome_load_of_read rfl (hwritten.read_ok hd hcheck hversion (.inr hwalk))
    rw [hload]
    refine ⟨fun b hb hsuits => ?_, fun e => ?_, fun hnone => ?_⟩
    · obtain ⟨module, hmodule, hexposes⟩ :=
        Backend.Suits.exists_exposes (o := {}) hsuits hb (Metadata.check_ok.mp hcheck)
      exact ⟨module, mapError_ok.mpr hmodule, hexposes⟩
    · rw [mapError_error, ← Registry.bind_error_iff (o := {})]
      simp only [LoadError.bind.injEq, exists_eq_right]
    · cases ho : (r.bind id {} m).outcome with
      | ok module => exact absurd (Registry.exists_bind.mp ⟨module, ho⟩) hnone
      | error e => exact ⟨e, rfl⟩
  · rintro ⟨hw, hlong⟩
    exact load_error_of_read rfl (hwritten.read_tooLong hd hversion rfl hw hlong)

/-- An artifact at a path of a few slashes reaches a host that has the backend, and no other host.
At a path of so many slashes that the metadata file has room and the checksum file has not, it does
not reach the same host. -/
theorem load_written_of_slashes :
    let t : FileTree := ⟨[(Utf8.encode "art", .directory [])]⟩
    let w : Writer := { checksum := false }
    let id : BackendId := ⟨0, 0⟩
    (w.write t (slashedPath 2) .adder).2.outcome = .ok () ∧
      (w.write t (slashedPath 4078) .adder).2.outcome = .ok () ∧
      (∃ module,
        (load (w.write t (slashedPath 2) .adder).1.files .ofAdder {} (slashedPath 2) id).outcome =
          .ok module ∧ Registry.adder.Exposes .adder module) ∧
      (load (w.write t (slashedPath 2) .adder).1.files {} {} (slashedPath 2) id).outcome =
        .error (.bind (.backendUnavailable id)) ∧
      (load (w.write t (slashedPath 4078) .adder).1.files .ofAdder {} (slashedPath 4078)
          id).outcome =
        .error (.artifact (.storage ((slashedPath 4078).join checksumFile) .nameTooLong)) := by
  intro t w id
  have hd (n : Nat) : (slashedPath n).bytes ≠ [] := Reader.slashedPath_ne_nil n
  have hready (n : Nat) : Writer.Ready t (slashedPath n) [Utf8.encode "art"] :=
    ⟨⟨by rw [Reader.names_slashedPath]; rfl, rfl⟩, by decide⟩
  have hwrite (n : Nat) (hn : n + 4 + (Utf8.encode Artifact.metadataFile).length ≤ Path.lengthLimit)
      (hn' : n + 4 + (Utf8.encode Artifact.versionFile).length ≤ Path.lengthLimit) :
      (w.write t (slashedPath n) .adder).2.outcome = .ok () :=
    Writer.write_of_ready rfl (hd n) (hready n)
      (Reader.checkPath_join_slashedPath Artifact.plain_versionFile hn')
      (Reader.checkPath_join_slashedPath Artifact.plain_metadataFile hn)
      (fun h => absurd h (by decide))
  -- with 4078 slashes more the path of the metadata file has 4095 bytes, all that a path may have
  have hw := hwrite 2 (by decide) (by decide)
  have hwlong := hwrite 4078 (by decide) (by decide)
  have hfits := load_written w t (slashedPath 2) .adder .ofAdder id (hd 2) hw
  have hmissing := load_written w t (slashedPath 2) .adder {} id (hd 2) hw
  have hlong := load_written w t (slashedPath 4078) .adder .ofAdder id (hd 4078) hwlong
  rw [Reader.length_join_slashedPath] at hfits hmissing hlong
  have hsuits : Registry.adder.Suits false .adder := ⟨nofun, by decide, by decide⟩
  exact ⟨hw, hwlong, (hfits.1 (by decide)).1 Registry.adder rfl hsuits,
    ((hmissing.1 (by decide)).2.1 _).mpr (.unavailable rfl), hlong.2 (by decide)⟩

end Precompiled
