import Precompiled.Proofs.Artifact.Acceptance
import Precompiled.Proofs.Descriptor
import Precompiled.Proofs.Load.Outcome
import Precompiled.Proofs.Metadata.Document
import Precompiled.Proofs.Metadata.Record

/-!
# What a host can rely on

Whatever is in the files of an artifact and whatever the options say: the module that a load gives
was read from an accepted version of the format, and its names, entry points and sizes are sound.
-/

namespace Precompiled

open Artifact (Reader)
open Storage (Files Path)

/-- Count and size of a field are there and are the products that its dimensions make. -/
structure Field.Exact (f : Field) : Prop where
  storable : ∀ value ∈ f.shape, value ≤ maxDimension
  count : ∃ count, f.count? = some count ∧ count.toNat = volume f.shape
  bytes : ∃ bytes, f.bytes? = some bytes ∧ bytes.toNat = volume f.shape * f.type.size.toNat
  bounded : volume f.shape < UInt64.size ∧ volume f.shape * f.type.size.toNat < UInt64.size

theorem Field.Fits.exact {f : Field} (h : f.Fits) : f.Exact := by
  obtain ⟨bytes, hbytes⟩ := h.sized
  obtain ⟨count, hcount, -⟩ := bytes?_eq_some.mp hbytes
  have hc := toNat_count hcount
  have hb := toNat_bytes hbytes
  exact ⟨h.storable, ⟨count, hcount, hc⟩, ⟨bytes, hbytes, hb⟩, hc ▸ count.toNat_lt_size,
    hb ▸ bytes.toNat_lt_size⟩

/-- A module on which a host can rely, as one that was loaded from files with some options against
the backend of an id. -/
structure Reliable (files : Files) (r : Registry Backend) (o : LoadOptions) (path : Path)
    (id : BackendId) (module : Module) : Prop where
  window : 1 ≤ o.versions.min ∧ o.versions.min ≤ o.versions.max ∧ o.versions.max ≤ 5
  accepted : module.metadata.version ∈ o.versions
  marker : Reader.States files path module.metadata.version
  embedded : ∃ record, Reader.Holds files path record ∧
    record.version = module.metadata.version ∧ record.metadata = .ok module.metadata
  declared : module.kernels.map BoundKernel.kernel = module.metadata.kernels ∧
    module.fields = module.metadata.fields
  kernelNames : module.kernelNames.Nodup ∧ ∀ k ∈ module.kernels, k.name ≠ ""
  fieldNames : module.fieldNames.Nodup ∧ ∀ f ∈ module.fields, f.name ≠ ""
  symbols : ∀ k ∈ module.kernels, k.symbol ≠ ""
  sizes : ∀ f ∈ module.fields, f.Exact
  backend : ∃ b, r.get? id = some b ∧ b.RunsTarget module.metadata ∧
    (∀ k ∈ module.kernels, k.entry.address ≠ 0 ∧ b.resolve k.symbol = some k.entry) ∧
    ∀ f ∈ module.fields, ∀ declared, b.declared f.name = some declared →
      declared.type = f.type ∧ declared.shape = f.shape

variable {files : Files} {r : Registry Backend} {o : LoadOptions} {path : Path} {id : BackendId}
  {module : Module}

namespace Backend.Binds

variable {b : Backend} {m : Metadata}

theorem forall_kernels (h : b.Binds id m module) {p : Kernel → Prop} (hp : ∀ k ∈ m.kernels, p k) :
    ∀ k ∈ module.kernels, p k.kernel := by
  rwa [← h.kernels, List.forall_mem_map] at hp

end Backend.Binds

/-- A load from any files gives only modules that a host can rely on, whatever the options are, also
those that nobody has checked before. -/
theorem load_reliable (files : Files) (r : Registry Backend) (o : LoadOptions) (path : Path)
    (id : BackendId) (module : Module) (h : (load files r o path id).outcome = .ok module) :
    Reliable files r o path id module := by
  obtain ⟨ho, m, hread, hbind⟩ := load_ok_iff.mp h
  obtain ⟨hsound, hversion, hmarker, hembedded⟩ := Reader.sound_of_read hread
  obtain ⟨b, hb, hsuits, hbinds⟩ := Registry.bind_ok_iff.mp hbind
  obtain rfl := hbinds.metadata
  refine ⟨LoadOptions.check_ok.mp ho, hversion, hmarker, hembedded,
    ⟨hbinds.kernels, hbinds.fields⟩, ⟨?_, ?_⟩, ⟨?_, ?_⟩, ?_, ?_, b, hb, hsuits.target,
    fun k hk => ⟨k.entry.nonzero, hbinds.entries k hk⟩, ?_⟩
  · rw [hbinds.kernelNames]
    exact hsound.kernelsDistinct
  · exact hbinds.forall_kernels hsound.kernelsNamed
  · rw [hbinds.fieldNames]
    exact hsound.fieldsDistinct
  · rw [hbinds.fields]
    exact hsound.fieldsNamed
  · exact hbinds.forall_kernels hsound.symbols
  · rw [hbinds.fields]
    exact fun f hf => (hsound.fits f hf).exact
  · rw [hbinds.fields]
    exact fun f hf declared hd => (Backend.admits_of_declared hd).mp (hsuits.fields f hf)

def Metadata.adder : Metadata :=
  { version := 3
    kernels := [{ name := "add", symbol := "k_add", args := [.i32, .i32] }]
    fields := [{ name := "x", type := .f32, shape := [4] }] }

/-- An artifact that no writer has left like this: blanks and a sign at the version, the record on
one line, no check value. -/
def looseTree : Storage.FileTree :=
  ⟨[(Utf8.encode "art", .directory
    [(Utf8.encode Artifact.versionFile, .file (Utf8.encode "\t+03 ")),
     (Utf8.encode Artifact.metadataFile, .file Metadata.adder.record.compact)])]⟩

theorem read_looseTree {reader : Reader} (h : 3 ∈ reader.versions) :
    (reader.read looseTree.files "art").outcome = .ok .adder :=
  Reader.read_ok_iff.mpr ⟨rfl, 3, Metadata.adder.record.compact, Metadata.adder.record,
    ⟨"\t+03 ", rfl, rfl⟩, h, rfl, .inr (.inl rfl), Record.parse_compact _, rfl,
    Metadata.metadata_record rfl⟩

theorem load_reliable_of_loose :
    let o : LoadOptions := { versions := ⟨2, 3⟩, requireDeclared := true }
    ∃ module, (load looseTree.files Registry.ofAdder o "art" ⟨0, 0⟩).outcome = .ok module ∧
      Reliable looseTree.files Registry.ofAdder o "art" ⟨0, 0⟩ module := by
  intro o
  have hread : (o.reader.read looseTree.files "art").outcome = .ok .adder :=
    read_looseTree (by decide)
  have hsuits : Registry.adder.Suits o.requireDeclared .adder := ⟨nofun, by decide, by decide⟩
  have hb : Registry.ofAdder.get? ⟨0, 0⟩ = some Registry.adder := rfl
  obtain ⟨module, hbind⟩ := Registry.exists_bind.mpr ⟨Registry.adder, hb, hsuits⟩
  have hload := load_ok_iff.mpr ⟨rfl, .adder, hread, hbind⟩
  exact ⟨module, hload, load_reliable looseTree.files Registry.ofAdder o "art" ⟨0, 0⟩ module hload⟩

end Precompiled
