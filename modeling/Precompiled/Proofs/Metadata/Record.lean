import Precompiled.Metadata.Record
import Precompiled.Proofs.Metadata.Soundness

/-!
# Records round trip

Sound metadata is got back from the record that stores it, and a record that is read is got back
from its metadata. Only the dimensions need soundness: one that is too large is stored as another
one.
-/

namespace Precompiled

-- ---------------------------------------------------------------------------
-- Tags and dimensions
-- ---------------------------------------------------------------------------

theorem readTag_tag (owner : TagOwner) (type : ElementType) :
    readTag owner type.tag = .ok type := by
  simp [readTag, ElementType.ofTag?_tag]

theorem tag_of_readTag {owner : TagOwner} {tag : String} {type : ElementType}
    (h : readTag owner tag = .ok type) : type.tag = tag := by
  unfold readTag at h
  split at h
  · rename_i type' ht
    cases h
    exact ElementType.tag_of_ofTag? ht
  · cases h

theorem storedDimension_of_le {value : UInt64} (h : value ≤ maxDimension) :
    storedDimension value = value.toInt64 := if_pos h

theorem stored_nonneg {value : UInt64} (h : value ≤ maxDimension) : 0 ≤ storedDimension value := by
  have hmax : maxDimension.toNat = 9223372036854775807 := rfl
  have hle : value.toNat ≤ maxDimension.toNat := UInt64.le_iff_toNat_le.mp h
  have hint : value.toInt64.toInt = value.toNat := by
    rw [Int64.toInt, UInt64.toBitVec_toInt64, BitVec.toInt_eq_toNat_of_lt]
    · rfl
    · rw [UInt64.toNat_toBitVec]; omega
  rw [storedDimension_of_le h, Int64.le_iff_toInt_le, hint, Int64.toInt_zero]
  omega

theorem readDimension_ok {field : String} {axis : Nat} {stored : Int64} {value : UInt64} :
    readDimension field axis stored = .ok value ↔ 0 ≤ stored ∧ stored.toUInt64 = value := by
  unfold readDimension
  split
  · rename_i hneg
    simp [Int64.not_le.mpr hneg]
  · rename_i hneg
    simp [Int64.not_lt.mp hneg]

theorem readDimension_stored (field : String) (axis : Nat) {value : UInt64}
    (h : value ≤ maxDimension) : readDimension field axis (storedDimension value) = .ok value := by
  refine readDimension_ok.mpr ⟨stored_nonneg h, ?_⟩
  rw [storedDimension_of_le h, UInt64.toUInt64_toInt64]

theorem le_of_readDimension {field : String} {axis : Nat} {stored : Int64} {value : UInt64}
    (h : readDimension field axis stored = .ok value) : value ≤ maxDimension := by
  obtain ⟨hnonneg, rfl⟩ := readDimension_ok.mp h
  exact Int64.toUInt64_le hnonneg (Int64.le_maxValue stored)

theorem stored_of_readDimension {field : String} {axis : Nat} {stored : Int64} {value : UInt64}
    (h : readDimension field axis stored = .ok value) : storedDimension value = stored := by
  rw [storedDimension_of_le (le_of_readDimension h), ← (readDimension_ok.mp h).2,
    Int64.toInt64_toUInt64]

-- ---------------------------------------------------------------------------
-- Descriptors
-- ---------------------------------------------------------------------------

theorem Kernel.descriptor_record (k : Kernel) : k.record.descriptor = .ok k := by
  have hargs : (k.args.map ElementType.tag).zipIdx.mapM (fun entry =>
      readTag (.argument k.name entry.2) entry.1) = .ok k.args :=
    mapM_zipIdx (fun type _ index => readTag_tag (.argument k.name index) type) 0
  exact bind_ok.mpr ⟨k.args, hargs, rfl⟩

theorem Kernel.record_of_descriptor {stored : Record.Kernel} {k : Kernel}
    (h : stored.descriptor = .ok k) : k.record = stored := by
  obtain ⟨args, hargs, hk⟩ := bind_ok.mp h
  have htags : args.map ElementType.tag = stored.args :=
    (map_of_mapM (fun _ _ ht => tag_of_readTag ht) hargs).trans (List.zipIdx_map_fst 0 _)
  obtain rfl := pure_ok.mp hk
  rw [Kernel.record, htags]

theorem Field.descriptor_record {f : Field} (h : f.Storable) : f.record.descriptor = .ok f := by
  have hshape : (f.shape.map storedDimension).zipIdx.mapM (fun entry =>
      readDimension f.name entry.2 entry.1) = .ok f.shape :=
    mapM_zipIdx (fun value hv axis => readDimension_stored f.name axis (h value hv)) 0
  exact bind_ok.mpr ⟨f.type, readTag_tag _ f.type, bind_ok.mpr ⟨f.shape, hshape, rfl⟩⟩

theorem Field.record_of_descriptor {stored : Record.Field} {f : Field}
    (h : stored.descriptor = .ok f) : f.record = stored := by
  obtain ⟨type, htype, h⟩ := bind_ok.mp h
  obtain ⟨shape, hshape, hf⟩ := bind_ok.mp h
  have hstored : shape.map storedDimension = stored.shape :=
    (map_of_mapM (fun _ _ hd => stored_of_readDimension hd) hshape).trans (List.zipIdx_map_fst 0 _)
  obtain rfl := pure_ok.mp hf
  rw [Field.record, hstored, tag_of_readTag htype]

theorem Field.storable_of_descriptor {stored : Record.Field} {f : Field}
    (h : stored.descriptor = .ok f) : f.Storable := by
  obtain ⟨type, -, h⟩ := bind_ok.mp h
  obtain ⟨shape, hshape, hf⟩ := bind_ok.mp h
  obtain rfl := pure_ok.mp hf
  exact forall_of_mapM (fun _ _ hd => le_of_readDimension hd) hshape

-- ---------------------------------------------------------------------------
-- Metadata
-- ---------------------------------------------------------------------------

namespace Metadata

/-- A record stores metadata whose dimensions it has not made smaller. -/
structure StoredBy (m : Metadata) (r : Record) : Prop where
  record : m.record = r
  storable : ∀ f ∈ m.fields, f.Storable

theorem StoredBy.metadata {m : Metadata} {r : Record} (h : m.StoredBy r) :
    r.metadata = m.check >>= fun _ => pure m := by
  obtain ⟨rfl, hstorable⟩ := h
  have hkernels : m.record.kernels.mapM Record.Kernel.descriptor = .ok m.kernels :=
    mapM_map fun k _ => k.descriptor_record
  have hfields : m.record.fields.mapM Record.Field.descriptor = .ok m.fields :=
    mapM_map fun f hf => Field.descriptor_record (hstorable f hf)
  rw [Record.metadata, hkernels, hfields]
  rfl

theorem storedBy_of_descriptors {r : Record} {kernels : List Kernel} {fields : List Field}
    (hkernels : r.kernels.mapM Record.Kernel.descriptor = .ok kernels)
    (hfields : r.fields.mapM Record.Field.descriptor = .ok fields) :
    StoredBy { version := r.version, arch := r.arch, kernels, fields } r := by
  have hk : kernels.map Kernel.record = r.kernels :=
    (map_of_mapM (fun _ _ => Kernel.record_of_descriptor) hkernels).trans (List.map_id _)
  have hf : fields.map Field.record = r.fields :=
    (map_of_mapM (fun _ _ => Field.record_of_descriptor) hfields).trans (List.map_id _)
  refine ⟨?_, forall_of_mapM (fun _ _ => Field.storable_of_descriptor) hfields⟩
  rw [Metadata.record, hk, hf]

theorem metadata_record {m : Metadata} (h : m.check = .ok ()) : m.record.metadata = .ok m := by
  have hstored : m.StoredBy m.record := ⟨rfl, fun f hf => ((check_ok.mp h).fits f hf).storable⟩
  rw [hstored.metadata, h]
  rfl

theorem record_of_metadata {r : Record} {m : Metadata} (h : r.metadata = .ok m) :
    m.check = .ok () ∧ m.record = r := by
  obtain ⟨kernels, hkernels, h⟩ := bind_ok.mp h
  obtain ⟨fields, hfields, h⟩ := bind_ok.mp h
  obtain ⟨⟨⟩, hcheck, hm⟩ := bind_ok.mp h
  obtain rfl := pure_ok.mp hm
  exact ⟨hcheck, (storedBy_of_descriptors hkernels hfields).record⟩

/-- Reading records and storing metadata are inverse to each other, between the records that are
read and the metadata that is sound. Metadata comes back from its record exactly if it is sound, so
what comes back never has a dimension that storing has made smaller. -/
theorem record_inverse :
    (∀ m : Metadata, m.record.metadata = .ok m ↔ m.check = .ok ()) ∧
    (∀ (r : Record) (m : Metadata), r.metadata = .ok m ↔ m.check = .ok () ∧ m.record = r) ∧
    (∀ m : Metadata, m.record.metadata = .ok m →
      ∀ f ∈ m.fields, ∀ value ∈ f.shape, value ≤ maxDimension) := by
  refine ⟨fun m => ⟨fun h => (record_of_metadata h).1, metadata_record⟩, fun r m => ?_,
    fun m h f hf => ((check_ok.mp (record_of_metadata h).1).fits f hf).storable⟩
  constructor
  · exact record_of_metadata
  · rintro ⟨hcheck, rfl⟩
    exact metadata_record hcheck

def ofDimension (value : UInt64) : Metadata :=
  { version := 1, fields := [{ name := "bytes", type := .u8, shape := [value] }] }

/-- The largest dimension that can be stored comes back. The next one is stored as the largest, and
does not. -/
theorem record_inverse_of_largest :
    (ofDimension maxDimension).record.metadata = .ok (ofDimension maxDimension) ∧
      (∀ f ∈ (ofDimension maxDimension).fields, ∀ value ∈ f.shape, value ≤ maxDimension) ∧
      (ofDimension (maxDimension + 1)).record = (ofDimension maxDimension).record ∧
      (ofDimension (maxDimension + 1)).record.metadata ≠ .ok (ofDimension (maxDimension + 1)) := by
  have hok : (ofDimension maxDimension).record.metadata = .ok (ofDimension maxDimension) :=
    (record_inverse.1 _).mpr rfl
  refine ⟨hok, record_inverse.2.2 _ hok, rfl, fun h => ?_⟩
  have hcheck := (record_inverse.1 _).mp h
  cases hcheck

end Metadata
end Precompiled
