import Precompiled.Proofs.Metadata.Record

/-!
# The first fault

Which records are read, and which fault is reported of one that is not. A record is gone through
four times: for the tags of its kernels, for the tags and dimensions of its fields, and then, as
metadata, for the names and symbols of its kernels and for the names and sizes of its fields. Each
pass stops at the first item that has a fault, and no pass is made after one that has stopped.
-/

namespace Precompiled

-- ---------------------------------------------------------------------------
-- First faults of a list
-- ---------------------------------------------------------------------------

section
variable {α β ε : Type} {refuses : List α → α → ε → Prop}

/-- The fault of the first item that has one. Whether an item has a fault may depend on the items
before it. -/
def FirstFault (refuses : List α → α → ε → Prop) (items : List α) (e : ε) : Prop :=
  ∃ before item after, items = before ++ item :: after ∧ refuses before item e ∧
    ∀ earlier other later, before = earlier ++ other :: later → ∀ e', ¬ refuses earlier other e'

theorem firstFault_nil {e : ε} : ¬ FirstFault refuses [] e := by
  rintro ⟨before, item, after, h, -⟩
  simp at h

theorem firstFault_cons {x : α} {rest : List α} {e : ε} :
    FirstFault refuses (x :: rest) e ↔ refuses [] x e ∨
      (∀ e', ¬ refuses [] x e') ∧ FirstFault (fun before => refuses (x :: before)) rest e := by
  constructor
  · rintro ⟨before, item, after, heq, hitem, hclean⟩
    cases before with
    | nil =>
      obtain ⟨rfl, -⟩ := List.cons.inj heq
      exact .inl hitem
    | cons y before =>
      obtain ⟨rfl, rfl⟩ := List.cons.inj heq
      refine .inr ⟨hclean [] x before rfl, before, item, after, rfl, hitem, ?_⟩
      rintro earlier other later rfl
      exact hclean (x :: earlier) other later rfl
  · rintro (h | ⟨hx, before, item, after, rfl, hitem, hclean⟩)
    · exact ⟨[], x, rest, rfl, h, by simp⟩
    · refine ⟨x :: before, item, after, rfl, hitem, ?_⟩
      intro earlier other later heq
      cases earlier with
      | nil =>
        obtain ⟨rfl, -⟩ := List.cons.inj heq
        exact hx
      | cons y earlier =>
        obtain ⟨rfl, rfl⟩ := List.cons.inj heq
        exact hclean earlier other later rfl

/-- Whatever goes through a list item by item, and stops at a fault, finds the first one. -/
theorem firstFault_of_walk (walk : List α → List α → ε → Prop)
    (hnil : ∀ seen e, ¬ walk seen [] e)
    (hcons : ∀ seen x rest e, walk seen (x :: rest) e ↔
      refuses seen x e ∨ (∀ e', ¬ refuses seen x e') ∧ walk (seen ++ [x]) rest e)
    {items : List α} {e : ε} : walk [] items e ↔ FirstFault refuses items e := by
  have hwalk (seen : List α) :
      walk seen items e ↔ FirstFault (fun before => refuses (seen ++ before)) items e := by
    induction items generalizing seen with
    | nil => exact iff_of_false (hnil seen e) firstFault_nil
    | cons x rest ih =>
      rw [hcons, firstFault_cons, ih]
      simp only [List.append_nil, List.append_assoc, List.singleton_append]
  exact hwalk []

theorem firstFault_mapM {read : α → Except ε β} {xs : List α} {e : ε} :
    xs.mapM read = .error e ↔ FirstFault (fun _ x e => read x = .error e) xs e := by
  refine firstFault_of_walk (fun _ rest e => rest.mapM read = .error e)
    (by simp [pure, Except.pure]) fun seen x rest e => ?_
  rw [List.mapM_cons, bind_error]
  cases hx : read x with
  | error e' => simp
  | ok y => simp [bind_error, pure, Except.pure]

theorem firstFault_mapM_zipIdx {read : α × Nat → Except ε β} {xs : List α} {e : ε} :
    xs.zipIdx.mapM read = .error e ↔
      FirstFault (fun before x e => read (x, before.length) = .error e) xs e := by
  refine firstFault_of_walk (fun seen rest e => (rest.zipIdx seen.length).mapM read = .error e)
    (by simp [pure, Except.pure]) fun seen x rest e => ?_
  rw [List.zipIdx_cons, List.mapM_cons, bind_error, List.length_append, List.length_singleton]
  cases hx : read (x, seen.length) with
  | error e' => simp
  | ok y => simp [bind_error, pure, Except.pure]

end

-- ---------------------------------------------------------------------------
-- Faults
-- ---------------------------------------------------------------------------

def ElementType.IsTag (tag : String) : Prop := ∃ type : ElementType, type.tag = tag

open ElementType (IsTag)

def Record.Kernel.Faulty (k : Record.Kernel) : DescriptorFault → Prop :=
  FirstFault (fun before tag e => ¬ IsTag tag ∧ .unknownTag (.argument k.name before.length) tag = e)
    k.args

inductive Record.Field.Faulty (f : Record.Field) : DescriptorFault → Prop
  | type : ¬ IsTag f.type → Faulty f (.unknownTag (.field f.name) f.type)
  | dimension {e} : IsTag f.type →
      FirstFault (fun before value e =>
        value < 0 ∧ .negativeDimension f.name before.length value = e) f.shape e →
      Faulty f e

/-- The fault of a kernel after others whose names are taken. -/
inductive Kernel.Faulty (k : Kernel) (taken : List String) : DescriptorFault → Prop
  | unnamed : k.name = "" → Faulty k taken .unnamedKernel
  | symbol : k.name ≠ "" → k.symbol = "" → Faulty k taken (.missingSymbol k.name)
  | repeated : k.name ≠ "" → k.symbol ≠ "" → k.name ∈ taken →
      Faulty k taken (.repeatedKernel k.name)

/-- The fault of a field after others whose names are taken. -/
inductive Field.Faulty (f : Field) (taken : List String) : DescriptorFault → Prop
  | unnamed : f.name = "" → Faulty f taken .unnamedField
  | repeated : f.name ≠ "" → f.name ∈ taken → Faulty f taken (.repeatedField f.name)
  | oversized {e} : f.name ≠ "" → f.name ∉ taken →
      FirstFault (fun before value e =>
        maxDimension < value ∧ .dimensionTooLarge f.name before.length value = e) f.shape e →
      Faulty f taken e
  | overflow : f.name ≠ "" → f.name ∉ taken → f.Storable → f.bytes? = none →
      Faulty f taken (.sizeOverflow f.name)

inductive Metadata.Faulty (m : Metadata) : DescriptorFault → Prop
  | kernel {e} : FirstFault (fun before k => k.Faulty (before.map (·.name))) m.kernels e →
      Faulty m e
  | field {e} : (∀ k ∈ m.kernels, k.name ≠ "") → (∀ k ∈ m.kernels, k.symbol ≠ "") →
      (m.kernels.map (·.name)).Nodup →
      FirstFault (fun before f => f.Faulty (before.map (·.name))) m.fields e → Faulty m e

inductive Record.Faulty (r : Record) : DescriptorFault → Prop
  | kernel {e} : FirstFault (fun _ => Record.Kernel.Faulty) r.kernels e → Faulty r e
  | field {e} : (∀ k ∈ r.kernels, ∀ tag ∈ k.args, IsTag tag) →
      FirstFault (fun _ => Record.Field.Faulty) r.fields e → Faulty r e
  | metadata {m e} : Metadata.StoredBy m r → m.Faulty e → Faulty r e

structure Record.Accepted (r : Record) : Prop where
  arguments : ∀ k ∈ r.kernels, ∀ tag ∈ k.args, IsTag tag
  types : ∀ f ∈ r.fields, IsTag f.type
  dimensions : ∀ f ∈ r.fields, ∀ value ∈ f.shape, 0 ≤ value
  kernelsNamed : ∀ k ∈ r.kernels, k.name ≠ ""
  symbols : ∀ k ∈ r.kernels, k.symbol ≠ ""
  kernelsDistinct : (r.kernels.map (·.name)).Nodup
  fieldsNamed : ∀ f ∈ r.fields, f.name ≠ ""
  fieldsDistinct : (r.fields.map (·.name)).Nodup
  sized : ∀ f ∈ r.fields, ∀ type : ElementType, type.tag = f.type →
    ∃ bytes, (Precompiled.Field.mk f.name type (f.shape.map Int64.toUInt64)).bytes? = some bytes

-- ---------------------------------------------------------------------------
-- One lemma for each part of reading
-- ---------------------------------------------------------------------------

theorem readTag_ok {owner : TagOwner} {tag : String} {type : ElementType} :
    readTag owner tag = .ok type ↔ type.tag = tag :=
  ⟨tag_of_readTag, fun h => h ▸ readTag_tag owner type⟩

theorem readTag_error {owner : TagOwner} {tag : String} {e : DescriptorFault} :
    readTag owner tag = .error e ↔ ¬ IsTag tag ∧ .unknownTag owner tag = e := by
  unfold readTag
  split
  · rename_i type ht
    simp only [reduceCtorEq, false_iff, not_and]
    exact fun h => absurd ⟨type, ElementType.tag_of_ofTag? ht⟩ h
  · rename_i hnone
    have hno : ¬ IsTag tag := by
      rintro ⟨type, rfl⟩
      simp [ElementType.ofTag?_tag] at hnone
    simp [hno]

theorem readDimension_error {field : String} {axis : Nat} {value : Int64} {e : DescriptorFault} :
    readDimension field axis value = .error e ↔
      value < 0 ∧ .negativeDimension field axis value = e := by
  unfold readDimension
  split <;> simp [*]

theorem Record.Kernel.descriptor_error {k : Record.Kernel} {e : DescriptorFault} :
    k.descriptor = .error e ↔ k.Faulty e := by
  rw [descriptor, bind_error, firstFault_mapM_zipIdx]
  simp only [readTag_error, pure, Except.pure, reduceCtorEq, and_false, exists_false, or_false]
  rfl

theorem Record.Field.descriptor_error {f : Record.Field} {e : DescriptorFault} :
    f.descriptor = .error e ↔ f.Faulty e := by
  simp only [descriptor, bind_error, firstFault_mapM_zipIdx, readTag_error, readTag_ok,
    readDimension_error, pure, Except.pure, reduceCtorEq, and_false, exists_false, or_false]
  constructor
  · rintro (⟨hno, rfl⟩ | ⟨type, htype, h⟩)
    · exact .type hno
    · exact .dimension ⟨type, htype⟩ h
  · rintro (hno | ⟨⟨type, htype⟩, h⟩)
    · exact .inl ⟨hno, rfl⟩
    · exact .inr ⟨type, htype, h⟩

theorem forall_mem_zipIdx {α : Type} {p : α → Prop} {xs : List α} :
    (∀ entry ∈ xs.zipIdx, p entry.1) ↔ ∀ x ∈ xs, p x := by
  rw [← List.forall_mem_map, List.zipIdx_map_fst]

theorem Record.Kernel.exists_descriptor {k : Record.Kernel} :
    (∃ d, k.descriptor = .ok d) ↔ ∀ tag ∈ k.args, IsTag tag := by
  simp only [descriptor, bind_isOk, pure_isOk, and_true]
  rw [← forall_mem_zipIdx (p := IsTag)]
  exact mapM_isOk fun _ => exists_congr fun _ => readTag_ok

theorem Record.Field.exists_descriptor {f : Record.Field} :
    (∃ d, f.descriptor = .ok d) ↔ IsTag f.type ∧ ∀ value ∈ f.shape, 0 ≤ value := by
  simp only [descriptor, bind_isOk, readTag_ok, pure_isOk, and_true, exists_and_right]
  rw [← forall_mem_zipIdx (p := fun value => 0 ≤ value)]
  exact and_congr_right fun _ => mapM_isOk fun _ => by simp [readDimension_ok]

theorem Record.exists_storedBy {r : Record}
    (hkernels : ∀ k ∈ r.kernels, ∀ tag ∈ k.args, IsTag tag)
    (hfields : ∀ f ∈ r.fields, IsTag f.type ∧ ∀ value ∈ f.shape, 0 ≤ value) :
    ∃ m, Metadata.StoredBy m r := by
  obtain ⟨kernels, hk⟩ := (mapM_isOk fun _ => Record.Kernel.exists_descriptor).mpr hkernels
  obtain ⟨fields, hf⟩ := (mapM_isOk fun _ => Record.Field.exists_descriptor).mpr hfields
  exact ⟨_, Metadata.storedBy_of_descriptors hk hf⟩

-- ---------------------------------------------------------------------------
-- One lemma for each part of the check
-- ---------------------------------------------------------------------------

theorem Field.oversized?_fault {f : Field} {e : DescriptorFault} :
    (∃ axis value, f.oversized? = some (axis, value) ∧ .dimensionTooLarge f.name axis value = e) ↔
      FirstFault (fun before value e =>
        maxDimension < value ∧ .dimensionTooLarge f.name before.length value = e) f.shape e := by
  refine firstFault_of_walk (fun seen rest e => ∃ axis value,
    ((rest.zipIdx seen.length).find? fun entry => maxDimension < entry.1).map
      (fun entry => (entry.2, entry.1)) = some (axis, value) ∧
    DescriptorFault.dimensionTooLarge f.name axis value = e) (by simp) fun seen x rest e => ?_
  rw [List.zipIdx_cons, List.find?_cons, List.length_append, List.length_singleton]
  by_cases hx : maxDimension < x <;> simp [hx, and_assoc]

theorem Field.checkSize_error {f : Field} {e : DescriptorFault} :
    f.checkSize = .error e ↔
      FirstFault (fun before value e =>
        maxDimension < value ∧ .dimensionTooLarge f.name before.length value = e) f.shape e ∨
      f.Storable ∧ f.bytes? = none ∧ .sizeOverflow f.name = e := by
  rw [← oversized?_fault, Storable, ← oversized?_eq_none, checkSize]
  split
  · simp [*, and_assoc]
  · cases hbytes : f.bytes? <;> simp [*]

theorem Kernel.faulty_iff {k : Kernel} {taken : List String} {e : DescriptorFault} :
    k.Faulty taken e ↔
      k.name = "" ∧ .unnamedKernel = e ∨
      k.name ≠ "" ∧ k.symbol = "" ∧ .missingSymbol k.name = e ∨
      k.name ≠ "" ∧ k.symbol ≠ "" ∧ k.name ∈ taken ∧ .repeatedKernel k.name = e := by
  constructor
  · rintro (hn | ⟨hn, hs⟩ | ⟨hn, hs, ht⟩)
    · exact .inl ⟨hn, rfl⟩
    · exact .inr (.inl ⟨hn, hs, rfl⟩)
    · exact .inr (.inr ⟨hn, hs, ht, rfl⟩)
  · rintro (⟨hn, rfl⟩ | ⟨hn, hs, rfl⟩ | ⟨hn, hs, ht, rfl⟩)
    · exact .unnamed hn
    · exact .symbol hn hs
    · exact .repeated hn hs ht

theorem Field.faulty_iff {f : Field} {taken : List String} {e : DescriptorFault} :
    f.Faulty taken e ↔
      f.name = "" ∧ .unnamedField = e ∨
      f.name ≠ "" ∧ f.name ∈ taken ∧ .repeatedField f.name = e ∨
      f.name ≠ "" ∧ f.name ∉ taken ∧ f.checkSize = .error e := by
  rw [checkSize_error]
  constructor
  · rintro (hn | ⟨hn, ht⟩ | ⟨hn, ht, h⟩ | ⟨hn, ht, hs, hb⟩)
    · exact .inl ⟨hn, rfl⟩
    · exact .inr (.inl ⟨hn, ht, rfl⟩)
    · exact .inr (.inr ⟨hn, ht, .inl h⟩)
    · exact .inr (.inr ⟨hn, ht, .inr ⟨hs, hb, rfl⟩⟩)
  · rintro (⟨hn, rfl⟩ | ⟨hn, ht, rfl⟩ | ⟨hn, ht, h | ⟨hs, hb, rfl⟩⟩)
    · exact .unnamed hn
    · exact .repeated hn ht
    · exact .oversized hn ht h
    · exact .overflow hn ht hs hb

namespace Metadata

theorem checkKernels_error {ks : List Kernel} {e : DescriptorFault} :
    checkKernels [] ks = .error e ↔
      FirstFault (fun before k => k.Faulty (before.map (·.name))) ks e := by
  refine firstFault_of_walk
    (fun seen rest e => checkKernels (seen.reverse.map (·.name)) rest = .error e)
    (by simp [checkKernels]) fun seen k rest e => ?_
  rw [checkKernels, List.reverse_append, List.reverse_singleton, List.singleton_append,
    List.map_cons]
  simp only [Kernel.faulty_iff, List.map_reverse, List.mem_reverse]
  split
  · simp [*]
  split
  · simp [*]
  split
  · simp [*]
  · simp [*]

theorem checkFields_error {fs : List Field} {e : DescriptorFault} :
    checkFields [] fs = .error e ↔
      FirstFault (fun before f => f.Faulty (before.map (·.name))) fs e := by
  refine firstFault_of_walk
    (fun seen rest e => checkFields (seen.reverse.map (·.name)) rest = .error e)
    (by simp [checkFields]) fun seen f rest e => ?_
  rw [checkFields, List.reverse_append, List.reverse_singleton, List.singleton_append,
    List.map_cons]
  simp only [Field.faulty_iff, List.map_reverse, List.mem_reverse]
  split
  · simp [*]
  split
  · simp [*]
  · cases hsize : f.checkSize <;> simp [bind, Except.bind, *]

theorem check_error {m : Metadata} {e : DescriptorFault} : m.check = .error e ↔ m.Faulty e := by
  simp only [check, bind_error, checkKernels_error, checkFields_error, checkKernels_ok, fresh_nil]
  constructor
  · rintro (h | ⟨-, ⟨hn, hs, hd⟩, h⟩)
    · exact .kernel h
    · exact .field hn hs hd h
  · rintro (h | ⟨hn, hs, hd, h⟩)
    · exact .inl h
    · exact .inr ⟨(), ⟨hn, hs, hd⟩, h⟩

end Metadata

-- ---------------------------------------------------------------------------
-- Records
-- ---------------------------------------------------------------------------

namespace Record

theorem metadata_error {r : Record} {e : DescriptorFault} :
    r.metadata = .error e ↔ r.Faulty e := by
  constructor
  · intro h
    rcases bind_error.mp h with h | ⟨kernels, hkernels, h⟩
    · rw [firstFault_mapM] at h
      simp only [Kernel.descriptor_error] at h
      exact .kernel h
    rcases bind_error.mp h with h | ⟨fields, hfields, h⟩
    · rw [firstFault_mapM] at h
      simp only [Field.descriptor_error] at h
      exact .field ((mapM_isOk fun _ => Kernel.exists_descriptor).mp ⟨kernels, hkernels⟩) h
    rcases bind_error.mp h with h | ⟨_, -, h⟩
    · exact .metadata (Metadata.storedBy_of_descriptors hkernels hfields)
        (Metadata.check_error.mp h)
    · simp [pure, Except.pure] at h
  · rintro (h | ⟨hkernels, h⟩ | ⟨hstored, h⟩)
    · refine bind_error.mpr (.inl ?_)
      rw [firstFault_mapM]
      simpa only [Kernel.descriptor_error] using h
    · obtain ⟨kernels, hk⟩ := (mapM_isOk fun _ => Kernel.exists_descriptor).mpr hkernels
      refine bind_error.mpr (.inr ⟨kernels, hk, bind_error.mpr (.inl ?_)⟩)
      rw [firstFault_mapM]
      simpa only [Field.descriptor_error] using h
    · rw [hstored.metadata, Metadata.check_error.mpr h]
      rfl

theorem toUInt64_stored {f : Precompiled.Field} (h : f.Storable) :
    f.record.shape.map Int64.toUInt64 = f.shape := by
  rw [Precompiled.Field.record, List.map_map]
  refine (List.map_congr_left fun value hv => ?_).trans (List.map_id f.shape)
  rw [Function.comp_apply, storedDimension_of_le (h value hv), UInt64.toUInt64_toInt64, id]

theorem sized_record {f : Precompiled.Field} (h : f.Storable) :
    (∀ type : ElementType, type.tag = f.record.type → ∃ bytes,
      (Precompiled.Field.mk f.record.name type (f.record.shape.map Int64.toUInt64)).bytes? =
        some bytes) ↔ ∃ bytes, f.bytes? = some bytes := by
  rw [toUInt64_stored h]
  constructor
  · intro hall
    exact hall f.type rfl
  · intro hb type htype
    rw [ElementType.tag_inj htype]
    exact hb

theorem accepted_iff_sound {r : Record} {m : Metadata} (h : m.StoredBy r) :
    r.Accepted ↔ m.Sound := by
  obtain ⟨rfl, hstorable⟩ := h
  have hkernels (p : Kernel → Prop) :
      (∀ k ∈ m.record.kernels, p k) ↔ ∀ k ∈ m.kernels, p k.record := List.forall_mem_map
  have hfields (p : Field → Prop) :
      (∀ f ∈ m.record.fields, p f) ↔ ∀ f ∈ m.fields, p f.record := List.forall_mem_map
  have hknames : m.record.kernels.map (·.name) = m.kernels.map (·.name) := List.map_map
  have hfnames : m.record.fields.map (·.name) = m.fields.map (·.name) := List.map_map
  constructor
  · rintro ⟨-, -, -, hkn, hks, hkd, hfn, hfd, hsized⟩
    refine ⟨(hkernels _).mp hkn, (hkernels _).mp hks, hknames ▸ hkd, (hfields _).mp hfn,
      hfnames ▸ hfd, fun f hf => ⟨hstorable f hf, ?_⟩⟩
    exact (sized_record (hstorable f hf)).mp ((hfields _).mp hsized f hf)
  · rintro ⟨hkn, hks, hkd, hfn, hfd, hfits⟩
    refine ⟨(hkernels _).mpr ?_, (hfields _).mpr ?_, (hfields _).mpr ?_, (hkernels _).mpr hkn,
      (hkernels _).mpr hks, hknames ▸ hkd, (hfields _).mpr hfn, hfnames ▸ hfd,
      (hfields _).mpr ?_⟩
    · exact fun k _ => List.forall_mem_map.mpr fun type _ => ⟨type, rfl⟩
    · exact fun f _ => ⟨f.type, rfl⟩
    · exact fun f hf => List.forall_mem_map.mpr fun value hv =>
        stored_nonneg (hstorable f hf value hv)
    · exact fun f hf => (sized_record (hstorable f hf)).mpr (hfits f hf).sized

theorem exists_metadata {r : Record} : (∃ m, r.metadata = .ok m) ↔ r.Accepted := by
  constructor
  · rintro ⟨m, h⟩
    obtain ⟨hcheck, hrecord⟩ := Metadata.record_of_metadata h
    have hsound := Metadata.check_ok.mp hcheck
    exact (accepted_iff_sound ⟨hrecord, fun f hf => (hsound.fits f hf).storable⟩).mpr hsound
  · intro h
    obtain ⟨m, hstored⟩ := exists_storedBy h.arguments fun f hf => ⟨h.types f hf, h.dimensions f hf⟩
    have hsound := (accepted_iff_sound hstored).mp h
    exact ⟨m, hstored.record ▸ Metadata.metadata_record (Metadata.check_ok.mpr hsound)⟩

theorem not_faulty_tooLarge {r : Record} {field : String} {axis : Nat} {value : UInt64} :
    ¬ r.Faulty (.dimensionTooLarge field axis value) := by
  rintro (h | ⟨-, h⟩ | ⟨hstored, h⟩)
  · obtain ⟨_, _, _, -, ⟨_, _, _, -, ⟨-, he⟩, -⟩, -⟩ := h
    cases he
  · obtain ⟨_, f, _, -, hf, -⟩ := h
    cases hf with
    | dimension _ h =>
      obtain ⟨_, _, _, -, ⟨-, he⟩, -⟩ := h
      cases he
  · cases h with
    | kernel h =>
      obtain ⟨_, k, _, -, hk, -⟩ := h
      cases hk
    | field _ _ _ h =>
      obtain ⟨before, f, after, hfields, hf, -⟩ := h
      cases hf with
      | oversized _ _ h =>
        obtain ⟨_, large, _, hshape, ⟨hlarge, -⟩, -⟩ := h
        have hle := hstored.storable f (by simp [hfields]) large (by simp [hshape])
        exact UInt64.not_lt.mpr hle hlarge

/-- A record is read exactly if its tags are known, its dimensions are not negative, and its names,
symbols and sizes are sound; otherwise the first fault is reported, in the order of `Faulty`. The
check of metadata reports the first fault of its kernels and then of its fields, where a dimension
that is too large comes before a size that is. -/
theorem faults_in_order :
    (∀ r : Record,
      ((∃ m, r.metadata = .ok m) ↔ r.Accepted) ∧
      (∀ e, r.metadata = .error e ↔ r.Faulty e) ∧
      ∀ field axis value, r.metadata ≠ .error (.dimensionTooLarge field axis value)) ∧
    (∀ m : Metadata,
      (m.check = .ok () ↔ m.Sound) ∧ ∀ e, m.check = .error e ↔ m.Faulty e) := by
  refine ⟨fun r => ⟨exists_metadata, fun e => metadata_error, fun field axis value h => ?_⟩,
    fun m => ⟨Metadata.check_ok, fun e => Metadata.check_error⟩⟩
  exact not_faulty_tooLarge (metadata_error.mp h)

/-- A record with a fault of each kind, and metadata with one too large dimension after another: the
first one counts, and the argument or axis is counted from 0. Where all dimensions can be stored, a
size that is too large is found before the next field is looked at. -/
theorem faults_in_order_of_many :
    let kernels : List Kernel := [⟨"k", "s", ["i8"]⟩, ⟨"k", "", ["i32", "quad", "word"]⟩]
    let fields : List Field := [⟨"f", "f64", [4294967296, 4294967296, -2, -1]⟩, ⟨"", "bit", []⟩]
    let m : Metadata := { version := 1, fields := [
      { name := "f", type := .f64, shape := [1, 18446744073709551615, 9223372036854775808] }] }
    let huge : List Field := [⟨"f", "f64", [2, 3]⟩, ⟨"g", "f64", [4294967296, 4294967296]⟩,
      ⟨"", "i8", []⟩]
    Record.Faulty { version := 1, kernels, fields } (.unknownTag (.argument "k" 1) "quad") ∧
      Record.Faulty { version := 1, fields } (.negativeDimension "f" 2 (-2)) ∧
      m.Faulty (.dimensionTooLarge "f" 1 18446744073709551615) ∧
      Record.Faulty { version := 1, fields := huge } (.sizeOverflow "g") :=
  ⟨((faults_in_order.1 _).2.1 _).mp rfl, ((faults_in_order.1 _).2.1 _).mp rfl,
    ((faults_in_order.2 _).2 _).mp rfl, ((faults_in_order.1 _).2.1 _).mp rfl⟩

end Record
end Precompiled
