import Precompiled.Metadata
import Precompiled.Proofs.Attempt

/-!
# Sound metadata

What metadata has to be like for its check to find no fault, with no regard to the order in which
the check looks for faults.
-/

namespace Precompiled

def Field.Storable (f : Field) : Prop := ∀ value ∈ f.shape, value ≤ maxDimension

structure Field.Fits (f : Field) : Prop where
  storable : ∀ value ∈ f.shape, value ≤ maxDimension
  sized : ∃ bytes, f.bytes? = some bytes

structure Metadata.Sound (m : Metadata) : Prop where
  kernelsNamed : ∀ k ∈ m.kernels, k.name ≠ ""
  symbols : ∀ k ∈ m.kernels, k.symbol ≠ ""
  kernelsDistinct : (m.kernels.map (·.name)).Nodup
  fieldsNamed : ∀ f ∈ m.fields, f.name ≠ ""
  fieldsDistinct : (m.fields.map (·.name)).Nodup
  fits : ∀ f ∈ m.fields, f.Fits

namespace Field

variable {f : Field}

theorem oversized?_eq_none : f.oversized? = none ↔ ∀ value ∈ f.shape, value ≤ maxDimension := by
  simp only [oversized?, Option.map_eq_none_iff, List.find?_eq_none, decide_eq_true_eq,
    UInt64.not_lt]
  constructor
  · intro h value hv
    obtain ⟨i, hi, rfl⟩ := List.getElem_of_mem hv
    exact h (f.shape[i], i) (List.mem_zipIdx_iff_getElem?.mpr (by simp [hi]))
  · intro h entry he
    exact h entry.1 (List.fst_mem_of_mem_zipIdx he)

theorem checkSize_ok {u : Unit} : f.checkSize = .ok u ↔ f.Fits := by
  have hfits : f.Fits ↔ f.oversized? = none ∧ f.bytes?.isSome := by
    rw [oversized?_eq_none, Option.isSome_iff_exists]
    exact ⟨fun h => ⟨h.storable, h.sized⟩, fun h => ⟨h.1, h.2⟩⟩
  rw [hfits, checkSize]
  split
  · simp [*]
  · cases hbytes : f.bytes? <;> simp [*]

end Field

namespace Metadata

/-- Names that are distinct and none of which is taken. -/
def Fresh (taken names : List String) : Prop := names.Nodup ∧ ∀ name ∈ names, name ∉ taken

theorem fresh_cons {taken rest : List String} {name : String} :
    Fresh taken (name :: rest) ↔ name ∉ taken ∧ Fresh (name :: taken) rest := by
  rw [Fresh, Fresh, List.nodup_cons, List.forall_mem_cons]
  simp only [List.mem_cons, not_or]
  constructor
  · rintro ⟨⟨hname, hrest⟩, htaken, hall⟩
    exact ⟨htaken, hrest, fun other ho => ⟨fun he => hname (he ▸ ho), hall other ho⟩⟩
  · rintro ⟨htaken, hrest, hall⟩
    exact ⟨⟨fun ho => (hall name ho).1 rfl, hrest⟩, htaken, fun other ho => (hall other ho).2⟩

theorem fresh_nil {names : List String} : Fresh [] names ↔ names.Nodup := by
  simp [Fresh]

theorem checkKernels_ok {taken : List String} {ks : List Kernel} {u : Unit} :
    checkKernels taken ks = .ok u ↔
      (∀ k ∈ ks, k.name ≠ "") ∧ (∀ k ∈ ks, k.symbol ≠ "") ∧ Fresh taken (ks.map (·.name)) := by
  induction ks generalizing taken with
  | nil => simp [checkKernels, Fresh]
  | cons k rest ih =>
    rw [checkKernels, List.map_cons, fresh_cons, List.forall_mem_cons, List.forall_mem_cons]
    split
    · simp [*]
    split
    · simp [*]
    split
    · simp [*]
    · simp only [ne_eq, not_false_eq_true, true_and, *]

theorem checkFields_ok {taken : List String} {fs : List Field} {u : Unit} :
    checkFields taken fs = .ok u ↔
      (∀ f ∈ fs, f.name ≠ "") ∧ Fresh taken (fs.map (·.name)) ∧ ∀ f ∈ fs, f.Fits := by
  induction fs generalizing taken with
  | nil => simp [checkFields, Fresh]
  | cons f rest ih =>
    rw [checkFields, List.map_cons, fresh_cons, List.forall_mem_cons, List.forall_mem_cons]
    split
    · simp [*]
    split
    · simp [*]
    · simp only [bind_ok, Field.checkSize_ok, exists_const, ne_eq, not_false_eq_true, true_and, *]
      constructor
      · rintro ⟨hf, hnamed, hfresh, hfits⟩
        exact ⟨hnamed, hfresh, hf, hfits⟩
      · rintro ⟨hnamed, hfresh, hf, hfits⟩
        exact ⟨hf, hnamed, hfresh, hfits⟩

theorem check_ok {m : Metadata} {u : Unit} : m.check = .ok u ↔ m.Sound := by
  simp only [check, bind_ok, checkKernels_ok, checkFields_ok, fresh_nil]
  constructor
  · rintro ⟨-, ⟨hk, hs, hkd⟩, hf, hfd, hfits⟩
    exact ⟨hk, hs, hkd, hf, hfd, hfits⟩
  · rintro ⟨hk, hs, hkd, hf, hfd, hfits⟩
    exact ⟨(), ⟨hk, hs, hkd⟩, hf, hfd, hfits⟩

end Metadata
end Precompiled
