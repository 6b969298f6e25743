import Precompiled.Proofs.Descriptor
import Precompiled.Proofs.Metadata.Faults

/-!
# Sizes that are too large

When the size of a field is a word, and when the check of metadata refuses it for its size. The size
of a field without an empty dimension is exact and has nothing to do with the order of its axes. A
field with an empty dimension has no elements and no bytes, and is refused even so if the dimensions
before that one are too large together.
-/

namespace Precompiled

theorem Metadata.Faulty.of_sizeOverflow {m : Metadata} {name : String}
    (h : m.Faulty (.sizeOverflow name)) : ∃ f ∈ m.fields, f.name = name ∧ f.bytes? = none := by
  cases h with
  | kernel h =>
    obtain ⟨_, k, _, -, hk, -⟩ := h
    cases hk
  | field _ _ _ h =>
    obtain ⟨before, f, after, hfields, hf, -⟩ := h
    cases hf with
    | oversized _ _ h =>
      obtain ⟨_, _, _, -, ⟨-, he⟩, -⟩ := h
      cases he
    | overflow _ _ _ hbytes => exact ⟨f, by simp [hfields], rfl, hbytes⟩

theorem Field.sizes_perm {f g : Field} (h : f.shape.Perm g.shape) (htype : f.type = g.type)
    (hleading : 0 ∈ f.shape →
      (volume (leading f.shape) < UInt64.size ↔ volume (leading g.shape) < UInt64.size)) :
    f.count? = g.count? ∧ f.bytes? = g.bytes? := by
  have hfits : volume (leading f.shape) < UInt64.size ↔ volume (leading g.shape) < UInt64.size := by
    by_cases h0 : 0 ∈ f.shape
    · exact hleading h0
    · rw [leading_of_not_mem h0, leading_of_not_mem fun hg => h0 (h.mem_iff.mpr hg), volume_perm h]
  simp only [count?_eq, bytes?_eq, hfits, volume_perm h, htype, and_self]

/-- Count and size are the products of the dimensions where these fit in a word, and absent where
they do not, of every field without an empty dimension; so neither depends on the order of the axes,
and the check refuses only fields whose bytes are too many. With an empty dimension the products are
0, but count and size are absent if the dimensions before it are too large together: then they
depend on the order, and the check refuses a field of no bytes. -/
theorem sizes_exact (f : Field) (m : Metadata) :
    (f.count? = (if volume (leading f.shape) < UInt64.size
        then word? (volume f.shape) else none) ∧
      f.bytes? = (if volume (leading f.shape) < UInt64.size
        then word? (volume f.shape * f.type.size.toNat) else none)) ∧
    (0 ∉ f.shape →
      f.count? = word? (volume f.shape) ∧
      f.bytes? = word? (volume f.shape * f.type.size.toNat)) ∧
    (∀ g : Field, f.shape.Perm g.shape → f.type = g.type →
      (0 ∈ f.shape →
        (volume (leading f.shape) < UInt64.size ↔ volume (leading g.shape) < UInt64.size)) →
      f.count? = g.count? ∧ f.bytes? = g.bytes?) ∧
    (∀ name, m.check = .error (.sizeOverflow name) →
      ∃ f ∈ m.fields, f.name = name ∧
        (UInt64.size ≤ volume f.shape * f.type.size.toNat ∨
          0 ∈ f.shape ∧ UInt64.size ≤ volume (leading f.shape))) := by
  refine ⟨⟨Field.count?_eq, Field.bytes?_eq⟩,
    fun h => ⟨Field.count?_of_not_mem h, Field.bytes?_of_not_mem h⟩,
    fun g h htype hleading => Field.sizes_perm h htype hleading, fun name h => ?_⟩
  obtain ⟨f, hf, hname, hbytes⟩ := (Metadata.check_error.mp h).of_sizeOverflow
  exact ⟨f, hf, hname, Field.bytes?_eq_none.mp hbytes⟩

/-- A matrix of words, a field of no elements that is refused for its size, and the same one with
its axes in another order, which has the size 0. -/
theorem sizes_exact_of_empty :
    let matrix : Field := { name := "matrix", type := .u64, shape := [4294967296, 2] }
    let turned : Field := { matrix with shape := [2, 4294967296] }
    let empty : Field := { name := "empty", type := .f64, shape := [4294967296, 4294967296, 0] }
    matrix.count? = some 8589934592 ∧ matrix.bytes? = turned.bytes? ∧
      volume empty.shape * empty.type.size.toNat = 0 ∧ empty.count? = none ∧
      ({ empty with shape := [0, 4294967296, 4294967296] } : Field).bytes? = some 0 ∧
      (0 ∈ empty.shape ∧ UInt64.size ≤ volume (leading empty.shape)) := by
  intro matrix turned empty
  let m : Metadata := { version := 1, fields := [empty] }
  obtain ⟨-, exact, turns, -⟩ := sizes_exact matrix m
  obtain ⟨all, -, -, refused⟩ := sizes_exact empty m
  have hperm : matrix.shape.Perm turned.shape := List.Perm.swap 2 4294967296 []
  obtain ⟨f, hf, -, h⟩ := refused "empty" rfl
  obtain rfl := List.mem_singleton.mp hf
  refine ⟨(exact (by decide)).1.trans rfl, (turns turned hperm rfl (by decide)).2, rfl,
    all.1.trans rfl, (sizes_exact _ m).1.2.trans rfl, h.resolve_left (by decide)⟩

end Precompiled
