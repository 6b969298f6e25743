import Precompiled.Descriptor

/-!
# Sizes of fields

Counts and sizes are computed in words, from the outermost dimension on. Where there is one, it is
the number that the dimensions make without any bound. There is none exactly if that number is too
large for a word, or if the dimensions before the first empty one already are: an empty dimension
makes the number 0, but it does not undo what came before it.
-/

namespace Precompiled

-- ---------------------------------------------------------------------------
-- Products of dimensions
-- ---------------------------------------------------------------------------

def volume (shape : List UInt64) : Nat :=
  shape.foldr (fun dimension rest => dimension.toNat * rest) 1

/-- The dimensions before the first empty one. -/
def leading (shape : List UInt64) : List UInt64 := shape.takeWhile (· ≠ 0)

theorem volume_cons (dimension : UInt64) (rest : List UInt64) :
    volume (dimension :: rest) = dimension.toNat * volume rest := rfl

theorem volume_perm {a b : List UInt64} (h : a.Perm b) : volume a = volume b := by
  induction h with
  | nil => rfl
  | cons dimension _ ih => rw [volume_cons, volume_cons, ih]
  | swap first second rest => simp only [volume_cons, Nat.mul_left_comm]
  | trans _ _ hab hbc => exact hab.trans hbc

theorem volume_pos {shape : List UInt64} (h : 0 ∉ shape) : 0 < volume shape := by
  induction shape with
  | nil => exact Nat.one_pos
  | cons dimension rest ih =>
    rw [List.mem_cons, not_or] at h
    have hpos : dimension.toNat ≠ 0 := fun he => h.1 (UInt64.toNat_inj.mp he).symm
    exact Nat.mul_pos (Nat.pos_of_ne_zero hpos) (ih h.2)

theorem volume_eq_zero {shape : List UInt64} (h : 0 ∈ shape) : volume shape = 0 := by
  induction shape with
  | nil => simp at h
  | cons dimension rest ih =>
    rw [volume_cons]
    rcases List.mem_cons.mp h with rfl | h
    · exact Nat.zero_mul _
    · rw [ih h, Nat.mul_zero]

theorem leading_zero (rest : List UInt64) : leading (0 :: rest) = [] := by simp [leading]

theorem leading_cons {dimension : UInt64} (h : dimension ≠ 0) (rest : List UInt64) :
    leading (dimension :: rest) = dimension :: leading rest := by
  simp [leading, h]

theorem leading_of_not_mem {shape : List UInt64} (h : 0 ∉ shape) : leading shape = shape := by
  induction shape with
  | nil => rfl
  | cons dimension rest ih =>
    rw [List.mem_cons, not_or] at h
    rw [leading_cons (Ne.symm h.1), ih h.2]

theorem volume_leading_pos (shape : List UInt64) : 0 < volume (leading shape) := by
  refine volume_pos fun h => ?_
  simpa using List.all_eq_true.mp List.all_takeWhile 0 h

theorem volume_le_leading (shape : List UInt64) : volume shape ≤ volume (leading shape) := by
  by_cases h : 0 ∈ shape
  · rw [volume_eq_zero h]
    exact Nat.zero_le _
  · exact Nat.le_of_eq (congrArg volume (leading_of_not_mem h).symm)

-- ---------------------------------------------------------------------------
-- Products in words
-- ---------------------------------------------------------------------------

def word? (n : Nat) : Option UInt64 := if n < UInt64.size then some (UInt64.ofNat n) else none

theorem word?_eq_some {n : Nat} {w : UInt64} : word? n = some w ↔ w.toNat = n := by
  have hsize := w.toNat_lt_size
  unfold word?
  split
  · rename_i hlt
    have hn : (UInt64.ofNat n).toNat = n := UInt64.toNat_ofNat_of_lt' hlt
    rw [Option.some.injEq, ← UInt64.toNat_inj, hn, eq_comm]
  · constructor
    · exact nofun
    · omega

theorem word?_eq_none {n : Nat} : word? n = none ↔ UInt64.size ≤ n := by
  simp [word?]

theorem mulWord?_eq_word? (a b : UInt64) : mulWord? a b = word? (a.toNat * b.toNat) := by
  unfold mulWord? word?
  split
  · rw [UInt64.ofNat_mul, UInt64.ofNat_toNat, UInt64.ofNat_toNat]
  · rfl

theorem mulWord?_eq_some {a b c : UInt64} :
    mulWord? a b = some c ↔ c.toNat = a.toNat * b.toNat := by
  rw [mulWord?_eq_word?, word?_eq_some]

/-- Multiplying on from a word stays within words up to the first empty dimension, or gives
nothing. -/
theorem foldlM_mulWord?_eq_some {shape : List UInt64} {start count : UInt64} :
    shape.foldlM mulWord? start = some count ↔
      start.toNat * volume (leading shape) < UInt64.size ∧
        count.toNat = start.toNat * volume shape := by
  induction shape generalizing start with
  | nil =>
    have hlt : start.toNat * volume (leading []) < UInt64.size :=
      (Nat.mul_one _).symm ▸ start.toNat_lt_size
    rw [List.foldlM_nil, Option.pure_def, Option.some.injEq, and_iff_right hlt, volume,
      List.foldr_nil, Nat.mul_one, UInt64.toNat_inj, eq_comm]
  | cons dimension rest ih =>
    simp only [List.foldlM_cons, Option.bind_eq_bind, Option.bind_eq_some_iff, mulWord?_eq_some,
      ih, volume_cons]
    by_cases hd : dimension = 0
    · -- From an empty dimension on the product is 0, whatever follows.
      subst hd
      rw [leading_zero, UInt64.toNat_zero]
      simp only [Nat.mul_zero, Nat.zero_mul]
      constructor
      · rintro ⟨next, hnext, -, hc⟩
        rw [hnext, Nat.zero_mul] at hc
        exact ⟨(Nat.mul_one _).symm ▸ start.toNat_lt_size, hc⟩
      · rintro ⟨-, hc⟩
        exact ⟨0, rfl, by rw [UInt64.toNat_zero, Nat.zero_mul]; decide, by
          rw [UInt64.toNat_zero, Nat.zero_mul, hc]⟩
    · rw [leading_cons hd, volume_cons, ← Nat.mul_assoc, ← Nat.mul_assoc]
      constructor
      · rintro ⟨next, hnext, hlt, hc⟩
        exact ⟨hnext ▸ hlt, hnext ▸ hc⟩
      · rintro ⟨hlt, hc⟩
        have hle := Nat.le_mul_of_pos_right (start.toNat * dimension.toNat)
          (volume_leading_pos rest)
        have hnext : (UInt64.ofNat (start.toNat * dimension.toNat)).toNat =
            start.toNat * dimension.toNat :=
          UInt64.toNat_ofNat_of_lt' (Nat.lt_of_le_of_lt hle hlt)
        exact ⟨_, hnext, hnext.symm ▸ hlt, hnext.symm ▸ hc⟩

-- ---------------------------------------------------------------------------
-- Counts and sizes
-- ---------------------------------------------------------------------------

namespace Field

variable {f : Field} {count bytes : UInt64}

theorem count?_eq_some :
    f.count? = some count ↔
      volume (leading f.shape) < UInt64.size ∧ count.toNat = volume f.shape := by
  rw [count?, foldlM_mulWord?_eq_some, UInt64.toNat_one, Nat.one_mul, Nat.one_mul]

theorem toNat_count (h : f.count? = some count) : count.toNat = volume f.shape :=
  (count?_eq_some.mp h).2

theorem bytes?_eq_some :
    f.bytes? = some bytes ↔
      ∃ count, f.count? = some count ∧ bytes.toNat = count.toNat * f.type.size.toNat := by
  simp only [bytes?, Option.bind_eq_some_iff, mulWord?_eq_some]

theorem toNat_bytes (h : f.bytes? = some bytes) :
    bytes.toNat = volume f.shape * f.type.size.toNat := by
  obtain ⟨count, hcount, hbytes⟩ := bytes?_eq_some.mp h
  rw [hbytes, toNat_count hcount]

theorem exists_count (h : volume (leading f.shape) < UInt64.size) :
    ∃ count, f.count? = some count := by
  have hlt := Nat.lt_of_le_of_lt (volume_le_leading f.shape) h
  exact ⟨_, count?_eq_some.mpr ⟨h, UInt64.toNat_ofNat_of_lt' hlt⟩⟩

theorem count?_eq :
    f.count? = if volume (leading f.shape) < UInt64.size then word? (volume f.shape) else none := by
  refine Option.ext fun count => ?_
  rw [count?_eq_some]
  split <;> simp [word?_eq_some, *]

theorem bytes?_eq :
    f.bytes? = if volume (leading f.shape) < UInt64.size
      then word? (volume f.shape * f.type.size.toNat) else none := by
  refine Option.ext fun bytes => ?_
  split
  · rename_i hlt
    obtain ⟨count, hcount⟩ := exists_count hlt
    rw [word?_eq_some, bytes?_eq_some]
    simp [hcount, toNat_count hcount]
  · rename_i hlt
    rw [bytes?_eq_some]
    simp [count?_eq_some, hlt]

theorem count?_of_not_mem (h : 0 ∉ f.shape) : f.count? = word? (volume f.shape) := by
  rw [count?_eq, leading_of_not_mem h]
  split
  · rfl
  · rename_i hle
    rw [word?_eq_none.mpr (Nat.le_of_not_lt hle)]

theorem volume_le_bytes (f : Field) : volume f.shape ≤ volume f.shape * f.type.size.toNat := by
  have hsize : 0 < f.type.size.toNat := by cases f.type <;> decide
  exact Nat.le_mul_of_pos_right _ hsize

theorem bytes?_eq_none :
    f.bytes? = none ↔ UInt64.size ≤ volume f.shape * f.type.size.toNat ∨
      0 ∈ f.shape ∧ UInt64.size ≤ volume (leading f.shape) := by
  rw [bytes?_eq]
  split
  · rename_i hlt
    rw [word?_eq_none]
    simp [Nat.not_le.mpr hlt]
  · rename_i hlt
    have hle := Nat.le_of_not_lt hlt
    refine iff_of_true rfl ?_
    by_cases h : 0 ∈ f.shape
    · exact .inr ⟨h, hle⟩
    · rw [leading_of_not_mem h] at hle
      exact .inl (Nat.le_trans hle f.volume_le_bytes)

theorem bytes?_of_not_mem (h : 0 ∉ f.shape) :
    f.bytes? = word? (volume f.shape * f.type.size.toNat) := by
  cases hbytes : f.bytes? with
  | none =>
    have hle := bytes?_eq_none.mp hbytes
    rw [word?_eq_none.mpr (hle.resolve_right fun hr => h hr.1)]
  | some bytes => exact (word?_eq_some.mpr (toNat_bytes hbytes)).symm

end Field
end Precompiled
