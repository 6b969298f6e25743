import Precompiled.Storage.Tree

/-!
# Paths of entries

The path of an entry walks the names of its directory and then the entry's name. `Plain` names are
those that a directory can hold an entry under.
-/

namespace Precompiled.Storage

namespace Path

/-- A name that a directory can hold: not empty, not too long, no slash and no NUL in it, and
neither `.` nor `..`. -/
structure Plain (name : Name) : Prop where
  nonempty : name ≠ []
  noSlash : slash ∉ name
  noNul : 0 ∉ name
  short : name.length ≤ nameLimit
  ne_here : name ≠ here
  ne_up : name ≠ up

instance (name : Name) : Decidable (Plain name) :=
  decidable_of_iff
    (name ≠ [] ∧ slash ∉ name ∧ 0 ∉ name ∧ name.length ≤ nameLimit ∧ name ≠ here ∧ name ≠ up)
    ⟨fun ⟨h1, h2, h3, h4, h5, h6⟩ => ⟨h1, h2, h3, h4, h5, h6⟩,
      fun ⟨h1, h2, h3, h4, h5, h6⟩ => ⟨h1, h2, h3, h4, h5, h6⟩⟩

-- ---------------------------------------------------------------------------
-- Names
-- ---------------------------------------------------------------------------

theorem cut_ne_nil (bytes : Bytes) : cut bytes ≠ [] := by
  cases bytes with
  | nil => simp [cut]
  | cons b rest =>
    simp only [cut]
    split
    · simp
    · split <;> simp

theorem cut_append_slash (a b : Bytes) : cut (a ++ slash :: b) = cut a ++ cut b := by
  induction a with
  | nil =>
    simp only [List.nil_append, cut]
    split
    · rename_i h; exact absurd h (cut_ne_nil b)
    · rename_i h; simp [h]
  | cons x rest ih =>
    simp only [List.cons_append, cut, ih]
    cases h : cut rest with
    | nil => exact absurd h (cut_ne_nil rest)
    | cons first more =>
      simp only [List.cons_append]
      split <;> simp

theorem cut_of_not_mem {bytes : Bytes} (h : slash ∉ bytes) : cut bytes = [bytes] := by
  induction bytes with
  | nil => rfl
  | cons b rest ih =>
    rw [List.mem_cons, not_or] at h
    simp [cut, ih h.2, Ne.symm h.1]

theorem names_append_slashes (bytes : Bytes) (n : Nat) :
    (⟨bytes ++ List.replicate n slash⟩ : Path).names = (⟨bytes⟩ : Path).names := by
  induction n with
  | zero => simp
  | succ n ih =>
    have hcut : cut (bytes ++ List.replicate (n + 1) slash) =
        cut (bytes ++ List.replicate n slash) ++ [[]] := by
      rw [List.replicate_succ', ← List.append_assoc, cut_append_slash]
      rfl
    rw [← ih, names, names, hcut]
    simp

theorem bytes_join (dir : Path) (name : String) :
    ∃ gap, (gap = [] ∨ gap = [slash]) ∧
      (dir.join name).bytes = dir.bytes ++ gap ++ Utf8.encode name := by
  unfold join
  split
  · exact ⟨[], .inl rfl, by simp⟩
  · exact ⟨[slash], .inr rfl, by simp⟩

theorem names_join (dir : Path) {name : String} (h : Plain (Utf8.encode name)) :
    (dir.join name).names = dir.names ++ [Utf8.encode name] := by
  have hne : (Utf8.encode name).isEmpty = false := by simpa using h.nonempty
  have hcut := cut_of_not_mem h.noSlash
  unfold join
  split
  · rename_i hc
    rcases Bool.or_eq_true_iff.mp hc with he | ht
    · have hd : dir.bytes = [] := by simpa using he
      simp [names, hd, hcut, hne, cut]
    · simp only [trailing, decide_eq_true_eq, List.getLast?_eq_some_iff] at ht
      obtain ⟨ys, hys⟩ := ht
      simp [names, hys, cut_append_slash, hcut, hne, cut]
  · simp [names, cut_append_slash, hcut, hne]

theorem trailing_join (dir : Path) {name : String} (h : Plain (Utf8.encode name)) :
    (dir.join name).trailing = false := by
  obtain ⟨gap, -, hb⟩ := bytes_join dir name
  have hlast : (dir.join name).bytes.getLast? = (Utf8.encode name).getLast? := by
    rw [hb, List.getLast?_append, List.getLast?_eq_some_getLast h.nonempty, Option.some_or]
  have hne : (Utf8.encode name).getLast? ≠ some slash := fun he =>
    h.noSlash (List.mem_of_getLast? he)
  simp [trailing, hlast, hne]

theorem hasNul_join (dir : Path) {name : String} (h : Plain (Utf8.encode name)) :
    (dir.join name).hasNul = dir.hasNul := by
  obtain ⟨gap, hgap, hb⟩ := bytes_join dir name
  have hslash : (0 : UInt8) ≠ slash := by decide
  rcases hgap with rfl | rfl <;> simp [hasNul, hb, h.noNul, hslash]

theorem length_le_join (dir : Path) (name : String) :
    dir.bytes.length ≤ (dir.join name).bytes.length := by
  obtain ⟨gap, -, hb⟩ := bytes_join dir name
  simp [hb]

end Path

namespace FileTree

open Storage.Path (Plain)

theorem checkPath_ok {p : Path} {u : Unit} :
    checkPath p = .ok u ↔ p.hasNul = false ∧ p.bytes.length ≤ Path.lengthLimit ∧ p.bytes ≠ [] := by
  unfold checkPath
  split
  · simp [*]
  · split
    · rename_i h
      simp [Nat.not_le.mpr h]
    · split <;> simp_all

theorem checkPath_of_join {dir : Path} {name : String} (hp : Plain (Utf8.encode name))
    (hd : dir.bytes ≠ []) (h : checkPath (dir.join name) = .ok ()) : checkPath dir = .ok () := by
  rw [checkPath_ok] at h ⊢
  rw [Path.hasNul_join dir hp] at h
  exact ⟨h.1, Nat.le_trans (Path.length_le_join dir name) h.2.1, hd⟩

/-- The path of an entry next to one that can be walked fails only for its length. -/
theorem checkPath_of_sibling {dir : Path} {name other : String} (hp : Plain (Utf8.encode name))
    (ho : Plain (Utf8.encode other)) (h : checkPath (dir.join name) = .ok ()) :
    checkPath (dir.join other) =
      if (dir.join other).bytes.length ≤ Path.lengthLimit then .ok () else .error .nameTooLong := by
  have hnul : (dir.join other).hasNul = false := by
    rw [Path.hasNul_join dir ho, ← Path.hasNul_join dir hp]
    exact (checkPath_ok.mp h).1
  have hne : (dir.join other).bytes.isEmpty = false := by
    obtain ⟨gap, -, hb⟩ := Path.bytes_join dir other
    simp [hb, ho.nonempty]
  by_cases hl : (dir.join other).bytes.length ≤ Path.lengthLimit
  · simp [checkPath, hnul, hne, hl, Nat.not_lt.mpr hl]
  · simp [checkPath, hnul, hl, Nat.not_le.mp hl]

end FileTree
end Precompiled.Storage
