import Precompiled.Proofs.Text.Blank
import Precompiled.Proofs.Text.Digits

/-!
# Rows of hexadecimal digits

Which rows of characters are read as a hexadecimal number, and as which one.
-/

namespace Precompiled.Hex

/-- The character is a digit of this value, as a small letter or a large one. -/
def Shows (c : Char) (d : Nat) : Prop :=
  d < 16 ∧ (c = d.digitChar ∨ c = d.digitChar.toUpper)

instance (c : Char) (d : Nat) : Decidable (Shows c d) := inferInstanceAs (Decidable (_ ∧ _))

/-- The characters are digits, the last one for the units. -/
inductive Spells : List Char → Nat → Prop
  | nil : Spells [] 0
  | snoc {chars c n d} : Spells chars n → Shows c d → Spells (chars ++ [c]) (n * 16 + d)

theorem lt_of_digit? {c : Char} {d : Nat} (h : digit? c = some d) : c.toNat < 103 ∧ d < 16 := by
  have hval : c.toNat = c.val.toNat := rfl
  simp only [digit?, Char.isDigit, Char.le_def, UInt32.le_iff_toNat_le] at h
  grind

theorem digit?_eq_some {c : Char} {d : Nat} : digit? c = some d ↔ Shows c d := by
  have hread : ∀ n : Fin 103, ∀ d : Fin 16, digit? (Char.ofNat n) = some d.val →
      Shows (Char.ofNat n) d := by decide
  have hshow : ∀ d : Fin 16, digit? d.val.digitChar = some d.val ∧
      digit? d.val.digitChar.toUpper = some d.val := by decide
  refine ⟨fun h => ?_, ?_⟩
  · -- Nothing from 103 on is a digit, so there are only so many characters to go through.
    obtain ⟨hc, hd⟩ := lt_of_digit? h
    have hn := hread ⟨c.toNat, hc⟩ ⟨d, hd⟩
    rw [Char.ofNat_toNat] at hn
    exact hn h
  · rintro ⟨hd, rfl | rfl⟩
    · exact (hshow ⟨d, hd⟩).1
    · exact (hshow ⟨d, hd⟩).2

theorem Shows.not_blank {c : Char} {d : Nat} (h : Shows c d) : Text.isBlank c = false := by
  have hall : ∀ d : Fin 16, Text.isBlank d.val.digitChar = false ∧
      Text.isBlank d.val.digitChar.toUpper = false := by decide
  obtain ⟨hd, rfl | rfl⟩ := h
  · exact (hall ⟨d, hd⟩).1
  · exact (hall ⟨d, hd⟩).2

theorem not_shows_plus {d : Nat} : ¬ Shows '+' d := by
  have hall : ∀ d : Fin 16, ¬ Shows '+' d := by decide
  exact fun h => hall ⟨d, h.1⟩ h

namespace Spells

variable {chars : List Char} {n : Nat}

theorem shows_of_mem (h : Spells chars n) : ∀ c ∈ chars, ∃ d, Shows c d := by
  induction h with
  | nil => intro c hc; cases hc
  | snoc _ hd ih =>
    intro c hc
    rcases List.mem_append.mp hc with hc | hc
    · exact ih c hc
    · exact List.mem_singleton.mp hc ▸ ⟨_, hd⟩

theorem not_blank (h : Spells chars n) : ∀ c ∈ chars, Text.isBlank c = false := by
  intro c hc
  obtain ⟨d, hd⟩ := h.shows_of_mem c hc
  exact hd.not_blank

theorem no_plus (h : Spells chars n) : '+' ∉ chars := by
  intro hc
  obtain ⟨d, hd⟩ := h.shows_of_mem _ hc
  exact not_shows_plus hd

theorem lt (h : Spells chars n) : n < Nat.pow 16 chars.length := by
  induction h with
  | nil => decide
  | @snoc chars _ _ _ _ hd ih =>
    have hd := hd.1
    have hpow : Nat.pow 16 (chars.length + 1) = Nat.pow 16 chars.length * 16 := rfl
    rw [List.length_append, List.length_singleton, hpow]
    omega

end Spells

theorem spells_of_foldlM {before chars : List Char} {v n : Nat} (hb : Spells before v)
    (h : chars.foldlM (fun value c => (digit? c).map (value * 16 + ·)) v = some n) :
    Spells (before ++ chars) n := by
  induction chars generalizing before v with
  | nil =>
    obtain rfl := Option.some.inj h
    rwa [List.append_nil]
  | cons c rest ih =>
    rw [List.foldlM_cons] at h
    obtain ⟨next, hnext, hrest⟩ := Option.bind_eq_some_iff.mp h
    obtain ⟨d, hd, rfl⟩ := Option.map_eq_some_iff.mp hnext
    have hrow := ih (hb.snoc (digit?_eq_some.mp hd)) hrest
    rwa [List.append_assoc] at hrow

theorem value?_eq_some {chars : List Char} {n : Nat} : value? chars = some n ↔ Spells chars n := by
  refine ⟨spells_of_foldlM .nil, fun h => ?_⟩
  induction h with
  | nil => rfl
  | snoc _ hd ih => simp [value?_append, ih, digit?_eq_some.mpr hd]

end Precompiled.Hex
