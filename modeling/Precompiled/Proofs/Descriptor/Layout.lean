import Precompiled.Descriptor
import Precompiled.Proofs.Text.Digits
import Precompiled.Proofs.Text.Separated

/-!
# Layouts as text

The text of a layout tells the element type and every dimension: the tag ends where the bracket
opens, the numbers end at the commas, and a field of one element has no bracket at all. So two
fields show the same text exactly if they have the same layout.
-/

namespace Precompiled

open Text (append_mark_inj_left intercalate_inj mem_intercalate)

namespace ElementType

theorem mem_tag {t : ElementType} {c : Char} (h : c ∈ t.tag.toList) :
    c.isDigit ∨ c ∈ ['f', 'i', 'u'] := by
  have hall : ∀ t ∈ all, t.tag.toList.all fun c => c.isDigit || ['f', 'i', 'u'].contains c := by
    decide
  simpa using List.all_eq_true.mp (hall t t.mem_all) c h

theorem bracket_not_mem_tag (t : ElementType) : '[' ∉ t.tag.toList :=
  fun h => (mem_tag h).elim (by decide) (by decide)

end ElementType

namespace Field

variable {f a b : Field} {c : Char}

-- ---------------------------------------------------------------------------
-- Dimensions
-- ---------------------------------------------------------------------------

def numerals (shape : List UInt64) : List (List Char) := shape.map (Nat.toDigits 10 ·.toNat)

theorem numerals_inj {shape shape' : List UInt64} :
    numerals shape = numerals shape' ↔ shape = shape' :=
  List.map_inj_right fun _ _ h => UInt64.toNat_inj.mp (Decimal.toDigits_inj.mp h)

theorem isDigit_of_mem_numerals {shape : List UInt64} {numeral : List Char}
    (h : numeral ∈ numerals shape) (hc : c ∈ numeral) : c.isDigit := by
  obtain ⟨dimension, -, rfl⟩ := List.mem_map.mp h
  exact Nat.isDigit_of_mem_toDigits (by decide) (by decide) hc

theorem toList_dimensions (f : Field) :
    f.dimensions.toList = [',', ' '].intercalate (numerals f.shape) := by
  simp [dimensions, numerals, String.toList_intercalate, Function.comp_def, Nat.toList_repr]

theorem dimensions_inj (ha : a.shape ≠ []) (hb : b.shape ≠ []) :
    a.dimensions = b.dimensions ↔ a.shape = b.shape := by
  have hcomma (shape : List UInt64) : ∀ numeral ∈ numerals shape, ',' ∉ numeral :=
    fun numeral h hc => absurd (isDigit_of_mem_numerals h hc) (by decide)
  have hne {shape : List UInt64} (h : shape ≠ []) : numerals shape ≠ [] := by
    simpa [numerals] using h
  rw [← String.toList_inj, toList_dimensions, toList_dimensions,
    intercalate_inj (hcomma a.shape) (hcomma b.shape) (hne ha) (hne hb), numerals_inj]

-- ---------------------------------------------------------------------------
-- Layouts
-- ---------------------------------------------------------------------------

theorem layout_of_scalar (h : f.shape = []) : f.layout = f.type.tag := by
  simp [layout, h]

theorem toList_layout (h : f.shape ≠ []) :
    f.layout.toList = f.type.tag.toList ++ '[' :: (f.dimensions.toList ++ [']']) := by
  simp [layout, h, toString]

theorem mem_layout (h : c ∈ f.layout.toList) :
    c.isDigit ∨ c ∈ ['f', 'i', 'u', '[', ',', ' ', ']'] := by
  have htag (hc : c ∈ f.type.tag.toList) : c.isDigit ∨ c ∈ ['f', 'i', 'u', '[', ',', ' ', ']'] :=
    (ElementType.mem_tag hc).imp_right (List.mem_append_left ['[', ',', ' ', ']'])
  by_cases hshape : f.shape = []
  · rw [layout_of_scalar hshape] at h
    exact htag h
  · rw [toList_layout hshape, toList_dimensions] at h
    simp only [List.mem_append, List.mem_cons, List.not_mem_nil, or_false] at h
    rcases h with h | rfl | h | rfl
    · exact htag h
    · exact .inr (by decide)
    · rcases mem_intercalate h with hc | ⟨numeral, hnumeral, hc⟩
      · exact .inr (by grind)
      · exact .inl (isDigit_of_mem_numerals hnumeral hc)
    · exact .inr (by decide)

/-- A layout has no bracket exactly if it is of one element. -/
theorem bracket_not_mem_layout : '[' ∉ f.layout.toList ↔ f.shape = [] := by
  constructor
  · intro h
    refine Decidable.byContradiction fun hshape => h ?_
    rw [toList_layout hshape]
    exact List.mem_append_right _ List.mem_cons_self
  · intro h
    rw [layout_of_scalar h]
    exact f.type.bracket_not_mem_tag

def form (f : Field) : ElementType × List UInt64 := (f.type, f.shape)

theorem form_inj : a.form = b.form ↔ a.type = b.type ∧ a.shape = b.shape := by
  simp [form]

theorem sameLayout_iff : a.sameLayout b ↔ a.form = b.form := by
  simp [sameLayout, form_inj]

theorem form_of_layout (h : a.layout = b.layout) : a.form = b.form := by
  have hscalar : a.shape = [] ↔ b.shape = [] := by
    rw [← bracket_not_mem_layout, h, bracket_not_mem_layout]
  rw [form_inj]
  by_cases ha : a.shape = []
  · have hb := hscalar.mp ha
    rw [layout_of_scalar ha, layout_of_scalar hb] at h
    exact ⟨ElementType.tag_inj h, ha.trans hb.symm⟩
  · have hb := mt hscalar.mpr ha
    -- The tags stand before the first bracket, and the numbers between it and the last character.
    rw [← String.toList_inj, toList_layout ha, toList_layout hb,
      append_mark_inj_left a.type.bracket_not_mem_tag b.type.bracket_not_mem_tag,
      List.append_cancel_right_eq, String.toList_inj, String.toList_inj, dimensions_inj ha hb] at h
    exact h.imp_left ElementType.tag_inj

/-- The text of a layout tells the element type and the dimensions, and nothing else. -/
theorem layout_inj : a.layout = b.layout ↔ a.form = b.form := by
  refine ⟨form_of_layout, fun h => ?_⟩
  obtain ⟨htype, hshape⟩ := form_inj.mp h
  rw [layout, layout, dimensions, dimensions, htype, hshape]

/-- Numbers of the same digits in another grouping are another layout. -/
example :
    let f : Field := { name := "x", type := .u8, shape := [16, 4] }
    f.layout = "u8[16, 4]" ∧ f.layout ≠ ({ f with shape := [1, 64] } : Field).layout := by
  decide

end Field
end Precompiled
