import Precompiled.Text.Blank

/-!
# Blanks around a text

What is left of a text when the blanks at both ends are cut off, told by the text as a whole:
blanks, what is left, blanks.
-/

namespace Precompiled.Text

/-- The characters are a content with nothing but blanks before and after it. -/
def Padded (content chars : List Char) : Prop :=
  ∃ before after, chars = before ++ content ++ after ∧
    (∀ c ∈ before, isBlank c) ∧ ∀ c ∈ after, isBlank c

theorem isBlank_digitChar {d : Nat} (h : d < 16) : isBlank d.digitChar = false := by
  have hall : ∀ d : Fin 16, isBlank d.val.digitChar = false := by decide
  exact hall ⟨d, h⟩

theorem padded_trimmed (chars : List Char) : Padded (trimmed chars) chars := by
  have hall (l : List Char) : ∀ c ∈ l.takeWhile isBlank, isBlank c :=
    List.all_eq_true.mp List.all_takeWhile
  let rest := chars.dropWhile isBlank
  refine ⟨chars.takeWhile isBlank, (rest.reverse.takeWhile isBlank).reverse, ?_, hall chars,
    fun c hc => hall rest.reverse c (List.mem_reverse.mp hc)⟩
  rw [List.append_assoc, trimmed, ← List.reverse_append, List.takeWhile_append_dropWhile,
    List.reverse_reverse, List.takeWhile_append_dropWhile]

theorem trimmed_of_padded {content chars : List Char} (hp : Padded content chars)
    (h : ∀ c ∈ content, isBlank c = false) : trimmed chars = content := by
  have hkeep (l : List Char) (hl : ∀ c ∈ l, isBlank c = false) : l.dropWhile isBlank = l := by
    cases l with
    | nil => rfl
    | cons c rest => simp [hl c List.mem_cons_self]
  obtain ⟨before, after, rfl, hb, ha⟩ := hp
  have hrev : ∀ c ∈ after.reverse, isBlank c := fun c hc => ha c (List.mem_reverse.mp hc)
  rw [trimmed, List.append_assoc, List.dropWhile_append_of_pos hb]
  cases content with
  | nil =>
    have hnone : (after ++ []).dropWhile isBlank = [] := List.dropWhile_append_of_pos ha
    rw [List.append_nil] at hnone
    simp [hnone]
  | cons c rest =>
    have hc : isBlank c = false := h c List.mem_cons_self
    rw [List.cons_append, List.dropWhile_cons_of_neg (by simp [hc]), ← List.cons_append,
      List.reverse_append, List.dropWhile_append_of_pos hrev,
      hkeep _ fun c' hc' => h c' (List.mem_reverse.mp hc'), List.reverse_reverse]

theorem Padded.refl (chars : List Char) : Padded chars chars := ⟨[], [], by simp, nofun, nofun⟩

theorem Padded.trans {inner middle outer : List Char} (h : Padded inner middle)
    (h' : Padded middle outer) : Padded inner outer := by
  obtain ⟨before, after, rfl, hb, ha⟩ := h
  obtain ⟨before', after', rfl, hb', ha'⟩ := h'
  refine ⟨before' ++ before, after ++ after', by simp, fun c hc => ?_, fun c hc => ?_⟩
  · exact (List.mem_append.mp hc).elim (hb' c) (hb c)
  · exact (List.mem_append.mp hc).elim (ha c) (ha' c)

theorem padded_line (content : List Char) : Padded content (content ++ ['\n']) :=
  ⟨[], ['\n'], by simp, nofun, List.all_eq_true.mp rfl⟩

end Precompiled.Text
