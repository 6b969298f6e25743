/-!
# Parts of a text with marks between them

A text that is put together from parts comes apart in one way at a mark that stands in none of them:
at the first mark, at the last one, and at all of them.
-/

namespace Precompiled.Text

variable {mark : Char} {a a' b b' : List Char}

theorem append_mark_inj_left (h : mark ∉ a) (h' : mark ∉ a') :
    a ++ mark :: b = a' ++ mark :: b' ↔ a = a' ∧ b = b' := by
  induction a generalizing a' with
  | nil =>
    cases a' with
    | nil => simp
    | cons c' rest' =>
      rw [List.mem_cons, not_or] at h'
      simp [h'.1]
  | cons c rest ih =>
    rw [List.mem_cons, not_or] at h
    cases a' with
    | nil => simp [Ne.symm h.1]
    | cons c' rest' =>
      rw [List.mem_cons, not_or] at h'
      rw [List.cons_append, List.cons_append, List.cons.injEq, ih h.2 h'.2, List.cons.injEq,
        and_assoc]

theorem append_mark_inj_right (h : mark ∉ b) (h' : mark ∉ b') :
    a ++ mark :: b = a' ++ mark :: b' ↔ a = a' ∧ b = b' := by
  -- The last mark is the first one of the text that is read from its end.
  have hturn (x y : List Char) : (x ++ mark :: y).reverse = y.reverse ++ mark :: x.reverse := by
    simp
  rw [← List.mem_reverse] at h h'
  rw [← List.reverse_inj, hturn, hturn, append_mark_inj_left h h', List.reverse_inj,
    List.reverse_inj, and_comm]

variable {sep : List Char} {parts parts' : List (List Char)}

theorem mem_intercalate {c : Char} (h : c ∈ sep.intercalate parts) :
    c ∈ sep ∨ ∃ part ∈ parts, c ∈ part := by
  induction parts with
  | nil => simp at h
  | cons part rest ih =>
    cases rest with
    | nil =>
      rw [List.intercalate_singleton] at h
      exact .inr ⟨part, List.mem_cons_self, h⟩
    | cons next others =>
      rw [List.intercalate_cons_cons, List.mem_append, List.mem_append] at h
      rcases h with (h | h) | h
      · exact .inr ⟨part, List.mem_cons_self, h⟩
      · exact .inl h
      · refine (ih h).imp_right ?_
        rintro ⟨part', hmem, hc⟩
        exact ⟨part', List.mem_cons_of_mem part hmem, hc⟩

theorem intercalate_mark (part next : List Char) (others : List (List Char)) :
    (mark :: sep).intercalate (part :: next :: others) =
      part ++ mark :: (sep ++ (mark :: sep).intercalate (next :: others)) := by
  simp [List.intercalate_cons_cons]

theorem mark_mem_intercalate (part next : List Char) (others : List (List Char)) :
    mark ∈ (mark :: sep).intercalate (part :: next :: others) := by
  simp

/-- Parts that are joined can be told apart where the separator begins with a mark that stands in
none of them. -/
theorem intercalate_inj (h : ∀ part ∈ parts, mark ∉ part) (h' : ∀ part ∈ parts', mark ∉ part)
    (hne : parts ≠ []) (hne' : parts' ≠ []) :
    (mark :: sep).intercalate parts = (mark :: sep).intercalate parts' ↔ parts = parts' := by
  refine ⟨fun heq => ?_, fun heq => heq ▸ rfl⟩
  induction parts generalizing parts' with
  | nil => exact absurd rfl hne
  | cons part rest ih =>
    obtain ⟨part', rest', rfl⟩ := List.exists_cons_of_ne_nil hne'
    rw [List.forall_mem_cons] at h h'
    -- The last part has no mark after it, and every other one has.
    cases rest with
    | nil =>
      rw [List.intercalate_singleton] at heq
      cases rest' with
      | nil => rw [heq, List.intercalate_singleton]
      | cons next' others' => exact absurd (heq ▸ mark_mem_intercalate part' next' others') h.1
    | cons next others =>
      cases rest' with
      | nil =>
        rw [List.intercalate_singleton] at heq
        exact absurd (heq ▸ mark_mem_intercalate part next others) h'.1
      | cons next' others' =>
        rw [intercalate_mark, intercalate_mark, append_mark_inj_left h.1 h'.1,
          List.append_cancel_left_eq] at heq
        have hrest := ih h.2 h'.2 (by simp) (by simp) heq.2
        rw [heq.1, hrest]

end Precompiled.Text
