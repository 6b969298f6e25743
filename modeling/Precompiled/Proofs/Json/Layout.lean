import Precompiled.Json.Layout
import Precompiled.Proofs.Json.Building

/-!
# Layouts round trip

Both layouts put nothing but blanks between the tokens, so a value of the grammar is read back
from either of them.
-/

namespace Precompiled.Json

namespace Layout

theorem isBlank_gap {previous next : Token} {depth : Nat} {b : UInt8}
    (h : b ∈ gap previous next depth) : isBlank b = true := by
  have hline : b ∈ line depth → isBlank b = true := by
    intro hb
    rcases List.mem_cons.mp hb with rfl | hb
    · decide
    · rw [List.eq_of_mem_replicate hb]; decide
  unfold gap at h
  split at h
  · rw [List.mem_singleton.mp h]; decide
  split at h
  · split at h
    · simp at h
    · exact hline h
  split at h
  · exact hline h
  · simp at h

theorem Progress.step_spaced {p : Progress} {tokens : List Token} (next : Token)
    (h : Spaced tokens p.parts.reverse.flatten) :
    Spaced (tokens ++ [next]) (p.step next).parts.reverse.flatten := by
  have hstep : ∃ blanks, (p.step next).parts = next.spelling :: blanks :: p.parts ∧
      ∀ b ∈ blanks, isBlank b = true := by
    refine ⟨_, rfl, fun b hb => ?_⟩
    split at hb
    · simp at hb
    · exact isBlank_gap hb
  obtain ⟨blanks, hparts, hblanks⟩ := hstep
  rw [hparts]
  simpa using (h.blanks hblanks).token next

theorem Progress.foldl_spaced {p : Progress} {tokens : List Token} (rest : List Token)
    (h : Spaced tokens p.parts.reverse.flatten) :
    Spaced (tokens ++ rest) (rest.foldl Progress.step p).parts.reverse.flatten := by
  induction rest generalizing p tokens with
  | nil => simpa using h
  | cons next rest ih => simpa using ih (step_spaced next h)

end Layout

theorem spaced_pretty (tokens : List Token) : Spaced tokens (pretty tokens) := by
  have hempty : Spaced [] (Layout.Progress.parts {}).reverse.flatten := .nil
  exact Layout.Progress.foldl_spaced tokens hempty

theorem spaced_compact (tokens : List Token) : Spaced tokens (compact tokens) := by
  have happend {done text} (h : Spaced done text) :
      Spaced (done ++ tokens) (text ++ compact tokens) := by
    induction tokens generalizing done text with
    | nil => simpa [compact] using h
    | cons tok rest ih => simpa [compact] using ih (h.token tok)
  exact happend .nil

variable {v : Value}

theorem Value.Grammatical.spells_compact (h : v.Grammatical) : v.Spells (compact v.tokens) :=
  ⟨h, spaced_compact v.tokens⟩

theorem Value.Grammatical.spells_pretty (h : v.Grammatical) {last : Bytes}
    (hl : ∀ b ∈ last, isBlank b = true) : v.Spells (pretty v.tokens ++ last) :=
  ⟨h, (spaced_pretty v.tokens).blanks hl⟩

end Precompiled.Json
