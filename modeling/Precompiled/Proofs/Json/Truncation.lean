import Precompiled.Proofs.Json.Derivation
import Precompiled.Proofs.Json.Layout

/-!
# Texts that are cut short

The tokens of a value do not begin those of another one, and the lexer reads on in the same way
whatever it has read before. So a text that goes on after an array or an object is one whole value
only if it goes on with blanks (`Value.Spells.isBlank_of_append`): cut anywhere else, the text of a
container is no text of a value.
-/

namespace Precompiled.Json

-- ---------------------------------------------------------------------------
-- Reading on
-- ---------------------------------------------------------------------------

def Lexer.after (l : Lexer) (T : List Token) : Lexer := { l with tokens := l.tokens ++ T }

theorem Lexer.start_after (tokens T : List Token) (b : UInt8) :
    start (tokens ++ T) b = (start tokens b).after T := by
  unfold start
  split
  case h_13 =>
    split
    · rfl
    split <;> rfl
  all_goals rfl

theorem Lexer.stepText_after (tokens T : List Token) (read : Bytes) (b : UInt8) (escape : Escape) :
    stepText (tokens ++ T) read b escape = (stepText tokens read b escape).after T := by
  cases escape with
  | none =>
    simp only [stepText]
    split
    · rfl
    split
    · rfl
    split <;> rfl
  | backslash =>
    simp only [stepText]
    split
    · rfl
    split <;> rfl
  | hex left =>
    simp only [stepText]
    split <;> rfl

theorem Lexer.step_after (l : Lexer) (T : List Token) (b : UInt8) :
    (l.after T).step b = (l.step b).after T := by
  obtain ⟨tokens, mode⟩ := l
  cases mode with
  | between => exact start_after tokens T b
  | text read escape => exact stepText_after tokens T read b escape
  | stuck => rfl
  | word left tok =>
    match left with
    | [] => rfl
    | [last] =>
      simp only [Lexer.step, Lexer.after]
      split <;> rfl
    | next :: other :: rest =>
      simp only [Lexer.step, Lexer.after]
      split <;> rfl
  | number n =>
    simp only [Lexer.step, Lexer.after]
    split
    · rfl
    split
    · rename_i tok _
      exact start_after (tok :: tokens) T b
    · rfl

theorem Lexer.foldl_after (l : Lexer) (T : List Token) (bytes : Bytes) :
    bytes.foldl Lexer.step (l.after T) = (bytes.foldl Lexer.step l).after T := by
  induction bytes generalizing l with
  | nil => rfl
  | cons b rest ih => rw [List.foldl_cons, step_after, ih, List.foldl_cons]

theorem Lexer.finish_after (l : Lexer) (T : List Token) :
    (l.after T).finish = ⟨T.reverse ++ l.finish.tokens, l.finish.whole⟩ := by
  obtain ⟨tokens, mode⟩ := l
  cases mode with
  | number n =>
    simp only [Lexer.finish, Lexer.after]
    split <;> simp
  | _ => simp [Lexer.finish, Lexer.after]

/-- What comes after whole tokens is read like a text of its own. -/
theorem lex_append {text : Bytes} {T : List Token}
    (h : text.foldl Lexer.step {} = ⟨T, .between⟩) (rest : Bytes) :
    lex (text ++ rest) = ⟨T.reverse ++ (lex rest).tokens, (lex rest).whole⟩ := by
  have hstart : (⟨T, .between⟩ : Lexer) = Lexer.after {} T := rfl
  rw [lex, List.foldl_append, h, hstart, Lexer.foldl_after, Lexer.finish_after]
  rfl

-- ---------------------------------------------------------------------------
-- No value begins another one
-- ---------------------------------------------------------------------------

variable {v w : Value} {text rest : Bytes}

theorem Builder.foldl_extra (v : Value) (frames : List Frame) (tokens : List Token) :
    tokens.foldl Builder.step ⟨frames, .done v true⟩ = ⟨frames, .done v true⟩ := by
  induction tokens with
  | nil => rfl
  | cons tok rest ih => exact ih

theorem Value.Grammatical.eq_nil_of_append {more : List Token} (hv : v.Grammatical)
    (hw : w.Grammatical) (h : w.tokens = v.tokens ++ more) : more = [] := by
  have hput : w.tokens.foldl Builder.step {} = Builder.put [] w := foldl_value hw []
  have hfirst : v.tokens.foldl Builder.step {} = Builder.put [] v := foldl_value hv []
  rw [h, List.foldl_append, hfirst] at hput
  cases more with
  | nil => rfl
  | cons tok more =>
    have hextra : (tok :: more).foldl Builder.step (Builder.put [] v) = ⟨[], .done v true⟩ :=
      Builder.foldl_extra v [] more
    rw [hextra] at hput
    simp [Builder.put] at hput

def Value.isContainer : Value → Bool
  | .array .. | .object .. => true
  | _ => false

/-- A container ends with a bracket, so its last token is no number. -/
theorem Value.Grammatical.tokens_eq_concat (h : v.Grammatical) (hc : v.isContainer = true) :
    ∃ tokens tok, v.tokens = tokens ++ [tok] ∧ tok.isNumber = false := by
  cases h with
  | array => exact ⟨_, .closeArray, by rw [Value.tokens, if_pos rfl], rfl⟩
  | object => exact ⟨_, .closeObject, by rw [Value.tokens, if_pos rfl], rfl⟩
  | _ => simp [Value.isContainer] at hc

theorem Value.Spells.foldl_step (h : v.Spells text) (hc : v.isContainer = true) :
    text.foldl Lexer.step {} = ⟨v.tokens.reverse, .between⟩ := by
  have hholds := h.spaced.holds h.grammatical.readable (apart_value v)
  obtain ⟨tokens, tok, htokens, hnumber⟩ := h.grammatical.tokens_eq_concat hc
  rw [htokens, List.reverse_concat] at hholds ⊢
  generalize text.foldl Lexer.step {} = l at hholds
  cases hholds with
  | between => rfl
  | number T ht => simp [Number.isNumber_of_token? ht] at hnumber

theorem Spaced.isBlank_of_nil {tokens : List Token} (h : Spaced tokens text) (ht : tokens = []) :
    ∀ b ∈ text, isBlank b = true := by
  induction h with
  | nil => simp
  | blank _ hb ih => exact List.forall_mem_append.mpr ⟨ih ht, List.forall_mem_singleton.mpr hb⟩
  | token => simp at ht

/-- Nothing but blanks may come after an array or an object. -/
theorem Value.Spells.isBlank_of_append (h : v.Spells text) (hc : v.isContainer = true)
    (hw : w.Spells (text ++ rest)) : ∀ b ∈ rest, isBlank b = true := by
  have hlex := lex_spaced hw.spaced hw.grammatical.readable (apart_value w)
  rw [lex_append (h.foldl_step hc), List.reverse_reverse, Lexed.mk.injEq] at hlex
  obtain ⟨htokens, hwhole⟩ := hlex
  have hnone : (lex rest).tokens = [] :=
    h.grammatical.eq_nil_of_append hw.grammatical htokens.symm
  have hrest : lex rest = ⟨[], true⟩ := by rw [← hnone, ← hwhole]
  exact (spaced_of_lex hrest).1.isBlank_of_nil rfl

-- ---------------------------------------------------------------------------
-- The end of a layout
-- ---------------------------------------------------------------------------

theorem pretty_concat (tokens : List Token) (tok : Token) :
    ∃ text, pretty (tokens ++ [tok]) = text ++ tok.spelling := by
  obtain ⟨parts, hparts⟩ : ∃ parts,
      ((tokens ++ [tok]).foldl Layout.Progress.step {}).parts = tok.spelling :: parts := by
    rw [List.foldl_append]
    exact ⟨_, rfl⟩
  refine ⟨parts.reverse.flatten, ?_⟩
  rw [pretty, hparts]
  simp

end Precompiled.Json
