import Precompiled.Proofs.Json.Building

/-!
# The tokens of a text are its own

What the lexer has taken is the tokens it holds, with blanks between them, and the beginning of one
more (`Lexer.Follows`). Every byte keeps this, so a text that is cut into tokens to its end consists
of their spellings and blanks, and its numbers and strings are those of the grammar.
-/

namespace Precompiled.Json

def Token.Grammatical : Token → Prop
  | .real digits => Number.Real digits
  | .text raw => Quoted.Formed raw
  | _ => True

-- ---------------------------------------------------------------------------
-- Strings under way
-- ---------------------------------------------------------------------------

inductive Quoted.UnderWay : Escape → Bytes → Prop
  | none {raw} : Formed raw → UnderWay .none raw
  | backslash {raw} : Formed raw → UnderWay .backslash (raw ++ ['\\'.toUInt8])
  | hex {raw digits left} : Formed raw → (∀ d ∈ digits, isHexDigit (.ofUInt8 d) = true) →
      digits.length + left = 4 → 0 < left →
      UnderWay (.hex left) (raw ++ '\\'.toUInt8 :: 'u'.toUInt8 :: digits)

theorem Quoted.formed_unit {digits : Bytes} (h : ∀ d ∈ digits, isHexDigit (.ofUInt8 d) = true)
    (hlen : digits.length = 4) : Formed ('\\'.toUInt8 :: 'u'.toUInt8 :: digits) := by
  match digits, hlen with
  | [b₁, b₂, b₃, b₄], _ =>
    simp only [List.forall_mem_cons] at h
    exact .unit h.1 h.2.1 h.2.2.1 h.2.2.2.1 .nil

-- ---------------------------------------------------------------------------
-- The machine
-- ---------------------------------------------------------------------------

/-- The tokens, latest first, make up the text and belong to the grammar. -/
structure Makes (T : List Token) (text : Bytes) : Prop where
  spaced : Spaced T.reverse text
  grammatical : ∀ tok ∈ T, tok.Grammatical

/-- What the lexer has taken. -/
inductive Lexer.Follows : Lexer → Bytes → Prop
  | between {T text} : Makes T text → Follows ⟨T, .between⟩ text
  | word {T text tok done left} : Makes T text → tok.Grammatical → tok.spelling = done ++ left →
      Follows ⟨T, .word left tok⟩ (text ++ done)
  | number {T text n} : Makes T text → n.UnderWay → Follows ⟨T, .number n⟩ (text ++ n.read.reverse)
  | text {T text read escape} : Makes T text → Quoted.UnderWay escape read.reverse →
      Follows ⟨T, .text read escape⟩ (text ++ '"'.toUInt8 :: read.reverse)
  | stuck (T text) : Follows ⟨T, .stuck⟩ text

variable {T : List Token} {text : Bytes} {b : UInt8} {tok : Token} {l : Lexer}

theorem Makes.blank (h : Makes T text) (hb : isBlank b = true) : Makes T (text ++ [b]) :=
  ⟨h.spaced.blank hb, h.grammatical⟩

theorem Makes.token (h : Makes T text) (tok : Token) (ht : tok.Grammatical) :
    Makes (tok :: T) (text ++ tok.spelling) := by
  refine ⟨?_, List.forall_mem_cons.mpr ⟨ht, h.grammatical⟩⟩
  rw [List.reverse_cons]
  exact h.spaced.token tok

theorem Makes.number {n : Number} (h : Makes T text) (hn : n.UnderWay) (ht : n.token? = some tok) :
    Makes (tok :: T) (text ++ n.read.reverse) := by
  obtain ⟨hs, hreal⟩ := hn.token ht
  have hgrammatical : tok.Grammatical := by
    cases tok with
    | real digits => exact hreal digits rfl
    | text raw => exact absurd (Number.isNumber_of_token? ht) (by simp [Token.isNumber])
    | _ => trivial
  rw [← hs]
  exact h.token tok hgrammatical

section
variable {c : Char}

theorem Lexer.Follows.mark (h : Makes T text) (hb : Char.ofUInt8 b = c) (ht : tok.Grammatical)
    (hs : tok.spelling = [c.toUInt8]) : Follows ⟨tok :: T, .between⟩ (text ++ [b]) := by
  rw [eq_toUInt8 hb, ← hs]
  exact .between (h.token tok ht)

theorem Lexer.Follows.letter {left : Bytes} (h : Makes T text) (hb : Char.ofUInt8 b = c)
    (ht : tok.Grammatical) (hs : tok.spelling = c.toUInt8 :: left) :
    Follows ⟨T, .word left tok⟩ (text ++ [b]) := by
  rw [eq_toUInt8 hb]
  exact .word h ht hs

end

theorem Lexer.Follows.start (h : Makes T text) (b : UInt8) :
    (Lexer.start T b).Follows (text ++ [b]) := by
  by_cases hdigit : (Char.ofUInt8 b).isDigit = true
  · obtain ⟨d, hd, rfl⟩ := exists_digitByte hdigit
    rw [start_digit T hd]
    simpa [Number.whole, signBytes, decimal_of_lt hd] using Follows.number h (.whole false d)
  unfold Lexer.start
  split
  · exact .mark h ‹_› trivial rfl
  · exact .mark h ‹_› trivial rfl
  · exact .mark h ‹_› trivial rfl
  · exact .mark h ‹_› trivial rfl
  · exact .mark h ‹_› trivial rfl
  · exact .mark h ‹_› trivial rfl
  · rename_i hquote
    rw [eq_toUInt8 hquote]
    exact .text h (.none .nil)
  · exact .letter h ‹_› trivial rfl
  · exact .letter h ‹_› trivial rfl
  · exact .letter h ‹_› trivial rfl
  · rename_i hminus
    rw [eq_toUInt8 hminus]
    exact .number h .minus
  · rename_i hzero
    exact absurd (by rw [hzero]; decide) hdigit
  · split
    · exact .between (h.blank ‹_›)
    · exact .stuck T _

theorem Lexer.Follows.word_step {done left : Bytes} (h : Makes T text) (ht : tok.Grammatical)
    (hs : tok.spelling = done ++ left) (b : UInt8) :
    (Lexer.step ⟨T, .word left tok⟩ b).Follows (text ++ done ++ [b]) := by
  match left with
  | [] => exact .stuck T _
  | [last] =>
    simp only [Lexer.step]
    split
    · subst b
      have hnext := h.token tok ht
      rw [hs, ← List.append_assoc] at hnext
      exact .between hnext
    · exact .stuck T _
  | next :: other :: rest =>
    simp only [Lexer.step]
    split
    · subst b
      rw [List.append_assoc]
      exact .word h ht (by simpa using hs)
    · exact .stuck T _

theorem Lexer.Follows.text_step {read : Bytes} {escape : Escape} (h : Makes T text)
    (hr : Quoted.UnderWay escape read.reverse) (b : UInt8) :
    (Lexer.stepText T read b escape).Follows (text ++ '"'.toUInt8 :: read.reverse ++ [b]) := by
  have hgoes {next : Escape} (hnext : Quoted.UnderWay next (read.reverse ++ [b])) :
      Follows ⟨T, .text (b :: read) next⟩ (text ++ '"'.toUInt8 :: read.reverse ++ [b]) := by
    have hunder : Quoted.UnderWay next (b :: read).reverse := by simpa using hnext
    simpa using Follows.text h hunder
  -- The lexer keeps the bytes latest first; what is under way is said of them in reading order.
  generalize hraw : read.reverse = done at hr hgoes ⊢
  cases hr with
  | none hformed =>
    simp only [Lexer.stepText]
    split
    · subst b
      have hnext := h.token (.text done) hformed
      rw [Token.spelling_text] at hnext
      exact .between (by simpa [hraw] using hnext)
    split
    · subst b
      exact hgoes (.backslash hformed)
    split
    · exact .stuck T _
    · exact hgoes (.none (hformed.append (.plain ‹_› ‹_› ‹_› .nil)))
  | @backslash raw hformed =>
    simp only [Lexer.stepText]
    split
    · subst b
      have hunit : Quoted.UnderWay (.hex 4) (raw ++ ['\\'.toUInt8, 'u'.toUInt8]) :=
        .hex hformed (List.forall_mem_nil _) rfl (by decide)
      exact hgoes (by simpa using hunit)
    split
    · have hletter := hformed.append (.letter (b := b) ‹_› .nil)
      exact hgoes (.none (by simpa using hletter))
    · exact .stuck T _
  | @hex raw digits left hformed hdigits hlen hpos =>
    simp only [Lexer.stepText]
    split
    · rename_i hhex
      have hmore : ∀ d ∈ digits ++ [b], isHexDigit (.ofUInt8 d) = true :=
        List.forall_mem_append.mpr ⟨hdigits, List.forall_mem_singleton.mpr hhex⟩
      refine hgoes ?_
      rw [List.append_assoc, List.cons_append, List.cons_append]
      split
      · have hunit := Quoted.formed_unit hmore (by simp; omega)
        exact .none (hformed.append hunit)
      · exact .hex hformed hmore (by simp; omega) (by omega)
    · exact .stuck T _

theorem Lexer.Follows.step (h : l.Follows text) (b : UInt8) : (l.step b).Follows (text ++ [b]) := by
  cases h with
  | between h => exact .start h b
  | word h ht hs => exact .word_step h ht hs b
  | text h hr => exact .text_step h hr b
  | stuck T => exact .stuck T _
  | @number T text n h hn =>
    simp only [Lexer.step]
    split
    · rename_i next hnext
      have hread : next.read = b :: n.read := by
        obtain ⟨p, -, rfl⟩ := Number.next?_eq_some hnext
        rfl
      have hfollows := Follows.number h (hn.next hnext)
      simpa [hread] using hfollows
    split
    · rename_i tok htok
      exact .start (h.number hn htok) b
    · exact .stuck T _

theorem Lexer.Follows.run (h : l.Follows text) (bytes : Bytes) :
    (bytes.foldl Lexer.step l).Follows (text ++ bytes) := by
  induction bytes generalizing l text with
  | nil => simpa using h
  | cons b rest ih => simpa using ih (h.step b)

theorem Lexer.Follows.finish (h : l.Follows text) {tokens : List Token}
    (hl : l.finish = ⟨tokens, true⟩) : Makes tokens.reverse text := by
  cases h with
  | between h =>
    cases hl
    rwa [List.reverse_reverse]
  | number h hn =>
    simp only [Lexer.finish] at hl
    split at hl
    · cases hl
      rw [List.reverse_reverse]
      exact h.number hn ‹_›
    · cases hl
  | word | text | stuck => cases hl

/-- A text that is cut into tokens to its end consists of them and of blanks. -/
theorem spaced_of_lex {tokens : List Token} (h : lex text = ⟨tokens, true⟩) :
    Spaced tokens text ∧ ∀ tok ∈ tokens, tok.Grammatical := by
  have hempty : Makes [] [] := ⟨.nil, by simp⟩
  have hmakes := ((Lexer.Follows.between hempty).run text).finish h
  exact ⟨by simpa using hmakes.spaced, by simpa using hmakes.grammatical⟩

end Precompiled.Json
