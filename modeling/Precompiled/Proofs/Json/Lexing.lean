import Precompiled.Proofs.Json.Numeral
import Precompiled.Proofs.Json.Quoted

/-!
# Lexing round trip

Tokens are read back from their spellings, whatever blanks stand between them. Only a number needs
more than its own bytes: it ends at the first byte that does not continue it, so two numbers must
not stand side by side (`Apart`).
-/

namespace Precompiled.Json

/-- The lexer has read these tokens, latest first, and may go on with any token that no number
continues into. -/
inductive Lexer.Holds : Lexer → List Token → Prop
  | between (T) : Holds ⟨T, .between⟩ T
  | number {n tok} (T) : n.token? = some tok → Holds ⟨T, .number n⟩ (tok :: T)

def Token.Readable (tok : Token) : Prop :=
  ∀ T, (tok.spelling.foldl Lexer.step ⟨T, .between⟩).Holds (tok :: T)

def Token.isNumber : Token → Bool
  | .int _ | .real _ => true
  | _ => false

/-- No two numbers stand side by side. -/
def Apart : List Token → Bool
  | a :: b :: rest => !(a.isNumber && b.isNumber) && Apart (b :: rest)
  | _ => true

/-- A byte that a number may go on with. -/
def continues (b : UInt8) : Bool :=
  (Char.ofUInt8 b).isDigit || Char.ofUInt8 b = '.' || Number.isMark (.ofUInt8 b) ||
    Char.ofUInt8 b = '+' || Char.ofUInt8 b = '-'

-- ---------------------------------------------------------------------------
-- The end of a number
-- ---------------------------------------------------------------------------

theorem Number.isNumber_of_token? {n : Number} {tok : Token} (h : n.token? = some tok) :
    tok.isNumber = true := by
  cases hp : n.phase <;> cases hneg : n.negative <;> by_cases hv : n.value = 0 <;>
    simp [Number.token?, hp, hneg, hv] at h <;> subst h <;> rfl

theorem Number.next?_eq_none {b : UInt8} (h : continues b = false) (n : Number) :
    n.next? b = none := by
  simp only [continues, Bool.or_eq_false_iff, decide_eq_false_iff_not] at h
  obtain ⟨⟨⟨⟨hdigit, hpoint⟩, hmark⟩, hplus⟩, hminus⟩ := h
  have hzero : Char.ofUInt8 b ≠ '0' := by
    intro he
    rw [he] at hdigit
    exact absurd hdigit (by decide)
  cases hp : n.phase <;> simp [Number.next?, Number.Phase.next?, *]

variable {l : Lexer} {T : List Token}

/-- A byte that no number goes on with ends whatever is under way. -/
theorem Lexer.Holds.step {b : UInt8} (h : l.Holds T) (hb : continues b = false) :
    l.step b = Lexer.start T b := by
  cases h with
  | between => rfl
  | number T hn => simp [Lexer.step, Number.next?_eq_none hb, hn]

theorem Lexer.Holds.blank {b : UInt8} (h : l.Holds T) (hb : isBlank b = true) :
    l.step b = ⟨T, .between⟩ := by
  simp only [isBlank, Bool.or_eq_true, decide_eq_true_eq] at hb
  rcases hb with ((rfl | rfl) | rfl) | rfl <;> exact h.step (by decide)

theorem Lexer.Holds.finish (h : l.Holds T) : l.finish = ⟨T.reverse, true⟩ := by
  cases h with
  | between => rfl
  | number T hn => simp [Lexer.finish, hn]

theorem Token.spelling_of_not_isNumber {tok : Token} (h : tok.isNumber = false) :
    ∃ b rest, tok.spelling = b :: rest ∧ continues b = false := by
  cases tok with
  | int value => simp [isNumber] at h
  | real digits => simp [isNumber] at h
  | text raw => exact ⟨'"'.toUInt8, raw ++ Utf8.encode "\"", rfl, by decide⟩
  | bool value => cases value <;> exact ⟨_, _, rfl, by decide⟩
  | _ => exact ⟨_, _, rfl, by decide⟩

theorem Lexer.Holds.token {tok : Token} (h : l.Holds T) (ht : tok.Readable)
    (hn : ∀ last ∈ T.head?, (last.isNumber && tok.isNumber) = false) :
    (tok.spelling.foldl Lexer.step l).Holds (tok :: T) := by
  cases h with
  | between => exact ht T
  | @number n last T hlast =>
    have hnot : tok.isNumber = false := by
      simpa [Number.isNumber_of_token? hlast] using hn last rfl
    obtain ⟨b, rest, hs, hb⟩ := Token.spelling_of_not_isNumber hnot
    have hread := ht (last :: T)
    rw [hs, List.foldl_cons] at hread ⊢
    rw [(Lexer.Holds.number T hlast).step hb]
    exact hread

-- ---------------------------------------------------------------------------
-- Readable tokens
-- ---------------------------------------------------------------------------

theorem Token.readable_of_word {tok : Token} (hn : tok.isNumber = false)
    (ht : ∀ raw, tok ≠ .text raw) : tok.Readable := by
  intro T
  cases tok with
  | int value => simp [isNumber] at hn
  | real digits => simp [isNumber] at hn
  | text raw => exact absurd rfl (ht raw)
  | bool value => cases value <;> exact .between _
  | _ => exact .between _

theorem start_digit (T : List Token) {d : Nat} (h : d < 10) :
    Lexer.start T (digitByte d) = ⟨T, .number (.whole false d)⟩ := by
  obtain rfl | rfl | rfl | rfl | rfl | rfl | rfl | rfl | rfl | rfl : d = 0 ∨ d = 1 ∨ d = 2 ∨
      d = 3 ∨ d = 4 ∨ d = 5 ∨ d = 6 ∨ d = 7 ∨ d = 8 ∨ d = 9 := by omega
  all_goals rfl

theorem foldl_number {n last : Number} {bytes : Bytes} (T : List Token)
    (h : bytes.foldlM Number.next? n = some last) :
    bytes.foldl Lexer.step ⟨T, .number n⟩ = ⟨T, .number last⟩ := by
  induction bytes generalizing n with
  | nil =>
    cases h
    rfl
  | cons b rest ih =>
    obtain ⟨next, hnext, hrest⟩ := Option.bind_eq_some_iff.mp h
    have hstep : Lexer.step ⟨T, .number n⟩ b = ⟨T, .number next⟩ := by
      simp [Lexer.step, hnext]
    rw [List.foldl_cons, hstep, ih hrest]

theorem foldl_whole (T : List Token) (negative : Bool) (n : Nat) :
    (signBytes negative ++ decimal n).foldl Lexer.step ⟨T, .between⟩ =
      ⟨T, .number (.whole negative n)⟩ := by
  obtain ⟨d, hd, rest, hdigits, hrun⟩ := Number.foldlM_decimal negative n
  have hfirst : (signBytes negative ++ [digitByte d]).foldl Lexer.step ⟨T, .between⟩ =
      ⟨T, .number (.whole negative d)⟩ := by
    cases negative with
    | false => exact start_digit T hd
    | true =>
      have hsign : Lexer.step ⟨T, .between⟩ '-'.toUInt8 = ⟨T, .number .minus⟩ := rfl
      have hrest : Lexer.step ⟨T, .number .minus⟩ (digitByte d) =
          ⟨T, .number (.whole true d)⟩ := by
        simp [Lexer.step, Number.next?_minus hd]
      rw [signBytes, if_pos rfl, List.singleton_append, List.foldl_cons, hsign, List.foldl_cons,
        hrest, List.foldl_nil]
  rw [hdigits, ← List.singleton_append, ← List.append_assoc, List.foldl_append, hfirst,
    foldl_number T hrun]

theorem Token.readable_int (value : Int) : (Token.int value).Readable := by
  intro T
  obtain ⟨negative, n, h, rfl⟩ := exists_signed value
  rw [spelling_signed h, foldl_whole]
  exact .number T (Number.token?_whole h)

theorem Token.readable_real {digits : Bytes} (h : Number.Real digits) :
    (Token.real digits).Readable := by
  intro T
  cases h with
  | mk negative n hf he hne =>
    obtain ⟨last, hrun, htoken⟩ := Number.foldlM_real hf he hne
    have hfoldl := foldl_number T hrun
    rw [← foldl_whole, ← List.foldl_append, ← List.append_assoc] at hfoldl
    rw [Token.spelling, hfoldl]
    exact .number T htoken

theorem foldl_formed (T : List Token) (read : Bytes) {raw : Bytes} (h : Quoted.Formed raw) :
    raw.foldl Lexer.step ⟨T, .text read .none⟩ = ⟨T, .text (raw.reverse ++ read) .none⟩ := by
  have hbackslash (read : Bytes) : Lexer.step ⟨T, .text read .none⟩ '\\'.toUInt8 =
      ⟨T, .text ('\\'.toUInt8 :: read) .backslash⟩ := rfl
  induction h generalizing read with
  | nil => rfl
  | plain hquote hslash hcontrol _ ih =>
    simp [Lexer.step, Lexer.stepText, hquote, hslash, hcontrol, ih]
  | @letter b rest hsimple _ ih =>
    have hu : b ≠ 'u'.toUInt8 := by
      rintro rfl
      exact absurd hsimple (by decide)
    rw [List.foldl_cons, hbackslash]
    simp [Lexer.step, Lexer.stepText, hu, hsimple, ih]
  | unit h₁ h₂ h₃ h₄ _ ih =>
    rw [List.foldl_cons, hbackslash]
    simp [Lexer.step, Lexer.stepText, h₁, h₂, h₃, h₄, ih]

theorem Token.spelling_text (raw : Bytes) :
    (Token.text raw).spelling = '"'.toUInt8 :: (raw ++ ['"'.toUInt8]) := rfl

theorem Token.readable_formed {raw : Bytes} (h : Quoted.Formed raw) :
    (Token.text raw).Readable := by
  intro T
  have hopen : Lexer.step ⟨T, .between⟩ '"'.toUInt8 = ⟨T, .text [] .none⟩ := rfl
  have hraw := foldl_formed T [] h
  rw [List.append_nil] at hraw
  have hclose (read : Bytes) : Lexer.step ⟨T, .text read .none⟩ '"'.toUInt8 =
      ⟨.text read.reverse :: T, .between⟩ := rfl
  rw [spelling_text, List.foldl_cons, hopen, List.foldl_append, hraw, List.foldl_cons,
    List.foldl_nil, hclose, List.reverse_reverse]
  exact .between _

-- ---------------------------------------------------------------------------
-- Texts
-- ---------------------------------------------------------------------------

/-- The tokens stand in the text in their order, and nothing else does but blanks. -/
inductive Spaced : List Token → Bytes → Prop
  | nil : Spaced [] []
  | blank {tokens text b} : Spaced tokens text → isBlank b = true → Spaced tokens (text ++ [b])
  | token {tokens text} (tok) : Spaced tokens text → Spaced (tokens ++ [tok]) (text ++ tok.spelling)

variable {tokens : List Token} {text : Bytes}

theorem Spaced.blanks {gap : Bytes} (h : Spaced tokens text) (hg : ∀ b ∈ gap, isBlank b = true) :
    Spaced tokens (text ++ gap) := by
  induction gap generalizing text with
  | nil => simpa using h
  | cons b rest ih =>
    rw [List.forall_mem_cons] at hg
    simpa using ih (h.blank hg.1) hg.2

theorem apart_concat {tok : Token} (h : Apart (tokens ++ [tok]) = true) :
    Apart tokens = true ∧ ∀ last ∈ tokens.getLast?, (last.isNumber && tok.isNumber) = false := by
  induction tokens with
  | nil => simp [Apart]
  | cons a rest ih =>
    cases rest with
    | nil =>
      simp only [List.cons_append, List.nil_append, Apart, Bool.and_true, Bool.not_eq_true'] at h
      exact ⟨rfl, by simpa using h⟩
    | cons b rest =>
      simp only [List.cons_append, Apart, Bool.and_eq_true] at h
      obtain ⟨hrest, hlast⟩ := ih h.2
      rw [List.getLast?_cons_cons]
      exact ⟨by simp [Apart, h.1, hrest], hlast⟩

theorem Spaced.holds (h : Spaced tokens text) (ht : ∀ tok ∈ tokens, tok.Readable)
    (hn : Apart tokens = true) : (text.foldl Lexer.step {}).Holds tokens.reverse := by
  induction h with
  | nil => exact .between []
  | blank _ hb ih =>
    rw [List.foldl_append, List.foldl_cons, List.foldl_nil, (ih ht hn).blank hb]
    exact .between _
  | token tok _ ih =>
    rw [List.forall_mem_append, List.forall_mem_singleton] at ht
    obtain ⟨hrest, hlast⟩ := apart_concat hn
    rw [List.foldl_append, List.reverse_concat]
    exact (ih ht.1 hrest).token ht.2 (by simpa using hlast)

/-- Tokens are read back from a text in which blanks stand anywhere between them. -/
theorem lex_spaced (h : Spaced tokens text) (ht : ∀ tok ∈ tokens, tok.Readable)
    (hn : Apart tokens = true) : lex text = ⟨tokens, true⟩ := by
  rw [lex, (h.holds ht hn).finish, List.reverse_reverse]

end Precompiled.Json
