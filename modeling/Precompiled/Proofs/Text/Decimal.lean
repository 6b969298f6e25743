import Precompiled.Proofs.Attempt
import Precompiled.Proofs.Text.Blank
import Precompiled.Text.Decimal

/-!
# Rows of decimal digits

Which rows of characters are read as a 32-bit number, and as which one. A row states a number of any
size (`Numeral`), and it is read exactly if that number fits.
-/

namespace Precompiled.Decimal

/-- One or more digits that state a number. There may be zeros before the others. -/
structure Numeral (chars : List Char) (n : Nat) : Prop where
  nonempty : chars ≠ []
  digits : ∀ c ∈ chars, c.isDigit
  value : Nat.ofDigitChars 10 chars 0 = n

inductive Word : List Char → Nat → Prop
  | plain {chars n} : Numeral chars n → Word chars n
  | signed {chars n} : Numeral chars n → Word ('+' :: chars) n

theorem isBlank_of_isDigit {c : Char} (h : c.isDigit) : Text.isBlank c = false := by
  have hall : ∀ n : Fin 58, (Char.ofNat n).isDigit → Text.isBlank (Char.ofNat n) = false := by
    decide
  have hlt : c.toNat < 58 := by
    have hval : c.toNat = c.val.toNat := rfl
    simp only [Char.isDigit, UInt32.le_iff_toNat_le] at h
    grind
  have hn := hall ⟨c.toNat, hlt⟩
  rw [Char.ofNat_toNat] at hn
  exact hn h

namespace Numeral

variable {chars : List Char} {n : Nat}

theorem no_plus (h : Numeral chars n) : '+' ∉ chars :=
  fun hc => absurd (h.digits _ hc) (by decide)

theorem not_blank (h : Numeral chars n) : ∀ c ∈ chars, Text.isBlank c = false :=
  fun c hc => isBlank_of_isDigit (h.digits c hc)

end Numeral

namespace Word

variable {chars : List Char} {m n : Nat}

theorem not_blank (h : Word chars n) : ∀ c ∈ chars, Text.isBlank c = false := by
  cases h with
  | plain h => exact h.not_blank
  | signed h => exact List.forall_mem_cons.mpr ⟨rfl, h.not_blank⟩

theorem unique (h : Word chars m) (h' : Word chars n) : m = n := by
  cases h with
  | plain h =>
    cases h' with
    | plain h' => exact h.value.symm.trans h'.value
    | signed _ => exact absurd List.mem_cons_self h.no_plus
  | signed h =>
    cases h' with
    | plain h' => exact absurd List.mem_cons_self h'.no_plus
    | signed h' => exact h.value.symm.trans h'.value

end Word

-- ---------------------------------------------------------------------------
-- Reading
-- ---------------------------------------------------------------------------

theorem extend_ok {value next : Nat} {c : Char} :
    extend value c = .ok next ↔
      c.isDigit ∧ 10 * value + (c.toNat - '0'.toNat) = next ∧ next < UInt32.size := by
  rw [extend, Nat.mul_comm 10]
  split
  · simp only [*, true_and]
    split
    · grind
    · grind
  · simp [*]

theorem le_ofDigitChars (chars : List Char) (value : Nat) :
    value ≤ Nat.ofDigitChars 10 chars value := by
  rw [Nat.ofDigitChars_eq_ofDigitChars_zero]
  have hpow : 0 < Nat.pow 10 chars.length := Nat.pow_pos (by decide)
  exact Nat.le_add_right_of_le (Nat.le_mul_of_pos_left value hpow)

/-- The limit is looked at after each digit, which comes to the same as looking at the end. -/
theorem foldlM_extend_ok {chars : List Char} {value n : Nat} (hv : value < UInt32.size) :
    chars.foldlM extend value = .ok n ↔
      (∀ c ∈ chars, c.isDigit) ∧ Nat.ofDigitChars 10 chars value = n ∧ n < UInt32.size := by
  induction chars generalizing value with
  | nil =>
    rw [List.foldlM_nil, pure_ok, Nat.ofDigitChars_nil]
    constructor
    · rintro rfl
      exact ⟨nofun, rfl, hv⟩
    · rintro ⟨-, h, -⟩
      exact h
  | cons c rest ih =>
    rw [List.foldlM_cons, bind_ok, Nat.ofDigitChars_cons, List.forall_mem_cons]
    constructor
    · rintro ⟨next, hnext, hrest⟩
      obtain ⟨hc, rfl, hlt⟩ := extend_ok.mp hnext
      obtain ⟨hdigits, hvalue, hn⟩ := (ih hlt).mp hrest
      exact ⟨⟨hc, hdigits⟩, hvalue, hn⟩
    · rintro ⟨⟨hc, hdigits⟩, hvalue, hn⟩
      have hle := le_ofDigitChars rest (10 * value + (c.toNat - '0'.toNat))
      have hlt : 10 * value + (c.toNat - '0'.toNat) < UInt32.size := by omega
      exact ⟨_, extend_ok.mpr ⟨hc, rfl, hlt⟩, (ih hlt).mpr ⟨hdigits, hvalue, hn⟩⟩

theorem digits_ok {chars : List Char} {value : UInt32} :
    digits chars = .ok value ↔ Numeral chars value.toNat := by
  cases chars with
  | nil => exact ⟨nofun, fun h => absurd rfl h.nonempty⟩
  | cons c rest =>
    rw [digits, bind_ok]
    constructor
    · rintro ⟨n, hn, hv⟩
      obtain ⟨hdigits, hvalue, hlt⟩ := (foldlM_extend_ok (by decide)).mp hn
      obtain rfl := pure_ok.mp hv
      exact ⟨List.cons_ne_nil c rest, hdigits, by rw [hvalue, UInt32.toNat_ofNat_of_lt' hlt]⟩
    · intro h
      have hn := (foldlM_extend_ok (by decide)).mpr ⟨h.digits, h.value, value.toNat_lt_size⟩
      exact ⟨_, hn, pure_ok.mpr UInt32.ofNat_toNat⟩
    · exact List.cons_ne_nil c rest

theorem word_ok {chars : List Char} {value : UInt32} :
    word chars = .ok value ↔ Word chars value.toNat := by
  unfold word
  split
  · rename_i rest
    rw [digits_ok]
    refine ⟨.signed, fun h => ?_⟩
    cases h with
    | plain h => exact absurd List.mem_cons_self h.no_plus
    | signed h => exact h
  · rename_i hplus
    rw [digits_ok]
    refine ⟨.plain, fun h => ?_⟩
    cases h with
    | plain h => exact h
    | signed _ => exact absurd rfl (hplus _)

end Precompiled.Decimal
