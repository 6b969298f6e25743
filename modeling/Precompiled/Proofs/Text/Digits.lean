import Precompiled.Text.Decimal
import Precompiled.Text.Hex

/-!
# Digits round trip

The digits of a number read back as that number.
-/

namespace Precompiled

theorem digitChar_of_mem_toDigits {b n : Nat} {c : Char} (hb : 1 < b)
    (h : c ∈ Nat.toDigits b n) : ∃ d < b, c = d.digitChar := by
  induction n using Nat.strongRecOn with
  | ind n ih =>
    by_cases hlt : n < b
    · rw [Nat.toDigits_of_lt_base hlt, List.mem_singleton] at h
      exact ⟨n, hlt, h⟩
    · have hle : b ≤ n := Nat.le_of_not_lt hlt
      rw [Nat.toDigits_of_base_le hb hle, List.mem_append, List.mem_singleton] at h
      rcases h with h | h
      · exact ih (n / b) (Nat.div_lt_self (by omega) hb) h
      · exact ⟨n % b, Nat.mod_lt n (by omega), h⟩

-- ---------------------------------------------------------------------------
-- Hexadecimal digits
-- ---------------------------------------------------------------------------

namespace Hex

theorem digit?_digitChar {d : Nat} (h : d < 16) : digit? d.digitChar = some d := by
  have hall : ∀ d : Fin 16, digit? d.val.digitChar = some d.val := by decide
  exact hall ⟨d, h⟩

theorem value?_append (a b : List Char) :
    value? (a ++ b) =
      (value? a).bind fun v => b.foldlM (fun value c => (digit? c).map (value * 16 + ·)) v := by
  simp [value?, List.foldlM_append]

theorem value?_toDigits (n : Nat) : value? (Nat.toDigits 16 n) = some n := by
  induction n using Nat.strongRecOn with
  | ind n ih =>
    by_cases h : n < 16
    · rw [Nat.toDigits_of_lt_base h]
      simp [value?, digit?_digitChar h]
    · have hle : 16 ≤ n := Nat.le_of_not_lt h
      rw [Nat.toDigits_of_base_le (by decide) hle, value?_append, ih (n / 16) (by omega)]
      simp [digit?_digitChar (Nat.mod_lt n (by decide : 0 < 16)), Nat.div_add_mod']

theorem value?_zeros (k : Nat) (chars : List Char) :
    value? (List.replicate k '0' ++ chars) = value? chars := by
  induction k with
  | zero => rfl
  | succ k ih =>
    have hzero : digit? '0' = some 0 := by decide
    rw [List.replicate_succ, List.cons_append, ← ih]
    simp [value?, hzero]

theorem toList_renderWide (width n : Nat) :
    (renderWide width n).toList =
      List.replicate (width - (Nat.toDigits 16 n).length) '0' ++ Nat.toDigits 16 n := by
  simp [renderWide]

theorem value?_renderWide (width n : Nat) : value? (renderWide width n).toList = some n := by
  rw [toList_renderWide, value?_zeros, value?_toDigits]

theorem length_renderWide {width n : Nat} (hw : 0 < width) (h : n < Nat.pow 16 width) :
    (renderWide width n).toList.length = width := by
  have hle : (Nat.toDigits 16 n).length ≤ width :=
    (Nat.length_toDigits_le_iff (by decide) hw).mpr h
  simp [toList_renderWide]
  omega

end Hex

-- ---------------------------------------------------------------------------
-- Decimal digits
-- ---------------------------------------------------------------------------

namespace Decimal

theorem toDigits_inj {m n : Nat} : Nat.toDigits 10 m = Nat.toDigits 10 n ↔ m = n := by
  refine ⟨fun h => ?_, fun h => h ▸ rfl⟩
  have hvalue (k : Nat) : Nat.ofDigitChars 10 (Nat.toDigits 10 k) 0 = k :=
    Nat.ofDigitChars_toDigits (by decide) (by decide)
  rw [← hvalue m, h, hvalue n]

theorem extend_digitChar {value d : Nat} (hd : d < 10) (h : value * 10 + d < UInt32.size) :
    extend value d.digitChar = .ok (value * 10 + d) := by
  have hdigit : d.digitChar.isDigit = true := by simp [Nat.isDigit_digitChar, hd]
  have hsub : d.digitChar.toNat - 48 = d := Nat.toNat_digitChar_sub_48_of_lt_ten hd
  simp [extend, hdigit, hsub, h]

theorem foldlM_toDigits {n : Nat} (h : n < UInt32.size) :
    (Nat.toDigits 10 n).foldlM extend 0 = .ok n := by
  induction n using Nat.strongRecOn with
  | ind n ih =>
    by_cases hlt : n < 10
    · rw [Nat.toDigits_of_lt_base hlt]
      have hext : extend 0 n.digitChar = .ok n := by
        have hlast := extend_digitChar hlt (by omega : 0 * 10 + n < UInt32.size)
        simpa using hlast
      simp only [List.foldlM_cons, List.foldlM_nil, hext]
      rfl
    · have hstep : n / 10 * 10 + n % 10 = n := by omega
      have hext : extend (n / 10) (n % 10).digitChar = .ok n := by
        rw [extend_digitChar (Nat.mod_lt n (by decide)) (by omega), hstep]
      rw [Nat.toDigits_of_base_le (by decide) (Nat.le_of_not_lt hlt), List.foldlM_append,
        ih (n / 10) (by omega) (by omega)]
      simp only [List.foldlM_cons, List.foldlM_nil, hext, bind, Except.bind]
      rfl

theorem digits_toDigits (value : UInt32) : digits (Nat.toDigits 10 value.toNat) = .ok value := by
  have hfold := foldlM_toDigits (UInt32.toNat_lt_size value)
  have hne : Nat.toDigits 10 value.toNat ≠ [] := Nat.toDigits_ne_nil
  unfold digits
  split
  · rename_i h; exact absurd h hne
  · rw [hfold]
    simp [pure, Except.pure, bind, Except.bind]

theorem word_toDigits (value : UInt32) : word (Nat.toDigits 10 value.toNat) = .ok value := by
  have hplus : '+' ∉ Nat.toDigits 10 value.toNat := fun h =>
    absurd (Nat.isDigit_of_mem_toDigits (by decide) (by decide) h) (by decide)
  unfold word
  split
  · rename_i rest h
    exact absurd (h ▸ List.mem_cons_self) hplus
  · exact digits_toDigits value

end Decimal

end Precompiled
