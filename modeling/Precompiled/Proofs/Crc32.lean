import Precompiled.Crc32

/-!
# What the check value detects

The register loses nothing: a bit that leaves it decides the highest bit of what stays, so bytes
that follow carry a difference on to the end (`run_inj`). Up to four bytes enter the register
as the digits of one number (`run_packed`), so they are told apart by what they leave
there (`eq_of_run`). Hence a difference within four bytes in a row always shows (`crc32_ne`).
-/

namespace Precompiled.Crc32

-- ---------------------------------------------------------------------------
-- One bit
-- ---------------------------------------------------------------------------

theorem and_one_eq_one {x : UInt32} : x &&& 1 = 1 ↔ x.toNat % 2 = 1 := by
  rw [← UInt32.toNat_inj, UInt32.toNat_and]
  exact iff_of_eq (congrArg (· = 1) (Nat.and_one_is_mod x.toNat))

theorem shift_of_even {x : UInt32} (h : x.toNat % 2 = 0) : shift x = x >>> 1 := by
  rw [shift, if_neg (by rw [and_one_eq_one]; omega)]

theorem shift_of_odd {x : UInt32} (h : x.toNat % 2 = 1) : shift x = (x >>> 1) ^^^ polynomial := by
  rw [shift, if_pos (and_one_eq_one.mpr h)]

theorem toNat_shiftRight_one (x : UInt32) : (x >>> 1).toNat = x.toNat / 2 := by
  rw [UInt32.toNat_shiftRight]
  exact Nat.shiftRight_eq_div_pow x.toNat 1

theorem shift_xor (x y : UInt32) : shift (x ^^^ y) = shift x ^^^ shift y := by
  have hparity : (x ^^^ y).toNat % 2 = 1 ↔ ¬ (x.toNat % 2 = 1 ↔ y.toNat % 2 = 1) := by
    rw [UInt32.toNat_xor]
    exact Nat.xor_mod_two_eq_one
  rcases Nat.mod_two_eq_zero_or_one x.toNat with hx | hx <;>
    rcases Nat.mod_two_eq_zero_or_one y.toNat with hy | hy
  · rw [shift_of_even (by omega), shift_of_even hx, shift_of_even hy, UInt32.shiftRight_xor]
  · rw [shift_of_odd (by omega), shift_of_even hx, shift_of_odd hy, UInt32.shiftRight_xor,
      UInt32.xor_assoc]
  · rw [shift_of_odd (by omega), shift_of_odd hx, shift_of_even hy, UInt32.shiftRight_xor,
      UInt32.xor_assoc, UInt32.xor_assoc, UInt32.xor_comm polynomial]
  · have hcancel (a b p : UInt32) : (a ^^^ p) ^^^ (b ^^^ p) = a ^^^ b := by
      rw [UInt32.xor_comm b, ← UInt32.xor_assoc, UInt32.xor_assoc a, UInt32.xor_self,
        UInt32.xor_zero]
    rw [shift_of_even (by omega), shift_of_odd hx, shift_of_odd hy, UInt32.shiftRight_xor, hcancel]

/-- The polynomial has the highest bit, which no half of a register has. -/
theorem eq_zero_of_shift {x : UInt32} (h : shift x = 0) : x = 0 := by
  rw [← UInt32.toNat_inj] at h ⊢
  have hhalf := toNat_shiftRight_one x
  have hlt := UInt32.toNat_lt x
  rcases Nat.mod_two_eq_zero_or_one x.toNat with hx | hx
  · rw [shift_of_even hx, hhalf] at h
    have h0 : (0 : UInt32).toNat = 0 := rfl
    omega
  · rw [shift_of_odd hx, UInt32.toNat_inj, UInt32.xor_eq_zero_iff] at h
    rw [h] at hhalf
    have hp : polynomial.toNat = 3988292384 := rfl
    omega

theorem shift_inj {x y : UInt32} (h : shift x = shift y) : x = y := by
  rw [← UInt32.xor_eq_zero_iff, ← shift_xor] at h
  exact UInt32.xor_eq_zero_iff.mp (eq_zero_of_shift h)

-- ---------------------------------------------------------------------------
-- Several bits
-- ---------------------------------------------------------------------------

theorem shifts_xor (n : Nat) (x y : UInt32) :
    Nat.repeat shift n (x ^^^ y) = Nat.repeat shift n x ^^^ Nat.repeat shift n y := by
  induction n with
  | zero => rfl
  | succ n ih => rw [Nat.repeat, Nat.repeat, Nat.repeat, ih, shift_xor]

theorem shifts_inj {n : Nat} {x y : UInt32} (h : Nat.repeat shift n x = Nat.repeat shift n y) :
    x = y := by
  induction n with
  | zero => exact h
  | succ n ih => exact ih (shift_inj h)

theorem shifts_add (m n : Nat) (x : UInt32) :
    Nat.repeat shift (m + n) x = Nat.repeat shift m (Nat.repeat shift n x) := by
  induction m with
  | zero => rw [Nat.zero_add, Nat.repeat]
  | succ m ih => rw [Nat.succ_add, Nat.repeat, Nat.repeat, ih]

theorem toNat_shifts {n k : Nat} {x : UInt32} (h : x.toNat = k <<< n) :
    (Nat.repeat shift n x).toNat = k := by
  induction n generalizing k with
  | zero => exact h
  | succ n ih =>
    have hk : (Nat.repeat shift n x).toNat = 2 * k := ih (h.trans (Nat.shiftLeft_succ_inside k n))
    rw [Nat.repeat, shift_of_even (by omega), toNat_shiftRight_one, hk]
    omega

theorem toNat_shiftLeft_eight (x : UInt32) :
    (x <<< 8).toNat = x.toNat * 256 % 4294967296 := by
  have h : (x <<< 8).toNat = x.toNat <<< 8 % 4294967296 := UInt32.toNat_shiftLeft x 8
  rw [h, Nat.shiftLeft_eq]

theorem shifts_shiftLeft {x : UInt32} (h : x.toNat < 0x1000000) :
    Nat.repeat shift 8 (x <<< 8) = x := by
  rw [← UInt32.toNat_inj]
  apply toNat_shifts
  rw [toNat_shiftLeft_eight, Nat.shiftLeft_eq]
  omega

-- ---------------------------------------------------------------------------
-- Bytes
-- ---------------------------------------------------------------------------

theorem step_inj {x y : UInt32} {b : UInt8} (h : step x b = step y b) : x = y :=
  (UInt32.xor_left_inj _).mp (shifts_inj h)

theorem run_inj {x y : UInt32} {bytes : Bytes} (h : run x bytes = run y bytes) : x = y := by
  induction bytes generalizing x y with
  | nil => exact h
  | cons b rest ih => exact step_inj (ih h)

def packed : Bytes → UInt32
  | [] => 0
  | b :: rest => b.toUInt32 ^^^ packed rest <<< 8

theorem packed_lt (bytes : Bytes) : (packed bytes).toNat < Nat.pow 2 (8 * bytes.length) := by
  induction bytes with
  | nil => decide
  | cons b rest ih =>
    have hpow : Nat.pow 2 (8 * (b :: rest).length) = Nat.pow 2 (8 * rest.length) * 256 :=
      Nat.pow_add 2 (8 * rest.length) 8
    have hpos : 0 < Nat.pow 2 (8 * rest.length) := Nat.pow_pos (by decide)
    have hb : b.toUInt32.toNat < Nat.pow 2 (8 * (b :: rest).length) := by
      have := UInt8.toNat_lt b
      rw [UInt8.toNat_toUInt32]
      omega
    have hrest : (packed rest <<< 8).toNat < Nat.pow 2 (8 * (b :: rest).length) := by
      have := Nat.mod_le ((packed rest).toNat * 256) 4294967296
      rw [toNat_shiftLeft_eight]
      omega
    rw [packed, UInt32.toNat_xor]
    exact Nat.xor_lt_two_pow hb hrest

theorem packed_lt_of_length {bytes : Bytes} (h : bytes.length ≤ 3) :
    (packed bytes).toNat < 0x1000000 :=
  Nat.lt_of_lt_of_le (packed_lt bytes) (Nat.pow_le_pow_right (by decide) (by omega : _ ≤ 24))

theorem run_packed {bytes : Bytes} (h : bytes.length ≤ 4) (x : UInt32) :
    run x bytes = Nat.repeat shift (8 * bytes.length) (x ^^^ packed bytes) := by
  induction bytes generalizing x with
  | nil => exact (UInt32.xor_zero).symm
  | cons b rest ih =>
    have hlen : rest.length ≤ 3 := Nat.le_of_succ_le_succ h
    have hstep : step x b ^^^ packed rest = Nat.repeat shift 8 (x ^^^ packed (b :: rest)) := by
      rw [packed, ← UInt32.xor_assoc, shifts_xor, shifts_shiftLeft (packed_lt_of_length hlen)]
      rfl
    calc run x (b :: rest)
        = Nat.repeat shift (8 * rest.length) (step x b ^^^ packed rest) := ih (by omega) _
      _ = Nat.repeat shift (8 * rest.length + 8) (x ^^^ packed (b :: rest)) := by
        rw [hstep, shifts_add]

theorem packed_inj {w w' : Bytes} (hlen : w.length = w'.length) (h4 : w.length ≤ 4)
    (h : packed w = packed w') : w = w' := by
  induction w generalizing w' with
  | nil => exact (List.length_eq_zero_iff.mp hlen.symm).symm
  | cons b rest ih =>
    cases w' with
    | nil => cases hlen
    | cons b' rest' =>
      have hlen' : rest.length = rest'.length := Nat.succ.inj hlen
      have h3 : rest.length ≤ 3 := Nat.le_of_succ_le_succ h4
      -- The first byte is the lowest of the number, and the others are shifted past it.
      have hlow (x : UInt32) (d : UInt8) : (d.toUInt32 ^^^ x <<< 8).toUInt8 = d := by
        have hzero : (x <<< 8).toUInt8 = 0 := by
          rw [← UInt8.toNat_inj, UInt32.toNat_toUInt8, toNat_shiftLeft_eight]
          show _ = 0
          omega
        rw [UInt32.toUInt8_xor, UInt8.toUInt8_toUInt32, hzero, UInt8.xor_zero]
      obtain rfl : b = b' := by
        rw [← hlow (packed rest) b, ← hlow (packed rest') b']
        exact congrArg _ h
      have hshift : packed rest <<< 8 = packed rest' <<< 8 := (UInt32.xor_right_inj _).mp h
      have hrest : packed rest = packed rest' := by
        rw [← shifts_shiftLeft (packed_lt_of_length h3), hshift,
          shifts_shiftLeft (packed_lt_of_length (hlen' ▸ h3))]
      rw [ih hlen' (Nat.le_succ_of_le h3) hrest]

theorem eq_of_run {x : UInt32} {w w' : Bytes} (hlen : w.length = w'.length) (h4 : w.length ≤ 4)
    (h : run x w = run x w') : w = w' := by
  rw [run_packed h4, run_packed (hlen ▸ h4), hlen] at h
  exact packed_inj hlen h4 ((UInt32.xor_right_inj _).mp (shifts_inj h))

end Crc32

/-- The bytes differ, and only among four in a row. -/
structure DifferLocally (b b' : Bytes) : Prop where
  length : b'.length = b.length
  ne : b' ≠ b
  window : ∃ start, ∀ i, b'[i]? ≠ b[i]? → start ≤ i ∧ i < start + 4

theorem DifferLocally.split {b b' : Bytes} (h : DifferLocally b b') :
    ∃ before w w' after, b = before ++ w ++ after ∧ b' = before ++ w' ++ after ∧
      w.length = w'.length ∧ w.length ≤ 4 ∧ w ≠ w' := by
  obtain ⟨start, hw⟩ := h.window
  have hsame (i : Nat) (hi : ¬ (start ≤ i ∧ i < start + 4)) : b'[i]? = b[i]? :=
    Decidable.not_not.mp fun hne => hi (hw i hne)
  -- Outside of the window the bytes are the same, and so are the parts before and behind it.
  have hbefore : b'.take start = b.take start := by
    refine List.ext_getElem? fun i => ?_
    rw [List.getElem?_take, List.getElem?_take]
    split
    · exact hsame i (by omega)
    · rfl
  have hafter : b'.drop (start + 4) = b.drop (start + 4) := by
    refine List.ext_getElem? fun i => ?_
    rw [List.getElem?_drop, List.getElem?_drop]
    exact hsame _ (by omega)
  have hparts (c : Bytes) :
      c = c.take start ++ (c.drop start).take 4 ++ c.drop (start + 4) := by
    rw [List.append_assoc, ← List.drop_drop, List.take_append_drop, List.take_append_drop]
  have hb' := hparts b'
  rw [hbefore, hafter] at hb'
  refine ⟨_, _, _, _, hparts b, hb', ?_, List.length_take_le _ _, fun he => h.ne ?_⟩
  · simp [h.length]
  · rw [hb', ← he, ← hparts b]

/-- A difference within four bytes in a row always shows in the check value. -/
theorem crc32_ne {b b' : Bytes} (h : DifferLocally b b') : crc32 b ≠ crc32 b' := by
  obtain ⟨before, w, w', after, rfl, rfl, hlen, h4, hne⟩ := h.split
  intro hcrc
  have hrun := (UInt32.xor_left_inj _).mp hcrc
  simp only [Crc32.run_append] at hrun
  exact hne (Crc32.eq_of_run hlen h4 (Crc32.run_inj hrun))

end Precompiled
