import Precompiled.Text.Utf8

/-!
# UTF-8 round trip

The decoder gives back the text whose bytes it reads. A character's bytes take it from between
characters to between characters, with that character as the one new piece (`foldl_encodeChar`).
-/

namespace Precompiled.Utf8

-- ---------------------------------------------------------------------------
-- Bytes of one character
-- ---------------------------------------------------------------------------

theorem toNat_ofNat {n : Nat} (h : n < 256) : (UInt8.ofNat n).toNat = n := by
  simp only [UInt8.toNat_ofNat']
  exact Nat.mod_eq_of_lt h

theorem Decoder.step_first (ps : List Piece) (b : UInt8) :
    Decoder.step ⟨ps, none⟩ b = Decoder.start ps b := rfl

theorem Decoder.step_tail (ps : List Piece) {u : Unfinished} {n : Nat} (hn : n < 64)
    (hl : u.least.toNat ≤ n + 0x80) (hg : n + 0x80 ≤ u.greatest.toNat) :
    Decoder.step ⟨ps, some u⟩ (UInt8.ofNat (n + 0x80)) =
      if u.owed ≤ 1 then ⟨.char (Char.ofNat (u.bits * 64 + n)) :: ps, none⟩
      else ⟨ps, some { read := UInt8.ofNat (n + 0x80) :: u.read, bits := u.bits * 64 + n
                       owed := u.owed - 1 }⟩ := by
  have hb : (UInt8.ofNat (n + 0x80)).toNat = n + 0x80 := toNat_ofNat (by omega)
  have hmod : (n + 0x80) % 64 = n := by omega
  simp only [Decoder.step, UInt8.le_iff_toNat_le, hb, hl, hg, and_self, if_true, hmod]

theorem Decoder.start_one (ps : List Piece) {n : Nat} (h : n ≤ 0x7F) :
    Decoder.start ps (UInt8.ofNat n) = ⟨.char (Char.ofNat n) :: ps, none⟩ := by
  have hb : (UInt8.ofNat n).toNat = n := toNat_ofNat (by omega)
  have hlt : n < 0x80 := by omega
  simp only [Decoder.start, hb, hlt, if_true]

theorem Decoder.start_two (ps : List Piece) {n : Nat} (hl : 2 ≤ n) (hg : n < 32) :
    Decoder.start ps (UInt8.ofNat (n + 0xC0)) =
      ⟨ps, some { read := [UInt8.ofNat (n + 0xC0)], bits := n, owed := 1 }⟩ := by
  have hb : (UInt8.ofNat (n + 0xC0)).toNat = n + 0xC0 := toNat_ofNat (by omega)
  have hmod : (n + 0xC0) % 32 = n := by omega
  simp only [Decoder.start, hb, hmod]
  rw [if_neg (by omega), if_neg (by omega), if_pos (by omega)]

theorem Decoder.start_three (ps : List Piece) {n : Nat} (h : n < 16) :
    Decoder.start ps (UInt8.ofNat (n + 0xE0)) =
      ⟨ps, some { read := [UInt8.ofNat (n + 0xE0)], bits := n, owed := 2
                  least := if n = 0 then 0xA0 else 0x80
                  greatest := if n = 13 then 0x9F else 0xBF }⟩ := by
  have hb : (UInt8.ofNat (n + 0xE0)).toNat = n + 0xE0 := toNat_ofNat (by omega)
  have hmod : (n + 0xE0) % 16 = n := by omega
  simp only [Decoder.start, hb, hmod]
  rw [if_neg (by omega), if_neg (by omega), if_neg (by omega)]
  by_cases h0 : n = 0
  · simp [h0]
  · by_cases h13 : n = 13
    · simp [h13]
    · rw [if_neg (by omega), if_neg (by omega), if_pos (by omega), if_neg h0, if_neg h13]

theorem Decoder.start_four (ps : List Piece) {n : Nat} (h : n ≤ 4) :
    Decoder.start ps (UInt8.ofNat (n + 0xF0)) =
      ⟨ps, some { read := [UInt8.ofNat (n + 0xF0)], bits := n, owed := 3
                  least := if n = 0 then 0x90 else 0x80
                  greatest := if n = 4 then 0x8F else 0xBF }⟩ := by
  have hb : (UInt8.ofNat (n + 0xF0)).toNat = n + 0xF0 := toNat_ofNat (by omega)
  have hmod : (n + 0xF0) % 8 = n := by omega
  simp only [Decoder.start, hb, hmod]
  rw [if_neg (by omega), if_neg (by omega), if_neg (by omega), if_neg (by omega),
    if_neg (by omega), if_neg (by omega)]
  by_cases h0 : n = 0
  · simp [h0]
  · by_cases h4 : n = 4
    · simp [h4]
    · rw [if_neg (by omega), if_pos (by omega), if_neg h0, if_neg h4]

-- ---------------------------------------------------------------------------
-- Characters and texts
-- ---------------------------------------------------------------------------

theorem toNat_range (c : Char) : c.toNat < 0xD800 ∨ 0xDFFF < c.toNat ∧ c.toNat < 0x110000 := c.valid

theorem mem_encodeChar {c : Char} {b : UInt8} (h : b ∈ String.utf8EncodeChar c) :
    (c.toNat < 0x80 ∧ b.toNat = c.toNat) ∨ 0x80 ≤ b.toNat := by
  have hc : c.val.toNat = c.toNat := rfl
  simp only [String.utf8EncodeChar, hc] at h
  split at h
  · rw [List.mem_singleton] at h
    subst h
    exact .inl ⟨by omega, toNat_ofNat (by omega)⟩
  · right
    split at h
    · simp only [List.mem_cons, List.not_mem_nil, or_false] at h
      rcases h with rfl | rfl <;> rw [toNat_ofNat (by omega)] <;> omega
    split at h
    · simp only [List.mem_cons, List.not_mem_nil, or_false] at h
      rcases h with rfl | rfl | rfl <;> rw [toNat_ofNat (by omega)] <;> omega
    · simp only [List.mem_cons, List.not_mem_nil, or_false] at h
      rcases h with rfl | rfl | rfl | rfl <;> rw [toNat_ofNat (by omega)] <;> omega

theorem foldl_encodeChar (ps : List Piece) (c : Char) :
    (String.utf8EncodeChar c).foldl Decoder.step ⟨ps, none⟩ = ⟨.char c :: ps, none⟩ := by
  have hv := toNat_range c
  have hc : Char.ofNat c.toNat = c := Char.ofNat_toNat c
  generalize hn : c.toNat = v at hv hc
  have hn : c.val.toNat = v := hn
  simp only [String.utf8EncodeChar, hn]
  split
  · rename_i h1
    simp only [List.foldl_cons, List.foldl_nil, Decoder.step_first, Decoder.start_one ps h1, hc]
  split
  · have hvalue : v / 64 % 0x20 * 64 + v % 0x40 = v := by omega
    simp only [List.foldl_cons, List.foldl_nil]
    rw [Decoder.step_first, Decoder.start_two ps (by omega) (by omega),
      Decoder.step_tail ps (by omega) (by simp) (by simp; omega)]
    simp only [hvalue, hc, Nat.le_refl, if_true]
  split
  · have hvalue : (v / 4096 % 0x10 * 64 + v / 64 % 0x40) * 64 + v % 0x40 = v := by omega
    -- the second byte is bounded away from overlong forms and from surrogates
    have hleast : (if v / 4096 % 0x10 = 0 then (0xA0 : UInt8) else 0x80).toNat ≤
        v / 64 % 0x40 + 0x80 := by
      split
      · simp; omega
      · simp
    have hgreatest : v / 64 % 0x40 + 0x80 ≤
        (if v / 4096 % 0x10 = 13 then (0x9F : UInt8) else 0xBF).toNat := by split <;> simp <;> omega
    simp only [List.foldl_cons, List.foldl_nil]
    rw [Decoder.step_first, Decoder.start_three ps (by omega),
      Decoder.step_tail ps (by omega) hleast hgreatest, if_neg (by simp),
      Decoder.step_tail ps (by omega) (by simp) (by simp; omega), if_pos (by simp)]
    simp only [hvalue, hc]
  · have hvalue : ((v / 262144 % 0x08 * 64 + v / 4096 % 0x40) * 64 + v / 64 % 0x40) * 64 +
        v % 0x40 = v := by omega
    have hleast : (if v / 262144 % 0x08 = 0 then (0x90 : UInt8) else 0x80).toNat ≤
        v / 4096 % 0x40 + 0x80 := by
      split
      · simp; omega
      · simp
    have hgreatest : v / 4096 % 0x40 + 0x80 ≤
        (if v / 262144 % 0x08 = 4 then (0x8F : UInt8) else 0xBF).toNat := by
      split <;> simp <;> omega
    simp only [List.foldl_cons, List.foldl_nil]
    rw [Decoder.step_first, Decoder.start_four ps (by omega),
      Decoder.step_tail ps (by omega) hleast hgreatest, if_neg (by simp),
      Decoder.step_tail ps (by omega) (by simp) (by simp; omega), if_neg (by simp),
      Decoder.step_tail ps (by omega) (by simp) (by simp; omega), if_pos (by simp)]
    simp only [hvalue, hc]

theorem foldl_encodeChars (ps : List Piece) (chars : List Char) :
    (chars.flatMap String.utf8EncodeChar).foldl Decoder.step ⟨ps, none⟩ =
      ⟨(chars.map Piece.char).reverse ++ ps, none⟩ := by
  induction chars generalizing ps with
  | nil => rfl
  | cons c rest ih =>
    rw [List.flatMap_cons, List.foldl_append, foldl_encodeChar, ih]
    simp

theorem pieces_encode (text : String) : pieces (encode text) = text.toList.map .char := by
  simp [pieces, encode, foldl_encodeChars, Decoder.finish]

theorem decode?_encode (text : String) : decode? (encode text) = some text := by
  have hmap (chars : List Char) : (chars.map Piece.char).mapM Piece.char? = some chars := by
    induction chars with
    | nil => rfl
    | cons c rest ih => simp [List.mapM_cons, ih, Piece.char?]
  rw [decode?, pieces_encode, hmap]
  simp

end Precompiled.Utf8
