import Precompiled.Json.Quoted
import Precompiled.Proofs.Text.Utf8

/-!
# Quoted text round trip

What a text is written as between quotes is read back as that text. One character is written as
itself, as an escape of one letter or as an escape of four digits; each of them takes the reader
from plain text to plain text and leaves the bytes of the character (`foldl_escapeChar`).
-/

namespace Precompiled.Json.Quoted

/-- How a character is written between quotes. -/
inductive Written (c : Char) : Bytes → Prop
  | letter {b byte} : b ≠ 'u'.toUInt8 → isSimpleEscape (.ofUInt8 b) → simpleEscape? b = some byte →
      String.utf8EncodeChar c = [byte] → Written c ['\\'.toUInt8, b]
  | unit {b₁ b₂ b₃ b₄ d₁ d₂ d₃ d₄} : Hex.digit? (.ofUInt8 b₁) = some d₁ →
      Hex.digit? (.ofUInt8 b₂) = some d₂ → Hex.digit? (.ofUInt8 b₃) = some d₃ →
      Hex.digit? (.ofUInt8 b₄) = some d₄ → ((d₁ * 16 + d₂) * 16 + d₃) * 16 + d₄ = c.toNat →
      c.toNat < 0x20 →
      Written c ['\\'.toUInt8, 'u'.toUInt8, b₁, b₂, b₃, b₄]
  /-- The bytes of the character, none of which means anything else between quotes. -/
  | plain : (∀ b ∈ String.utf8EncodeChar c, b ≠ '"'.toUInt8 ∧ b ≠ '\\'.toUInt8 ∧ ¬ b < 0x20) →
      Written c (String.utf8EncodeChar c)

theorem digits_of_control {n : Nat} (h : n < 0x20) :
    (Utf8.encode (Hex.renderWide 4 n)).map (fun b => Hex.digit? (.ofUInt8 b)) =
      [some 0, some 0, some (n / 16), some (n % 16)] := by
  have hall : ∀ n : Fin 0x20,
      (Utf8.encode (Hex.renderWide 4 n.val)).map (fun b => Hex.digit? (.ofUInt8 b)) =
        [some 0, some 0, some (n.val / 16), some (n.val % 16)] := by decide
  exact hall ⟨n, h⟩

theorem written_control {c : Char} (h : c.toNat < 0x20) :
    Written c (Utf8.encode "\\u" ++ Utf8.encode (Hex.renderWide 4 c.toNat)) := by
  have hdigits := digits_of_control h
  obtain ⟨b₁, rest, he, h₁, hdigits⟩ := List.map_eq_cons_iff.mp hdigits
  obtain ⟨b₂, rest, rfl, h₂, hdigits⟩ := List.map_eq_cons_iff.mp hdigits
  obtain ⟨b₃, rest, rfl, h₃, hdigits⟩ := List.map_eq_cons_iff.mp hdigits
  obtain ⟨b₄, rest, rfl, h₄, hdigits⟩ := List.map_eq_cons_iff.mp hdigits
  obtain rfl := List.map_eq_nil_iff.mp hdigits
  rw [he]
  exact .unit h₁ h₂ h₃ h₄ (by omega) h

theorem written_plain {c : Char} (hquote : c ≠ '"') (hbackslash : c ≠ '\\')
    (h : ¬ c.toNat < 0x20) : Written c (String.utf8EncodeChar c) := by
  have hne (d : Char) (hd : d.toNat < 0x80) (hcd : c ≠ d) (b : UInt8)
      (hb : b ∈ String.utf8EncodeChar c) : b ≠ UInt8.ofNat d.toNat := by
    rintro rfl
    have hnat : c.toNat ≠ d.toNat := fun he => hcd (Char.toNat_inj.mp he)
    have hbyte : (UInt8.ofNat d.toNat).toNat = d.toNat := Utf8.toNat_ofNat (by omega)
    rcases Utf8.mem_encodeChar hb with ⟨-, heq⟩ | hle <;> omega
  refine .plain fun b hb =>
    ⟨hne '"' (by decide) hquote b hb, hne '\\' (by decide) hbackslash b hb, ?_⟩
  rw [UInt8.lt_iff_toNat_lt]
  have h20 : (0x20 : UInt8).toNat = 0x20 := rfl
  rcases Utf8.mem_encodeChar hb with ⟨-, heq⟩ | hle <;> omega

theorem written_escapeChar (c : Char) : Written c (escapeChar c) := by
  unfold escapeChar
  split
  · exact .letter (by decide) (by decide) rfl rfl
  · exact .letter (by decide) (by decide) rfl rfl
  · exact .letter (by decide) (by decide) rfl rfl
  · exact .letter (by decide) (by decide) rfl rfl
  · exact .letter (by decide) (by decide) rfl rfl
  · exact .letter (by decide) (by decide) rfl rfl
  · exact .letter (by decide) (by decide) rfl rfl
  · rename_i hquote hbackslash _ _ _ _ _
    split
    · exact written_control ‹_›
    · exact written_plain hquote hbackslash ‹_›

-- ---------------------------------------------------------------------------
-- Form
-- ---------------------------------------------------------------------------

/-- What may stand between two quotes, whether it is text or not. -/
inductive Formed : Bytes → Prop
  | nil : Formed []
  | plain {b rest} : b ≠ '"'.toUInt8 → b ≠ '\\'.toUInt8 → ¬ b < 0x20 → Formed rest →
      Formed (b :: rest)
  | letter {b rest} : isSimpleEscape (.ofUInt8 b) = true → Formed rest →
      Formed ('\\'.toUInt8 :: b :: rest)
  | unit {b₁ b₂ b₃ b₄ rest} : isHexDigit (.ofUInt8 b₁) = true → isHexDigit (.ofUInt8 b₂) = true →
      isHexDigit (.ofUInt8 b₃) = true → isHexDigit (.ofUInt8 b₄) = true → Formed rest →
      Formed ('\\'.toUInt8 :: 'u'.toUInt8 :: b₁ :: b₂ :: b₃ :: b₄ :: rest)

theorem Formed.append {a b : Bytes} (ha : Formed a) (hb : Formed b) : Formed (a ++ b) := by
  induction ha with
  | nil => exact hb
  | plain hquote hbackslash hcontrol _ ih => exact .plain hquote hbackslash hcontrol ih
  | letter h _ ih => exact .letter h ih
  | unit h₁ h₂ h₃ h₄ _ ih => exact .unit h₁ h₂ h₃ h₄ ih

theorem isHexDigit_of_digit? {c : Char} {d : Nat} (h : Hex.digit? c = some d) :
    isHexDigit c = true := by
  unfold Hex.digit? at h
  split at h
  · simp [isHexDigit, *]
  split at h
  · simp [isHexDigit, *]
  split at h
  · simp [isHexDigit, *]
  · cases h

theorem formed_plain {bytes : Bytes}
    (h : ∀ b ∈ bytes, b ≠ '"'.toUInt8 ∧ b ≠ '\\'.toUInt8 ∧ ¬ b < 0x20) : Formed bytes := by
  induction bytes with
  | nil => exact .nil
  | cons b rest ih =>
    rw [List.forall_mem_cons] at h
    exact .plain h.1.1 h.1.2.1 h.1.2.2 (ih h.2)

theorem Written.formed {c : Char} {bytes : Bytes} (h : Written c bytes) : Formed bytes := by
  cases h with
  | letter _ hsimple _ _ => exact .letter hsimple .nil
  | unit h₁ h₂ h₃ h₄ _ _ =>
    exact .unit (isHexDigit_of_digit? h₁) (isHexDigit_of_digit? h₂) (isHexDigit_of_digit? h₃)
      (isHexDigit_of_digit? h₄) .nil
  | plain h => exact formed_plain h

theorem formed_escape (text : String) : Formed (escape text) := by
  unfold escape
  induction text.toList with
  | nil => exact .nil
  | cons c rest ih =>
    rw [List.flatMap_cons]
    exact (written_escapeChar c).formed.append ih

-- ---------------------------------------------------------------------------
-- Reading
-- ---------------------------------------------------------------------------

theorem foldl_plain (read : Bytes) {bytes : Bytes} (h : ∀ b ∈ bytes, b ≠ '\\'.toUInt8) :
    bytes.foldl Unescaper.step ⟨read, .plain⟩ = ⟨bytes.reverse ++ read, .plain⟩ := by
  induction bytes generalizing read with
  | nil => rfl
  | cons b rest ih =>
    rw [List.forall_mem_cons] at h
    rw [List.foldl_cons, Unescaper.step, if_neg h.1, ih _ h.2]
    simp

theorem foldl_unit (read : Bytes) {b₁ b₂ b₃ b₄ : UInt8} {d₁ d₂ d₃ d₄ : Nat}
    (h₁ : Hex.digit? (.ofUInt8 b₁) = some d₁) (h₂ : Hex.digit? (.ofUInt8 b₂) = some d₂)
    (h₃ : Hex.digit? (.ofUInt8 b₃) = some d₃) (h₄ : Hex.digit? (.ofUInt8 b₄) = some d₄) :
    ['\\'.toUInt8, 'u'.toUInt8, b₁, b₂, b₃, b₄].foldl Unescaper.step ⟨read, .plain⟩ =
      Unescaper.takeUnit read none (((d₁ * 16 + d₂) * 16 + d₃) * 16 + d₄) := by
  simp [Unescaper.step, h₁, h₂, h₃, h₄]

theorem foldl_escapeChar (read : Bytes) (c : Char) :
    (escapeChar c).foldl Unescaper.step ⟨read, .plain⟩ =
      ⟨(String.utf8EncodeChar c).reverse ++ read, .plain⟩ := by
  have hw := written_escapeChar c
  generalize escapeChar c = bytes at hw ⊢
  cases hw with
  | letter hu _ hbyte hc =>
    simp [Unescaper.step, hbyte, hc, hu]
  | unit h₁ h₂ h₃ h₄ hvalue hlt =>
    have hleading : isLeading c.toNat = false := by simp [isLeading]; omega
    have htrailing : isTrailing c.toNat = false := by simp [isTrailing]; omega
    rw [foldl_unit read h₁ h₂ h₃ h₄, hvalue]
    simp [Unescaper.takeUnit, hleading, htrailing, Unescaper.push, Char.ofNat_toNat]
  | plain h => exact foldl_plain read fun b hb => (h b hb).2.1

theorem foldl_escape (read : Bytes) (chars : List Char) :
    (chars.flatMap escapeChar).foldl Unescaper.step ⟨read, .plain⟩ =
      ⟨(chars.flatMap String.utf8EncodeChar).reverse ++ read, .plain⟩ := by
  induction chars generalizing read with
  | nil => rfl
  | cons c rest ih =>
    rw [List.flatMap_cons, List.foldl_append, foldl_escapeChar, ih]
    simp

theorem unescape?_escape (text : String) : unescape? (escape text) = some text := by
  have hdecode : Utf8.decode? (text.toList.flatMap String.utf8EncodeChar) = some text :=
    Utf8.decode?_encode text
  simp [unescape?, escape, foldl_escape, Unescaper.finish, hdecode]

end Precompiled.Json.Quoted
