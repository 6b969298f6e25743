import Precompiled.Proofs.Artifact.Acceptance
import Precompiled.Proofs.Text.Hex

/-!
# The language of checksum files

A check value is stated by eight hexadecimal digits of either case with blanks around them. The
reader of numbers also takes a plus sign for the first of the eight characters; every other text is
refused, and a reader that verifies reports it as what it is without the blanks.
-/

namespace Precompiled.Artifact

-- ---------------------------------------------------------------------------
-- Check values
-- ---------------------------------------------------------------------------

namespace Checksum

open Text (Padded)

def EightDigits (content : List Char) (value : UInt32) : Prop :=
  content.length = 8 ∧ Hex.Spells content value.toNat

inductive Stated : List Char → UInt32 → Prop
  | digits {content value} : EightDigits content value → Stated content value
  | signed {content value} : content.length = 7 → Hex.Spells content value.toNat →
      Stated ('+' :: content) value

theorem Stated.not_blank {content : List Char} {value : UInt32} (h : Stated content value) :
    ∀ c ∈ content, Text.isBlank c = false := by
  cases h with
  | digits h => exact h.2.not_blank
  | signed _ h => exact List.forall_mem_cons.mpr ⟨by decide, h.not_blank⟩

theorem Stated.length {content : List Char} {value : UInt32} (h : Stated content value) :
    content.length = 8 := by
  cases h with
  | digits h => exact h.1
  | signed h _ => exact congrArg Nat.succ h

theorem map_ofNat_eq_some {chars : List Char} {value : UInt32} (hlen : chars.length ≤ 8) :
    (Hex.value? chars).map UInt32.ofNat = some value ↔ Hex.Spells chars value.toNat := by
  rw [Option.map_eq_some_iff, ← Hex.value?_eq_some]
  refine ⟨fun ⟨n, hn, hv⟩ => ?_, fun h => ⟨_, h, UInt32.ofNat_toNat⟩⟩
  have hlt : n < UInt32.size :=
    Nat.lt_of_lt_of_le (Hex.value?_eq_some.mp hn).lt (Nat.pow_le_pow_right (by decide) hlen)
  rw [hn, ← hv, UInt32.toNat_ofNat_of_lt' hlt]

theorem parse?_eq_some {text : String} {value : UInt32} :
    parse? text = some value ↔ Stated (Text.trimmed text.toList) value := by
  simp only [parse?]
  generalize Text.trimmed text.toList = content
  by_cases hlen : content.length = 8
  · rw [if_pos hlen]
    -- No digit is a plus sign, so the first character tells which of the two it is.
    by_cases hplus : content.head? = some '+'
    · obtain ⟨digits, rfl⟩ := List.head?_eq_some_iff.mp hplus
      have hseven : digits.length = 7 := Nat.succ.inj hlen
      rw [if_pos hplus, List.tail_cons, map_ofNat_eq_some (by omega)]
      refine ⟨.signed hseven, fun h => ?_⟩
      cases h with
      | digits h => exact absurd List.mem_cons_self h.2.no_plus
      | signed _ h => exact h
    · rw [if_neg hplus, map_ofNat_eq_some (by omega)]
      refine ⟨fun h => .digits ⟨hlen, h⟩, fun h => ?_⟩
      cases h with
      | digits h => exact h.2
      | signed _ _ => exact absurd rfl hplus
  · rw [if_neg hlen]
    exact ⟨nofun, fun h => absurd h.length hlen⟩

theorem parse?_iff {text : String} {value : UInt32} :
    parse? text = some value ↔ ∃ content, Padded content text.toList ∧ Stated content value := by
  rw [parse?_eq_some]
  refine ⟨fun h => ⟨_, Text.padded_trimmed _, h⟩, fun ⟨content, hp, h⟩ => ?_⟩
  rwa [Text.trimmed_of_padded hp h.not_blank]

theorem eightDigits_digits (value : UInt32) : EightDigits (digits value).toList value :=
  ⟨Hex.length_renderWide (by decide) (UInt32.toNat_lt_size value),
    Hex.value?_eq_some.mp (Hex.value?_renderWide 8 value.toNat)⟩

theorem padded_render (value : UInt32) : Padded (digits value).toList (render value).toList := by
  rw [render, String.toList_append]
  exact Text.padded_line _

theorem parse?_of_padded {text : String} {value : UInt32}
    (h : Padded (render value).toList text.toList) : parse? text = some value :=
  parse?_iff.mpr ⟨_, .trans (padded_render value) h, .digits (eightDigits_digits value)⟩

theorem parse?_render (value : UInt32) : parse? (render value) = some value :=
  parse?_of_padded (.refl _)

end Checksum

-- ---------------------------------------------------------------------------
-- The reader
-- ---------------------------------------------------------------------------

namespace Reader

open Storage (Files FileTree Path)
open Text (Padded)

variable {r : Reader} {f : Files} {dir : Path}

theorem Fails.parse?_of_invalid {s : Stage} {path : Path} {reported : String}
    (h : r.Fails f dir s (.corrupt path (.invalidChecksum reported))) :
    ∃ text, f.readText (dir.join checksumFile) = .ok text ∧ Checksum.parse? text = none := by
  cases h with
  | invalidChecksum _ ht hp => exact ⟨_, ht, hp⟩

theorem read_invalid_iff {version : UInt32} {content : Bytes} {text : String}
    (hv : r.verify = true) (hd : f.kind dir = .ok .directory) (hs : States f dir version)
    (hr : version ∈ r.versions) (hm : f.read (dir.join metadataFile) = .ok content)
    (ht : f.readText (dir.join checksumFile) = .ok text) :
    (r.read f dir).outcome =
        .error (.corrupt (dir.join checksumFile) (.invalidChecksum (Text.trim text))) ↔
      Checksum.parse? text = none := by
  refine ⟨fun h => ?_, fun h => ?_⟩
  · obtain ⟨s, hf, -⟩ := read_error_iff.mp h
    obtain ⟨text', ht', hp⟩ := hf.parse?_of_invalid
    obtain rfl := Except.ok.inj (ht.symm.trans ht')
    exact hp
  · exact read_error_iff.mpr
      ⟨.checksum, .invalidChecksum hv ht h, passesBefore_checksum hd hs hr hm⟩

/-- A text states a check value exactly if it is eight hexadecimal digits, or a plus sign and seven,
with blanks around them. So the texts without a plus sign are read by the language of eight digits;
what is written for a value states it however many blanks are around it; and every other text is
refused by a reader that verifies and gets as far as the checksum file. -/
theorem checksum_exact (text : String) (value : UInt32) :
    (Checksum.parse? text = some value ↔
      ∃ content, Padded content text.toList ∧ Checksum.Stated content value) ∧
    ('+' ∉ text.toList → (Checksum.parse? text = some value ↔
      ∃ content, Padded content text.toList ∧ Checksum.EightDigits content value)) ∧
    (Padded (Checksum.render value).toList text.toList → Checksum.parse? text = some value) ∧
    ∀ (r : Reader) (f : Files) (dir : Path) (version : UInt32) (content : Bytes),
      r.verify = true → f.kind dir = .ok .directory → States f dir version →
      version ∈ r.versions → f.read (dir.join metadataFile) = .ok content →
      f.readText (dir.join checksumFile) = .ok text →
      ((r.read f dir).outcome =
          .error (.corrupt (dir.join checksumFile) (.invalidChecksum (Text.trim text))) ↔
        ∀ content value, Padded content text.toList → ¬ Checksum.Stated content value) := by
  refine ⟨Checksum.parse?_iff, fun hplus => ?_, Checksum.parse?_of_padded,
    fun r f dir version content hv hd hs hr hm ht => ?_⟩
  · rw [Checksum.parse?_iff]
    refine exists_congr fun content => and_congr_right fun hp => ⟨fun h => ?_, .digits⟩
    cases h with
    | digits h => exact h
    | signed _ _ =>
      obtain ⟨before, after, htext, -, -⟩ := hp
      exact absurd (by simp [htext]) hplus
  · rw [read_invalid_iff hv hd hs hr hm ht, Option.eq_none_iff_forall_ne_some]
    refine ⟨fun h content value hp hc => h value (Checksum.parse?_iff.mpr ⟨content, hp, hc⟩),
      fun h value hp => ?_⟩
    obtain ⟨content, hpad, hc⟩ := Checksum.parse?_iff.mp hp
    exact h content value hpad hc

def summedTree (sum : Bytes) : FileTree :=
  ⟨[([0x61], .directory [(Utf8.encode versionFile, .file [0x31]),
    (Utf8.encode metadataFile, .file []), (Utf8.encode checksumFile, .file sum)])]⟩

/-- A plus sign and seven digits are read, though they are no eight digits; letters may be large and
the blanks be any; and of three letters it is the checksum file that is reported. -/
theorem checksum_exact_of_plus :
    Checksum.parse? "+1234567" = some 0x1234567 ∧
      (∀ value, ¬ Checksum.EightDigits "+1234567".toList value) ∧
      Checksum.parse? "\u00a00089aBcD\r\n" = some 0x89ABCD ∧
      (({} : Reader).read (summedTree (Utf8.encode "xyz\n")).files "a").outcome =
        .error (.corrupt (Storage.Path.join "a" checksumFile) (.invalidChecksum "xyz")) := by
  have hone : Checksum.Stated "+1234567".toList 0x1234567 :=
    .signed rfl (Hex.value?_eq_some.mp rfl)
  have htwo : Checksum.EightDigits "0089aBcD".toList 0x89ABCD := ⟨rfl, Hex.value?_eq_some.mp rfl⟩
  have hpad : Padded "0089aBcD".toList "\u00a00089aBcD\r\n".toList :=
    ⟨['\u00a0'], ['\r', '\n'], rfl, List.all_eq_true.mp rfl, List.all_eq_true.mp rfl⟩
  have hplus : '+' ∉ "\u00a00089aBcD\r\n".toList := by decide
  have hs : States (summedTree (Utf8.encode "xyz\n")).files "a" 1 := ⟨"1", rfl, rfl⟩
  have hnone (content : List Char) (value : UInt32) (hp : Padded content "xyz\n".toList) :
      ¬ Checksum.Stated content value := by
    intro h
    have htrim := Text.trimmed_of_padded hp h.not_blank
    have hlen : (Text.trimmed "xyz\n".toList).length = 8 := by rw [htrim, h.length]
    exact absurd hlen (by decide)
  refine ⟨(checksum_exact _ _).1.mpr ⟨_, .refl _, hone⟩, fun value h => h.2.no_plus (by decide),
    ((checksum_exact _ _).2.1 hplus).mpr ⟨_, hpad, htwo⟩, ?_⟩
  have hread := (checksum_exact "xyz\n" 0).2.2.2 {} _ "a" 1 [] rfl rfl hs (by decide) rfl rfl
  exact hread.mpr hnone

end Reader
end Precompiled.Artifact
