import Precompiled.Proofs.Artifact.Acceptance
import Precompiled.Proofs.Artifact.Codec
import Precompiled.Proofs.Text.Decimal
import Precompiled.Proofs.Text.Utf8

/-!
# The language of version markers

A marker states a version by decimal digits, zeros in front of them or not, with a plus sign before
them or not and blanks around them. The number is read in full or not at all: one that does not fit
into 32 bits is refused however it is written, and so is every other text.
-/

namespace Precompiled.Artifact

open Decimal (Word)
open Text (Padded)

-- ---------------------------------------------------------------------------
-- Markers
-- ---------------------------------------------------------------------------

namespace Marker

/-- The text states a number of any size, with blanks around it. -/
def Says (text : String) (n : Nat) : Prop :=
  ∃ content, Padded content text.toList ∧ Word content n

variable {text : String} {version : UInt32}

theorem says_iff {n : Nat} : Says text n ↔ Word (Text.trimmed text.toList) n := by
  constructor
  · rintro ⟨content, hp, h⟩
    rwa [Text.trimmed_of_padded hp h.not_blank]
  · intro h
    exact ⟨_, Text.padded_trimmed _, h⟩

theorem Says.unique {m n : Nat} (h : Says text m) (h' : Says text n) : m = n :=
  (says_iff.mp h).unique (says_iff.mp h')

theorem parse_ok : parse text = .ok version ↔ Says text version.toNat := by
  have hlist : (Text.trim text).toList = Text.trimmed text.toList := String.toList_ofList
  rw [says_iff, ← hlist, ← Decimal.word_ok, parse]
  split
  · rename_i hempty
    rw [hempty]
    constructor <;> intro h <;> cases h
  · split
    · rename_i v hv
      rw [hv, Except.ok.injEq, Except.ok.injEq]
    · rename_i fault hf
      rw [hf]
      constructor <;> intro h <;> cases h

theorem parse_error :
    (∃ fault, parse text = .error fault) ↔ ∀ n, Says text n → UInt32.size ≤ n := by
  constructor
  · rintro ⟨fault, h⟩ n hn
    refine Nat.le_of_not_lt fun hlt => ?_
    rw [← UInt32.toNat_ofNat_of_lt' hlt, ← parse_ok, h] at hn
    cases hn
  · intro h
    cases hp : parse text with
    | ok version => exact absurd (h _ (parse_ok.mp hp)) (Nat.not_le.mpr version.toNat_lt_size)
    | error fault => exact ⟨fault, rfl⟩

theorem says_of_padded (h : Padded (render version).toList text.toList) :
    Says text version.toNat := by
  have hdigits : Padded (Nat.toDigits 10 version.toNat) (render version).toList := by
    rw [toList_render]
    exact Text.padded_line _
  exact ⟨_, hdigits.trans h, Decimal.word_ok.mp (Decimal.word_toDigits version)⟩

end Marker

-- ---------------------------------------------------------------------------
-- The reader
-- ---------------------------------------------------------------------------

namespace Reader

open Storage (Files FileTree Path)

variable {r : Reader} {f : Files} {dir : Path} {text : String}

theorem readVersion_ok_of_text {version : UInt32}
    (h : f.readText (dir.join versionFile) = .ok text) :
    r.readVersion f dir = .ok version ↔
      Marker.Says text version.toNat ∧ version ∈ r.versions := by
  rw [readVersion_ok, ← Marker.parse_ok]
  refine and_congr_left fun _ => ⟨fun ⟨text', ht, hp⟩ => ?_, fun hp => ⟨text, h, hp⟩⟩
  rwa [Except.ok.inj (h.symm.trans ht)]

theorem readVersion_unreadable_of_text (h : f.readText (dir.join versionFile) = .ok text) :
    (∃ fault, r.readVersion f dir =
        .error (.version (.unreadableMarker (dir.join versionFile) fault))) ↔
      ∃ fault, Marker.parse text = .error fault := by
  simp only [readVersion, h]
  cases Marker.parse text with
  | error fault => simp
  | ok version => by_cases hv : version ∈ r.versions <;> simp [hv]

/-- A text is a marker exactly if it states a number that fits into 32 bits, and then the version is
that number and no other; every other text is refused. What is written for a version states it
however many blanks are around it. A reader that finds the text in its place accepts the version
exactly if it is one of its own, and reports the marker as unreadable exactly if it states no
number that fits. -/
theorem marker_exact (text : String) :
    (∀ version, Marker.parse text = .ok version ↔ Marker.Says text version.toNat) ∧
    ((∃ fault, Marker.parse text = .error fault) ↔
      ∀ n, Marker.Says text n → UInt32.size ≤ n) ∧
    (∀ version n, Marker.Says text n → Marker.parse text = .ok version → version.toNat = n) ∧
    (∀ version, Padded (Marker.render version).toList text.toList →
      Marker.parse text = .ok version) ∧
    ∀ (r : Reader) (f : Files) (dir : Path), f.readText (dir.join versionFile) = .ok text →
      (∀ version, r.readVersion f dir = .ok version ↔
        Marker.Says text version.toNat ∧ version ∈ r.versions) ∧
      ((∃ fault, r.readVersion f dir =
          .error (.version (.unreadableMarker (dir.join versionFile) fault))) ↔
        ∀ n, Marker.Says text n → UInt32.size ≤ n) := by
  refine ⟨fun version => Marker.parse_ok, Marker.parse_error, fun version n hn hp => ?_,
    fun version h => Marker.parse_ok.mpr (Marker.says_of_padded h), fun r f dir h =>
    ⟨fun version => readVersion_ok_of_text h, ?_⟩⟩
  · exact (Marker.parse_ok.mp hp).unique hn
  · rw [readVersion_unreadable_of_text h, Marker.parse_error]

def markedTree (marker : Bytes) : FileTree :=
  ⟨[([0x61], .directory [(Utf8.encode versionFile, .file marker)])]⟩

/-- Zeros, a plus sign and blanks of any kind do not matter; a number two past the limit is not read
as two; and a reader of the versions up to three refuses the fourth, but not as unreadable. -/
theorem marker_exact_of_zeros :
    let text := "\u00a0+00000000000000000004\r\n"
    let f := (markedTree (Utf8.encode text)).files
    Marker.parse text = .ok 4 ∧
      (∃ fault, Marker.parse "004294967298" = .error fault) ∧
      Marker.parse "\u3000\n5\n\t" = .ok 5 ∧
      ({ versions := ⟨2, 4⟩ } : Reader).readVersion f "a" = .ok 4 ∧
      ¬ ∃ fault, ({ versions := ⟨1, 3⟩ } : Reader).readVersion f "a" =
        .error (.version (.unreadableMarker (Storage.Path.join "a" versionFile) fault)) := by
  intro text f
  have hdigits : Word "+00000000000000000004".toList 4 :=
    .signed ⟨by decide, List.all_eq_true.mp rfl, rfl⟩
  have hblanks : Padded "+00000000000000000004".toList
      "\u00a0+00000000000000000004\r\n".toList :=
    ⟨['\u00a0'], ['\r', '\n'], rfl, List.all_eq_true.mp rfl, List.all_eq_true.mp rfl⟩
  have hstated : Marker.Says text 4 := ⟨_, hblanks, hdigits⟩
  have hlarge : Marker.Says "004294967298" 4294967298 :=
    ⟨"004294967298".toList, .refl _, .plain ⟨by decide, List.all_eq_true.mp rfl, rfl⟩⟩
  have hpad : Padded (Marker.render 5).toList "\u3000\n5\n\t".toList :=
    ⟨['\u3000', '\n'], ['\t'], rfl, List.all_eq_true.mp rfl, List.all_eq_true.mp rfl⟩
  have hread : f.readText (Storage.Path.join "a" versionFile) = .ok text :=
    readText_ok rfl (Utf8.decode?_encode text)
  obtain ⟨hparse, -, -, -, hreader⟩ := marker_exact text
  obtain ⟨-, hrefused, -⟩ := marker_exact "004294967298"
  obtain ⟨-, -, -, hpadded, -⟩ := marker_exact "\u3000\n5\n\t"
  refine ⟨(hparse 4).mpr hstated, hrefused.mpr fun n hn => ?_, hpadded 5 hpad, ?_, fun h => ?_⟩
  · rw [hn.unique hlarge]
    decide
  · exact ((hreader _ f "a" hread).1 4).mpr ⟨hstated, by decide⟩
  · exact absurd ((hreader _ f "a" hread).2.mp h 4 hstated) (by decide)

end Reader
end Precompiled.Artifact
