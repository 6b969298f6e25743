import Precompiled.Proofs.Artifact.Acceptance
import Precompiled.Proofs.Artifact.Checksum
import Precompiled.Proofs.Crc32
import Precompiled.Proofs.Text.Utf8

/-!
# Tampering

Metadata in which a few bytes in a row have been altered does not get past a reader that verifies:
the check value is compared before the bytes are read as a document, so it does not matter whether
they still are one.
-/

namespace Precompiled.Artifact.Reader

open Storage (Files FileTree)

/-- Metadata that differs locally from what the check value was made of is refused, with both check
values in the error, by every reader that verifies and that accepts the marker. -/
theorem read_tampered {r : Reader} {f : Files} {dir : Storage.Path} {version : UInt32}
    {b b' : Bytes}
    (hv : r.verify = true) (hd : f.kind dir = .ok .directory) (hs : States f dir version)
    (hr : version ∈ r.versions)
    (hc : f.read (dir.join checksumFile) = .ok (Utf8.encode (Checksum.render (crc32 b))))
    (hm : f.read (dir.join metadataFile) = .ok b') (h : DifferLocally b b') :
    crc32 b ≠ crc32 b' ∧
      (r.read f dir).outcome =
        .error (.corrupt (dir.join metadataFile) (.checksumMismatch (crc32 b) (crc32 b'))) := by
  have hne := crc32_ne h
  have htext : f.readText (dir.join checksumFile) = .ok (Checksum.render (crc32 b)) :=
    readText_ok hc (Utf8.decode?_encode _)
  have hfails := Fails.checksumMismatch hv htext (Checksum.parse?_render (crc32 b)) hm hne
  exact ⟨hne, read_error_iff.mpr ⟨.checksum, hfails, passesBefore_checksum hd hs hr hm⟩⟩

def checkedTree (content : Bytes) (value : UInt32) : FileTree :=
  ⟨[([0x61], .directory [(Utf8.encode versionFile, .file [0x31]),
    (Utf8.encode metadataFile, .file content),
    (Utf8.encode checksumFile, .file (Utf8.encode (Checksum.render value)))])]⟩

/-- An empty object with a blank in it, which has become an empty array with another one. What the
reader reports is the check value, not the document. -/
theorem read_tampered_of_bracket :
    DifferLocally [0x7B, 0x20, 0x7D] [0x5B, 0x0A, 0x5D] ∧
      (({} : Reader).read (checkedTree [0x5B, 0x0A, 0x5D] (crc32 [0x7B, 0x20, 0x7D])).files
          "a").outcome =
        .error (.corrupt (Storage.Path.join "a" metadataFile)
          (.checksumMismatch (crc32 [0x7B, 0x20, 0x7D]) (crc32 [0x5B, 0x0A, 0x5D]))) := by
  have h : DifferLocally [0x7B, 0x20, 0x7D] [0x5B, 0x0A, 0x5D] := by
    refine ⟨rfl, by decide, 0, fun i hi => ⟨Nat.zero_le i, Nat.lt_of_not_le fun hle => hi ?_⟩⟩
    rw [List.getElem?_eq_none (Nat.le_of_succ_le hle),
      List.getElem?_eq_none (Nat.le_of_succ_le hle)]
  have hs : States (checkedTree [0x5B, 0x0A, 0x5D] (crc32 [0x7B, 0x20, 0x7D])).files "a" 1 :=
    ⟨"1", rfl, rfl⟩
  exact ⟨h, (read_tampered (r := {}) rfl rfl hs (by decide) rfl rfl h).2⟩

end Precompiled.Artifact.Reader
