import Precompiled.Artifact.Version
import Precompiled.Proofs.Text.Blank
import Precompiled.Proofs.Text.Digits

/-!
# Markers round trip

The line that a marker is written as is read back as the version it was written for.
-/

namespace Precompiled.Artifact

theorem Marker.toList_render (version : UInt32) :
    (Marker.render version).toList = Nat.toDigits 10 version.toNat ++ ['\n'] := by
  simp [Marker.render, toString, Nat.repr]

theorem Marker.parse_render (version : UInt32) :
    Marker.parse (Marker.render version) = .ok version := by
  have hblank (c : Char) (hc : c ∈ Nat.toDigits 10 version.toNat) : Text.isBlank c = false := by
    obtain ⟨d, hd, rfl⟩ := digitChar_of_mem_toDigits (by decide) hc
    exact Text.isBlank_digitChar (by omega)
  have htrim : (Text.trim (Marker.render version)).toList = Nat.toDigits 10 version.toNat := by
    rw [Text.trim, Marker.toList_render, Text.trimmed_of_padded (Text.padded_line _) hblank,
      String.toList_ofList]
  have hne : Text.trim (Marker.render version) ≠ "" := by
    intro h
    rw [h] at htrim
    exact Nat.toDigits_ne_nil htrim.symm
  simp only [Marker.parse, hne, if_false, htrim, Decimal.word_toDigits]

end Precompiled.Artifact
