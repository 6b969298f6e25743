import Precompiled.Proofs.Artifact.Acceptance
import Precompiled.Proofs.Artifact.Checksum
import Precompiled.Proofs.Artifact.Codec
import Precompiled.Proofs.Artifact.Writability
import Precompiled.Proofs.Metadata.Document
import Precompiled.Proofs.Metadata.Record

/-!
# Artifacts round trip

What a successful write leaves behind, whatever was there before, and what a reader makes of it.
-/

namespace Precompiled.Artifact

open Storage (Effect Fault FileTree Path)
open Storage.Path (Plain)

-- ---------------------------------------------------------------------------
-- The contents of the files
-- ---------------------------------------------------------------------------

theorem parse_metadataBytes (m : Metadata) : Record.parse (metadataBytes m) = .ok m.record := by
  refine Record.parse_pretty_append m.record fun b hb => ?_
  rw [List.mem_singleton.mp hb]
  decide

theorem parse_markerBytes (m : Metadata) :
    ∃ text, Utf8.decode? (markerBytes m) = some text ∧ Marker.parse text = .ok m.version :=
  ⟨Marker.render m.version, Utf8.decode?_encode _, Marker.parse_render m.version⟩

theorem parse_checksumBytes (m : Metadata) :
    ∃ text, Utf8.decode? (checksumBytes m) = some text ∧
      Checksum.parse? text = some (crc32 (metadataBytes m)) :=
  ⟨Checksum.render _, Utf8.decode?_encode _, Checksum.parse?_render _⟩

namespace Writer

variable {w : Writer} {t t' : FileTree} {dir : Path} {m : Metadata}

/-- What a successful write has done to the directory, as far as a reader can see. -/
structure Written (w : Writer) (t : FileTree) (dir : Path) (m : Metadata) : Prop where
  directory : dir.bytes ≠ [] → t.kind dir = .ok .directory
  marker : t.read (dir.join versionFile) = .ok (markerBytes m)
  content : t.read (dir.join metadataFile) = .ok (metadataBytes m)
  checksum : w.checksum = true → t.read (dir.join checksumFile) = .ok (checksumBytes m)
  noChecksum : w.checksum = false → t.read (dir.join checksumFile) =
    if (dir.join checksumFile).bytes.length ≤ Path.lengthLimit then .error .notFound
    else .error .nameTooLong

theorem checksumEffect_sameBut (h : t.apply (w.checksumEffect dir m) = (t', none)) :
    t.SameBut t' dir checksumFile := by
  rw [checksumEffect] at h
  split at h
  · exact FileTree.store_sameBut plain_checksumFile (FileTree.apply_store.mp h)
  · exact (FileTree.discard_sameBut plain_checksumFile h).1

theorem read_checksumFile (h : t.holds (dir.join checksumFile) = false)
    {content : Bytes} (hs : t.store (dir.join versionFile) content = .ok t') :
    t.read (dir.join checksumFile) =
      if (dir.join checksumFile).bytes.length ≤ Path.lengthLimit then .error .notFound
      else .error .nameTooLong := by
  obtain ⟨hc, place, hl, -⟩ := FileTree.store_join plain_versionFile hs
  refine hl.read_absent plain_versionFile plain_checksumFile hc fun hc' => ?_
  rw [hl.holds_join plain_checksumFile hc'] at h
  simpa using h

theorem written (h : (w.write t dir m).2.outcome = .ok ()) :
    w.Written (w.write t dir m).1 dir m := by
  obtain ⟨t₁, t₂, t₃, t₄, -, -, hcontent, hchecksum, hmarker⟩ := exists_steps_of_write h
  have hsame := checksumEffect_sameBut hchecksum
  have hlast := FileTree.store_sameBut plain_versionFile hmarker
  have hread : (w.write t dir m).1.read (dir.join checksumFile) = t₄.read (dir.join checksumFile) :=
    hlast.read checksumFile plain_checksumFile (by decide)
  refine ⟨fun hd => FileTree.kind_store plain_versionFile hd hmarker,
    FileTree.read_store plain_versionFile hmarker, ?_, fun hw => ?_, fun hw => ?_⟩
  · rw [hlast.read metadataFile plain_metadataFile (by decide),
      hsame.read metadataFile plain_metadataFile (by decide)]
    exact FileTree.read_store plain_metadataFile hcontent
  · rw [checksumEffect, if_pos hw, FileTree.apply_store] at hchecksum
    rw [hread]
    exact FileTree.read_store plain_checksumFile hchecksum
  · rw [checksumEffect, if_neg (by simp [hw])] at hchecksum
    rw [hread]
    exact read_checksumFile (FileTree.discard_sameBut plain_checksumFile hchecksum).2 hmarker

end Writer

-- ---------------------------------------------------------------------------
-- What a reader makes of it
-- ---------------------------------------------------------------------------

namespace Reader

variable {r : Reader} {t : FileTree} {dir : Path} {m : Metadata}

theorem states_of_marker (h : t.read (dir.join versionFile) = .ok (markerBytes m)) :
    States t.files dir m.version := by
  obtain ⟨text, ht, hp⟩ := parse_markerBytes m
  exact ⟨text, readText_ok h ht, hp⟩

theorem accepts_of_verified (hd : t.kind dir = .ok .directory) (hc : m.check = .ok ())
    (hr : m.version ∈ r.versions) (hm : t.read (dir.join versionFile) = .ok (markerBytes m))
    (hb : t.read (dir.join metadataFile) = .ok (metadataBytes m))
    (hv : r.Verified t.files dir (metadataBytes m)) : r.Accepts t.files dir m :=
  ⟨hd, m.version, metadataBytes m, m.record, states_of_marker hm, hr, hb, hv,
    parse_metadataBytes m, rfl, Metadata.metadata_record hc⟩

theorem read_tooLong {content : Bytes} (hd : t.kind dir = .ok .directory)
    (hr : m.version ∈ r.versions) (hm : t.read (dir.join versionFile) = .ok (markerBytes m))
    (hb : t.read (dir.join metadataFile) = .ok content) (hv : r.verify = true)
    (hlong : t.read (dir.join checksumFile) = .error .nameTooLong) :
    (r.read t.files dir).outcome = .error (.storage (dir.join checksumFile) .nameTooLong) :=
  read_error_iff.mpr ⟨.checksum, .unreachableChecksum hv (readText_error hlong) nofun,
    passesBefore_checksum hd (states_of_marker hm) hr hb⟩

end Reader

namespace Writer.Written

variable {w : Writer} {t : FileTree} {dir : Path} {m : Metadata} {r : Reader}

/-- The checksum file is the one that belongs to the metadata, or it is not there, unless the reader
asks for one that the writer left out and its path is too long to be walked. -/
theorem verified (h : w.Written t dir m)
    (hwalk : r.verify = false ∨ w.checksum = true ∨
      (dir.join checksumFile).bytes.length ≤ Path.lengthLimit) :
    r.Verified t.files dir (metadataBytes m) := by
  rcases hwalk with hoff | hwalk
  · exact .inl hoff
  cases hw : w.checksum with
  | false =>
    have hread := h.noChecksum hw
    rw [if_pos (hwalk.resolve_left (by simp [hw]))] at hread
    exact .inr (.inl (Reader.readText_error hread))
  | true =>
    obtain ⟨text, ht, hp⟩ := parse_checksumBytes m
    exact .inr (.inr ⟨text, Reader.readText_ok (h.checksum hw) ht, hp⟩)

theorem read_ok (h : w.Written t dir m) (hd : dir.bytes ≠ []) (hc : m.check = .ok ())
    (hr : m.version ∈ r.versions)
    (hwalk : r.verify = false ∨ w.checksum = true ∨
      (dir.join checksumFile).bytes.length ≤ Path.lengthLimit) :
    (r.read t.files dir).outcome = .ok m :=
  Reader.read_ok_iff.mpr
    (Reader.accepts_of_verified (h.directory hd) hc hr h.marker h.content (h.verified hwalk))

theorem read_tooLong (h : w.Written t dir m) (hd : dir.bytes ≠ []) (hr : m.version ∈ r.versions)
    (hv : r.verify = true) (hw : w.checksum = false)
    (hlong : Path.lengthLimit < (dir.join checksumFile).bytes.length) :
    (r.read t.files dir).outcome = .error (.storage (dir.join checksumFile) .nameTooLong) := by
  have hread := h.noChecksum hw
  rw [if_neg (Nat.not_le.mpr hlong)] at hread
  exact Reader.read_tooLong (h.directory hd) hr h.marker h.content hv hread

end Writer.Written

namespace Reader

variable {r : Reader} {t : FileTree} {dir : Path} {m : Metadata}

/-- Metadata that was written is read back from every state that the write may have begun in, by
every reader of its version. There is one case apart: a reader that verifies the checksum fails
where the path of the checksum file is too long to be walked, and without a checksum the writer does
not walk it. -/
theorem read_written (w : Writer) (t : FileTree) (dir : Path) (m : Metadata) (r : Reader)
    (hd : dir.bytes ≠ []) (h : (w.write t dir m).2.outcome = .ok ()) (hr : m.version ∈ r.versions) :
    (r.read (w.write t dir m).1.files dir).outcome =
      if r.verify = true ∧ w.checksum = false ∧
          Path.lengthLimit < (dir.join checksumFile).bytes.length then
        .error (.storage (dir.join checksumFile) .nameTooLong)
      else .ok m := by
  have hw := Writer.written h
  have hcheck := (Writer.check_ok.mp (Writer.write_ok h).1).2
  split
  · rename_i hcase
    obtain ⟨hv, hnone, hlong⟩ := hcase
    exact hw.read_tooLong hd hr hv hnone hlong
  · rename_i hcase
    simp only [not_and_or, Bool.not_eq_true, Bool.not_eq_false, Nat.not_lt] at hcase
    exact hw.read_ok hd hcheck hr hcase

/-- The directory `art`, under a path that ends in this many slashes and one more. -/
def slashedPath (n : Nat) : Path := ⟨Utf8.encode "art" ++ List.replicate (n + 1) Path.slash⟩

theorem names_slashedPath (n : Nat) : (slashedPath n).names = [Utf8.encode "art"] :=
  (Path.names_append_slashes (Utf8.encode "art") _).trans rfl

theorem slashedPath_ne_nil (n : Nat) : (slashedPath n).bytes ≠ [] :=
  List.append_ne_nil_of_left_ne_nil (by decide) _

theorem length_join_slashedPath (n : Nat) (name : String) :
    ((slashedPath n).join name).bytes.length = n + 4 + (Utf8.encode name).length := by
  have hlast : (slashedPath n).trailing = true := by
    simp [Path.trailing, slashedPath, List.getLast?_append, List.getLast?_replicate]
  have hart : (Utf8.encode "art").length = 3 := rfl
  rw [Path.join, hlast, Bool.or_true, if_pos rfl]
  simp [slashedPath, hart]
  omega

theorem checkPath_join_slashedPath {n : Nat} {name : String} (hp : Plain (Utf8.encode name))
    (hl : n + 4 + (Utf8.encode name).length ≤ Path.lengthLimit) :
    FileTree.checkPath ((slashedPath n).join name) = .ok () := by
  have hnul : (slashedPath n).hasNul = false := by
    have hart : (0 : UInt8) ∉ Utf8.encode "art" := by decide
    have hslash : (0 : UInt8) ≠ Path.slash := by decide
    simp [Path.hasNul, slashedPath, hart, hslash]
  have hlen := length_join_slashedPath n name
  refine FileTree.checkPath_ok.mpr ⟨by rw [Path.hasNul_join _ hp, hnul], by omega, fun h => ?_⟩
  rw [h, List.length_nil] at hlen
  omega

/-- Where the path leaves room for the metadata file and for no longer name, a write without a
checksum succeeds, and a reader that asks for one fails. -/
theorem read_written_of_slashes :
    let w : Writer := { checksum := false }
    let r : Reader := {}
    let t : FileTree := ⟨[(Utf8.encode "art", .directory [])]⟩
    let m : Metadata := { version := 1 }
    let dir := slashedPath 4078
    (w.write t dir m).2.outcome = .ok () ∧
      (r.read (w.write t dir m).1.files dir).outcome =
        .error (.storage (dir.join checksumFile) .nameTooLong) := by
  intro w r t m dir
  have hd : dir.bytes ≠ [] := slashedPath_ne_nil _
  have hready : Writer.Ready t dir [Utf8.encode "art"] :=
    ⟨⟨by rw [names_slashedPath]; rfl, rfl⟩, by decide⟩
  have hw : (w.write t dir m).2.outcome = .ok () :=
    Writer.write_of_ready rfl hd hready (checkPath_join_slashedPath plain_versionFile (by decide))
      (checkPath_join_slashedPath plain_metadataFile (by decide)) (fun h => absurd h (by decide))
  refine ⟨hw, ?_⟩
  rw [read_written w t dir m r hd hw (by decide), if_pos]
  refine ⟨rfl, rfl, ?_⟩
  rw [length_join_slashedPath]
  decide

end Reader
end Precompiled.Artifact
