import Precompiled.Proofs.Artifact.RoundTrip

/-!
# Writing an artifact again

What a reader accepts can be written in its place, in whatever form its files were. What the write
leaves is a normal form: reading it gives the same metadata, and writing that changes no file.
-/

namespace Precompiled.Artifact

open Storage (FileTree Path)

variable {r : Reader} {w : Writer} {t t' : FileTree} {dir dir' : Path} {m : Metadata}

namespace Reader

-- ---------------------------------------------------------------------------
-- What acceptance says about a write
-- ---------------------------------------------------------------------------

theorem Accepts.writable (h : r.Accepts t.files dir m) (hv : r.verify = true) :
    w.Writable t dir := by
  obtain ⟨hd, version, content, record, ⟨text, ht, -⟩, -, hcontent, hverified, -⟩ := h
  obtain ⟨marker, hmarker⟩ := read_of_readText ht
  have hchecksum : t.read (dir.join checksumFile) = .error .notFound ∨
      ∃ stored, t.read (dir.join checksumFile) = .ok stored := by
    rcases hverified with hoff | hnone | ⟨stored, hs, -⟩
    · simp [hv] at hoff
    · exact .inl (read_of_missing hnone)
    · exact .inr (read_of_readText hs)
  have hwalk : FileTree.checkPath (dir.join checksumFile) = .ok () := by
    have hsibling := FileTree.checkPath_of_sibling plain_versionFile plain_checksumFile
      (FileTree.checkPath_of_read hmarker)
    split at hsibling
    · exact hsibling
    · rcases hchecksum with hnone | ⟨stored, hs⟩
      · cases hnone.symm.trans (FileTree.read_of_checkPath hsibling)
      · exact FileTree.checkPath_of_read hs
  refine Writer.writable_of_read hd hmarker hcontent (fun _ => hwalk) ?_
  rcases hchecksum with hnone | ⟨stored, hs⟩
  · simp [hnone]
  · simp [hs]

end Reader

namespace Writer

-- ---------------------------------------------------------------------------
-- Writing once more
-- ---------------------------------------------------------------------------

theorem Written.writable (h : w.Written t dir m) (hd : dir.bytes ≠ []) : w.Writable t dir := by
  refine writable_of_read (h.directory hd) h.marker h.content
    (fun hw => FileTree.checkPath_of_read (h.checksum hw)) ?_
  cases hw : w.checksum with
  | true => simp [h.checksum hw]
  | false =>
    rw [h.noChecksum hw]
    split <;> simp

theorem Written.read_contents (h : w.Written t dir m) (hw : w.checksum = true) :
    ∀ file ∈ [(versionFile, markerBytes m), (metadataFile, metadataBytes m),
      (checksumFile, checksumBytes m)], t.read (dir.join file.1) = .ok file.2 := by
  simp [h.marker, h.content, h.checksum hw]

theorem Written.read_iff (h : w.Written t dir m) (h' : w.Written t' dir' m) :
    ∀ name ∈ [versionFile, metadataFile, checksumFile], ∀ content,
      t'.read (dir'.join name) = .ok content ↔ t.read (dir.join name) = .ok content := by
  refine forall_files.mpr ⟨?_, ?_, ?_⟩
  · intro content
    rw [h.marker, h'.marker]
  · intro content
    rw [h.content, h'.content]
  · intro content
    cases hw : w.checksum with
    | true => rw [h.checksum hw, h'.checksum hw]
    | false =>
      -- the paths may differ in length, and so may the faults
      rw [h.noChecksum hw, h'.noChecksum hw]
      split <;> split <;> simp

end Writer

/-- Metadata that the reader gives can be written in place of the artifact it came from, and it is
read back from files that it alone determines. Reading and writing it once more leaves every one of
them as it was. -/
theorem rewrite_read (t : FileTree) (dir : Path) (m : Metadata)
    (h : (({} : Reader).read t.files dir).outcome = .ok m) :
    let first := ({} : Writer).write t dir m
    first.2.outcome = .ok () ∧ (({} : Reader).read first.1.files dir).outcome = .ok m ∧
      ∀ m', (({} : Reader).read first.1.files dir).outcome = .ok m' →
        let again := ({} : Writer).write first.1 dir m'
        again.2.outcome = .ok () ∧
          ∀ file ∈ [(versionFile, markerBytes m), (metadataFile, metadataBytes m),
              (checksumFile, checksumBytes m)],
            first.1.read (dir.join file.1) = .ok file.2 ∧
              again.1.read (dir.join file.1) = .ok file.2 := by
  intro first
  have haccepts := Reader.read_ok_iff.mp h
  obtain ⟨hm, hversion, -⟩ := Reader.sound_of_read h
  have hcheck : m.check = .ok () := Metadata.check_ok.mpr hm
  have hsound : Writer.check dir m = .ok () := Writer.check_ok.mpr ⟨hversion, hcheck⟩
  have hd : dir.bytes ≠ [] :=
    (FileTree.checkPath_ok.mp (FileTree.kind_eq_directory.mp haccepts.1).1).2.2
  have hfirst : first.2.outcome = .ok () := (haccepts.writable rfl).write_ok hsound
  have hwritten := Writer.written hfirst
  have hback : (({} : Reader).read first.1.files dir).outcome = .ok m :=
    hwritten.read_ok hd hcheck hversion (.inr (.inl rfl))
  refine ⟨hfirst, hback, ?_⟩
  intro m' hm' again
  obtain rfl : m = m' := Except.ok.inj (hback.symm.trans hm')
  have hagain : again.2.outcome = .ok () := (hwritten.writable hd).write_ok hsound
  refine ⟨hagain, ?_⟩
  intro file hfile
  exact ⟨hwritten.read_contents rfl file hfile,
    (Writer.written hagain).read_contents rfl file hfile⟩

/-- An artifact without a checksum. Its marker has a sign, a zero and a blank, and its document a
member that nobody asks for. -/
def looseArtifact : FileTree :=
  ⟨[(Utf8.encode "art", .directory
    [(Utf8.encode versionFile, .file (Utf8.encode "+02 ")),
     (Utf8.encode metadataFile,
      .file (Utf8.encode "\x7b\"note\": [null], \"format_version\": 2\x7d"))])]⟩

theorem rewrite_read_of_looseArtifact :
    let m : Metadata := { version := 2 }
    let dir : Path := "art"
    let first := ({} : Writer).write looseArtifact dir m
    let again := ({} : Writer).write first.1 dir m
    (({} : Reader).read looseArtifact.files dir).outcome = .ok m ∧
      (({} : Reader).read first.1.files dir).outcome = .ok m ∧
      looseArtifact.read (dir.join versionFile) = .ok (Utf8.encode "+02 ") ∧
      first.1.read (dir.join versionFile) = .ok (Utf8.encode "2\n") ∧
      again.1.read (dir.join versionFile) = .ok (Utf8.encode "2\n") := by
  intro m dir first again
  have hread : (({} : Reader).read looseArtifact.files dir).outcome = .ok m := rfl
  obtain ⟨-, hback, hagain⟩ := rewrite_read looseArtifact dir m hread
  obtain ⟨-, hfiles⟩ := hagain m hback
  have hbytes : markerBytes m = Utf8.encode "2\n" := by decide
  rw [← hbytes]
  obtain ⟨hfirst, hsame⟩ := hfiles (versionFile, markerBytes m) (by simp)
  exact ⟨hread, hback, rfl, hfirst, hsame⟩

end Precompiled.Artifact
