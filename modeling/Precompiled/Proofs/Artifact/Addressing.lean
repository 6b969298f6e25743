import Precompiled.Proofs.Artifact.RoundTrip

/-!
# What a path names

A writer makes the directory of a path and joins the names of the files to it; a reader first asks
what stands at the path itself. The two come to the same directory for every path that has anything
in it. The empty path names nothing, although the names joined to it are entries of the working
directory: an artifact is written there and its version is read, and the reader does not get as far.
-/

namespace Precompiled.Artifact

open Storage (FileTree Path)

namespace Reader

variable {r : Reader} {w : Writer} {t : FileTree} {dir : Path} {m : Metadata}

-- ---------------------------------------------------------------------------
-- The directory
-- ---------------------------------------------------------------------------

theorem kind_of_empty (t : FileTree) (hd : dir.bytes = []) : t.kind dir = .error .notFound := by
  have hc : FileTree.checkPath dir = .error .notFound := by
    simp [FileTree.checkPath, Path.hasNul, hd]
  simp [FileTree.kind, FileTree.node, hc, bind, Except.bind, Except.map]

theorem checkDirectory_of_empty (t : FileTree) (hd : dir.bytes = []) :
    checkDirectory t.files dir = .error (.storage dir .notFound) := by
  have hk : t.files.kind dir = .error .notFound := kind_of_empty t hd
  rw [checkDirectory, hk]

theorem read_of_empty (r : Reader) (t : FileTree) (hd : dir.bytes = []) :
    (r.read t.files dir).outcome = .error (.storage dir .notFound) :=
  read_error_iff.mpr ⟨.directory, .unreachable (kind_of_empty t hd), passesBefore_directory⟩

theorem checkDirectory_written (h : w.Written t dir m) :
    checkDirectory t.files dir = .ok () ↔ dir.bytes ≠ [] := by
  constructor
  · intro hc hd
    rw [checkDirectory_of_empty t hd] at hc
    cases hc
  · intro hd
    exact checkDirectory_ok.mpr (h.directory hd)

-- ---------------------------------------------------------------------------
-- The version and the artifact
-- ---------------------------------------------------------------------------

theorem readVersion_written (h : w.Written t dir m) :
    r.readVersion t.files dir =
      if m.version ∈ r.versions then .ok m.version
      else .error (.version (.unsupported m.version r.versions)) := by
  obtain ⟨text, ht, hp⟩ := states_of_marker h.marker
  simp only [readVersion, ht, hp]

theorem read_written_unsupported (h : w.Written t dir m) (hd : dir.bytes ≠ [])
    (hr : m.version ∉ r.versions) :
    (r.read t.files dir).outcome = .error (.version (.unsupported m.version r.versions)) := by
  have hs := states_of_marker h.marker
  exact read_error_iff.mpr
    ⟨.range, .unsupported hs hr, passesBefore_range (h.directory hd) hs⟩

theorem read_eq_readVersion (h : w.Written t dir m) (hd : dir.bytes ≠ []) (hc : m.check = .ok ())
    (hv : r.Verified t.files dir (metadataBytes m)) :
    (r.read t.files dir).outcome = (r.readVersion t.files dir).map fun _ => m := by
  rw [readVersion_written h]
  split
  · rename_i hr
    exact read_ok_iff.mpr (accepts_of_verified (h.directory hd) hc hr h.marker h.content hv)
  · rename_i hr
    exact read_written_unsupported h hd hr

/-- What a write has put at a path is found there by a reader, for every path but the empty one and
from every state that the write may have begun in. There the check of the directory passes, and the
artifact is read exactly if the version of its marker is: the reader gives the metadata or refuses
the version, and no file is missing. At the empty path, where a write can succeed too, the version
is read like anywhere else, and the artifact is not found. A checksum that the writer leaves out and
the reader asks for has to have a path that is short enough to be walked. -/
theorem read_where_written (w : Writer) (t : FileTree) (dir : Path) (m : Metadata)
    (h : (w.write t dir m).2.outcome = .ok ()) :
    let files := (w.write t dir m).1.files
    (checkDirectory files dir = .ok () ↔ dir.bytes ≠ []) ∧
    (∀ r : Reader, r.readVersion files dir =
      if m.version ∈ r.versions then .ok m.version
      else .error (.version (.unsupported m.version r.versions))) ∧
    (∀ r : Reader, dir.bytes ≠ [] →
      r.verify = false ∨ w.checksum = true ∨
        (dir.join checksumFile).bytes.length ≤ Path.lengthLimit →
      (r.read files dir).outcome = (r.readVersion files dir).map (fun _ => m) ∧
        ∀ e, (r.read files dir).outcome = .error e → e.classify = .version) ∧
    (dir.bytes = [] → checkDirectory files dir = .error (.storage dir .notFound) ∧
      ∀ r : Reader, (r.read files dir).outcome = .error (.storage dir .notFound)) := by
  intro files
  have hw := Writer.written h
  have hc := (Writer.check_ok.mp (Writer.write_ok h).1).2
  refine ⟨checkDirectory_written hw, fun r => readVersion_written hw, fun r hd hwalk => ?_,
    fun hd => ⟨checkDirectory_of_empty _ hd, fun r => read_of_empty r _ hd⟩⟩
  have hread := read_eq_readVersion hw hd hc (hw.verified hwalk)
  refine ⟨hread, fun e he => ?_⟩
  rw [hread, readVersion_written hw] at he
  split at he
  · cases he
  · cases he
    rfl

/-- In a tree with nothing in it, metadata is written to the empty path and its version is read from
there, but the metadata is not; through a directory that is missing it is written and read. -/
theorem read_where_written_of_empty :
    let w : Writer := {}
    let r : Reader := {}
    let t : FileTree := {}
    let m : Metadata := { version := 2 }
    let here := (w.write t "" m).1.files
    let there := (w.write t "a/.././b/" m).1.files
    (w.write t "" m).2.outcome = .ok () ∧ r.readVersion here "" = .ok 2 ∧
      (r.read here "").outcome = .error (.storage "" .notFound) ∧
      (w.write t "a/.././b/" m).2.outcome = .ok () ∧
      (r.read there "a/.././b/").outcome = .ok m := by
  intro w r t m here there
  have hhere : (w.write t "" m).2.outcome = .ok () := rfl
  have hthere : (w.write t "a/.././b/" m).2.outcome = .ok () := rfl
  obtain ⟨-, hversion, -, hempty⟩ := read_where_written w t "" m hhere
  obtain ⟨-, hversion', hread, -⟩ := read_where_written w t "a/.././b/" m hthere
  have hread := (hread r (by decide) (.inr (.inl rfl))).1
  refine ⟨hhere, hversion r, (hempty rfl).2 r, hthere, ?_⟩
  rw [hread, hversion', if_pos (by decide)]
  rfl

end Reader
end Precompiled.Artifact
