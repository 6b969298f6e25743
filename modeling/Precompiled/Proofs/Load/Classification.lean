import Precompiled.Proofs.Artifact.Acceptance
import Precompiled.Proofs.Load.Outcome

/-!
# What an error is about

Where the files of an artifact can be read, only their content can be at fault, and the kind of the
error tells which file it is. A checksum file that holds no text is the exception: its content is
reported as a storage fault.
-/

namespace Precompiled

open Artifact (Reader versionFile metadataFile checksumFile)
open Storage (Fault Files FileTree Path)

namespace Artifact.Reader

/-- Marker and metadata can be read, and so can the checksum file if it is there. -/
structure Readable (files : Files) (dir : Path) : Prop where
  directory : files.kind dir = .ok .directory
  marker : ∃ content, files.read (dir.join versionFile) = .ok content
  content : ∃ content, files.read (dir.join metadataFile) = .ok content
  checksum : ∀ fault, files.read (dir.join checksumFile) = .error fault → fault = .notFound

/-- The marker states a version that the reader accepts. -/
def Admitted (r : Reader) (files : Files) (dir : Path) : Prop :=
  ∃ version ∈ r.versions, States files dir version

/-- The reader asks for a checksum, and its file holds no text. -/
def Garbled (r : Reader) (files : Files) (dir : Path) : Prop :=
  r.verify = true ∧ ∃ content, files.read (dir.join checksumFile) = .ok content ∧
    Utf8.decode? content = none

variable {r : Reader} {files : Files} {dir : Path} {e : Error}

theorem readText_of_garbled {p : Path} {content : Bytes} (h : files.read p = .ok content)
    (ht : Utf8.decode? content = none) : files.readText p = .error .notText := by
  rw [Files.readText, h]
  simp [ht, bind, Except.bind, throw, throwThe, MonadExceptOf.throw]

theorem garbled_of_readText {p : Path} {fault : Fault} (h : files.readText p = .error fault) :
    files.read p = .error fault ∨
      ∃ content, files.read p = .ok content ∧ Utf8.decode? content = none := by
  rcases bind_error.mp h with hread | ⟨content, hread, h⟩
  · exact .inl hread
  · refine .inr ⟨content, hread, ?_⟩
    split at h
    · cases h
    · assumption

theorem Readable.version_fault (h : Readable files dir) (hn : ¬ r.Admitted files dir) :
    ∃ fault, (r.read files dir).outcome = .error (.version fault) := by
  obtain ⟨content, hread⟩ := h.marker
  suffices hfails : ∃ s fault, r.FailsFirst files dir s (.version fault) by
    obtain ⟨s, fault, hf⟩ := hfails
    exact ⟨fault, read_error_iff.mpr ⟨s, hf⟩⟩
  cases ht : Utf8.decode? content with
  | none =>
    exact ⟨_, _, .unreachableMarker (readText_of_garbled hread ht) nofun,
      passesBefore_marker h.directory⟩
  | some text =>
    have htext := readText_ok hread ht
    cases hp : Marker.parse text with
    | error fault => exact ⟨_, _, .unreadableMarker htext hp, passesBefore_number h.directory htext⟩
    | ok version =>
      have hs : States files dir version := ⟨text, htext, hp⟩
      exact ⟨_, _, .unsupported hs fun hm => hn ⟨version, hm, hs⟩,
        passesBefore_range h.directory hs⟩

theorem Readable.storage_fault (h : Readable files dir) (ha : r.Admitted files dir)
    (hg : r.Garbled files dir) :
    (r.read files dir).outcome = .error (.storage (dir.join checksumFile) .notText) := by
  obtain ⟨content, hc⟩ := h.content
  obtain ⟨version, hm, hs⟩ := ha
  obtain ⟨hv, bytes, hb, ht⟩ := hg
  exact read_error_iff.mpr ⟨.checksum,
    .unreachableChecksum hv (readText_of_garbled hb ht) nofun,
    passesBefore_checksum h.directory hs hm hc⟩

theorem Readable.content_fault (h : Readable files dir) (ha : r.Admitted files dir)
    (hg : ¬ r.Garbled files dir) (he : (r.read files dir).outcome = .error e) :
    ∃ path reason, e = .corrupt path reason := by
  obtain ⟨content, hc⟩ := h.content
  obtain ⟨version, hm, hs⟩ := ha
  obtain ⟨s, hf, -⟩ := read_error_iff.mp he
  -- no stage before the content fails, and of the others only the checksum can be out of reach
  have hpasses := passesBefore_content h.directory hs hm
  cases hf with
  | unreachable hk => exact absurd (.unreachable hk) (hpasses _ _ (by decide))
  | notADirectory hk => exact absurd (.notADirectory hk) (hpasses _ _ (by decide))
  | missingMarker ht => exact absurd (.missingMarker ht) (hpasses _ _ (by decide))
  | unreachableMarker ht hn => exact absurd (.unreachableMarker ht hn) (hpasses _ _ (by decide))
  | unreadableMarker ht hp => exact absurd (.unreadableMarker ht hp) (hpasses _ _ (by decide))
  | unsupported hs' hn => exact absurd (.unsupported hs' hn) (hpasses _ _ (by decide))
  | unreachableContent hc' => cases hc.symm.trans hc'
  | unreachableChecksum hv ht hn =>
    rcases garbled_of_readText ht with hread | hbytes
    · exact absurd (h.checksum _ hread) hn
    · exact absurd ⟨hv, hbytes⟩ hg
  | invalidChecksum => exact ⟨_, _, rfl⟩
  | checksumMismatch => exact ⟨_, _, rfl⟩
  | malformed => exact ⟨_, _, rfl⟩
  | disagreement => exact ⟨_, _, rfl⟩
  | descriptors => exact ⟨_, _, rfl⟩

end Artifact.Reader

-- ---------------------------------------------------------------------------
-- The kind of an error
-- ---------------------------------------------------------------------------

/-- Where the files can be read, a marker at fault gives a version fault, and behind a marker that
is accepted all else that is at fault gives corrupt content, but for a checksum file that holds no
text. That gives a storage fault. The kind of a load's error tells the three apart. -/
theorem read_of_readable (r : Reader) (files : Files) (dir : Path)
    (h : Reader.Readable files dir) :
    (¬ r.Admitted files dir → ∃ fault, (r.read files dir).outcome = .error (.version fault)) ∧
    (r.Admitted files dir → r.Garbled files dir →
      (r.read files dir).outcome = .error (.storage (dir.join checksumFile) .notText)) ∧
    (r.Admitted files dir → ¬ r.Garbled files dir → ∀ e, (r.read files dir).outcome = .error e →
      ∃ path reason, e = .corrupt path reason) ∧
    (∀ (registry : Registry Backend) (id : BackendId) (o : LoadOptions) (e : Artifact.Error),
      o.check = .ok () → o.reader = r → (r.read files dir).outcome = .error e →
      (load files registry o dir id).outcome = .error (.artifact e) ∧
      ((LoadError.artifact e).kind = .version ↔ ¬ r.Admitted files dir) ∧
      ((LoadError.artifact e).kind = .storage ↔ r.Admitted files dir ∧ r.Garbled files dir) ∧
      ((LoadError.artifact e).kind = .content ↔ r.Admitted files dir ∧ ¬ r.Garbled files dir)) := by
  refine ⟨h.version_fault, h.storage_fault, fun ha hg e => h.content_fault ha hg, ?_⟩
  rintro registry id o e ho rfl he
  refine ⟨load_error_of_read ho he, ?_⟩
  by_cases ha : o.reader.Admitted files dir
  · by_cases hg : o.reader.Garbled files dir
    · rw [h.storage_fault ha hg, Except.error.injEq] at he
      subst he
      simp [LoadError.kind, Artifact.Error.classify, ha, hg]
    · obtain ⟨path, reason, rfl⟩ := h.content_fault ha hg he
      simp [LoadError.kind, Artifact.Error.classify, ha, hg]
  · obtain ⟨fault, hfault⟩ := h.version_fault ha
    rw [hfault, Except.error.injEq] at he
    subst he
    simp [LoadError.kind, Artifact.Error.classify, ha]

/-- An artifact whose checksum file is one byte that no text holds. -/
def garbledTree : FileTree :=
  ⟨[(Utf8.encode "art", .directory
    [(Utf8.encode versionFile, .file (Utf8.encode "1\n")),
     (Utf8.encode metadataFile, .file (Utf8.encode "\x7b\"format_version\":1\x7d")),
     (Utf8.encode checksumFile, .file [0xFF])])]⟩

/-- All three files can be read, and yet the load reports a storage fault. -/
theorem read_of_readable_garbled :
    let r : Reader := {}
    let files := garbledTree.files
    Reader.Readable files "art" ∧
      (r.read files "art").outcome = .error (.storage (Path.join "art" checksumFile) .notText) ∧
      ∃ e, (load files {} {} "art" ⟨0, 0⟩).outcome = .error e ∧ e.kind = .storage := by
  intro r files
  have hreadable : Reader.Readable files "art" :=
    ⟨rfl, ⟨_, rfl⟩, ⟨_, rfl⟩, fun fault h => by cases h⟩
  have hadmitted : r.Admitted files "art" := ⟨1, by decide, "1\n", rfl, rfl⟩
  have hgarbled : r.Garbled files "art" := ⟨rfl, [0xFF], rfl, rfl⟩
  obtain ⟨-, hstorage, -, hload⟩ := read_of_readable r files "art" hreadable
  have hread := hstorage hadmitted hgarbled
  obtain ⟨houtcome, -, hkind, -⟩ := hload {} ⟨0, 0⟩ {} _ rfl rfl hread
  exact ⟨hreadable, hread, _, houtcome, hkind.mpr ⟨hadmitted, hgarbled⟩⟩

end Precompiled
