import Precompiled.Artifact.Reader
import Precompiled.Proofs.Attempt

/-!
# The stages of reading

What each stage of reading an artifact asks of the files, apart from all other stages. `Accepts`
says when every stage passes and `Fails` with which error a stage fails; the reader's result is the
metadata in the one case and the error of the first stage that fails in the other
(`read_ok_iff`, `read_error`).
-/

namespace Precompiled.Artifact.Reader

open Storage (Files Path)

inductive Stage where
  | directory
  | marker
  | number
  | range
  | content
  | checksum
  | document
  | agreement
  | descriptors
  deriving DecidableEq, Repr

def Stage.rank : Stage → Nat
  | .directory => 0
  | .marker => 1
  | .number => 2
  | .range => 3
  | .content => 4
  | .checksum => 5
  | .document => 6
  | .agreement => 7
  | .descriptors => 8

-- ---------------------------------------------------------------------------
-- What the stages ask
-- ---------------------------------------------------------------------------

/-- The marker is a text that states a version. -/
def States (files : Files) (dir : Path) (version : UInt32) : Prop :=
  ∃ text, files.readText (dir.join versionFile) = .ok text ∧ Marker.parse text = .ok version

/-- The metadata is as the check value says, if that is asked for and there is one. -/
def Verified (r : Reader) (files : Files) (dir : Path) (content : Bytes) : Prop :=
  r.verify = false ∨ files.readText (dir.join checksumFile) = .error .notFound ∨
    ∃ text, files.readText (dir.join checksumFile) = .ok text ∧
      Checksum.parse? text = some (crc32 content)

def Holds (files : Files) (dir : Path) (record : Record) : Prop :=
  ∃ content, files.read (dir.join metadataFile) = .ok content ∧ Record.parse content = .ok record

/-- Every stage passes, and the last one gives the metadata. -/
def Accepts (r : Reader) (files : Files) (dir : Path) (m : Metadata) : Prop :=
  files.kind dir = .ok .directory ∧
    ∃ version content record, States files dir version ∧ version ∈ r.versions ∧
      files.read (dir.join metadataFile) = .ok content ∧ r.Verified files dir content ∧
      Record.parse content = .ok record ∧ record.version = version ∧ record.metadata = .ok m

inductive Fails (r : Reader) (files : Files) (dir : Path) : Stage → Error → Prop
  | unreachable {fault} : files.kind dir = .error fault →
      Fails r files dir .directory (.storage dir fault)
  | notADirectory : files.kind dir = .ok .file → Fails r files dir .directory (.notADirectory dir)
  | missingMarker : files.readText (dir.join versionFile) = .error .notFound →
      Fails r files dir .marker (.version (.missingMarker (dir.join versionFile)))
  | unreachableMarker {fault} : files.readText (dir.join versionFile) = .error fault →
      fault ≠ .notFound →
      Fails r files dir .marker (.version (.unreachableMarker (dir.join versionFile) fault))
  | unreadableMarker {text fault} : files.readText (dir.join versionFile) = .ok text →
      Marker.parse text = .error fault →
      Fails r files dir .number (.version (.unreadableMarker (dir.join versionFile) fault))
  | unsupported {version} : States files dir version → version ∉ r.versions →
      Fails r files dir .range (.version (.unsupported version r.versions))
  | unreachableContent {fault} : files.read (dir.join metadataFile) = .error fault →
      Fails r files dir .content (.storage (dir.join metadataFile) fault)
  | unreachableChecksum {fault} : r.verify = true →
      files.readText (dir.join checksumFile) = .error fault → fault ≠ .notFound →
      Fails r files dir .checksum (.storage (dir.join checksumFile) fault)
  | invalidChecksum {text} : r.verify = true →
      files.readText (dir.join checksumFile) = .ok text → Checksum.parse? text = none →
      Fails r files dir .checksum
        (.corrupt (dir.join checksumFile) (.invalidChecksum (Text.trim text)))
  | checksumMismatch {text expected content} : r.verify = true →
      files.readText (dir.join checksumFile) = .ok text → Checksum.parse? text = some expected →
      files.read (dir.join metadataFile) = .ok content → expected ≠ crc32 content →
      Fails r files dir .checksum
        (.corrupt (dir.join metadataFile) (.checksumMismatch expected (crc32 content)))
  | malformed {content fault} : files.read (dir.join metadataFile) = .ok content →
      Record.parse content = .error fault →
      Fails r files dir .document (.corrupt (dir.join metadataFile) (.malformed fault))
  | disagreement {version record} : States files dir version → Holds files dir record →
      record.version ≠ version →
      Fails r files dir .agreement
        (.corrupt (dir.join metadataFile) (.versionDisagreement version record.version))
  | descriptors {record fault} : Holds files dir record → record.metadata = .error fault →
      Fails r files dir .descriptors (.corrupt (dir.join metadataFile) (.descriptors fault))

def PassesBefore (r : Reader) (files : Files) (dir : Path) (s : Stage) : Prop :=
  ∀ s' e, s'.rank < s.rank → ¬ r.Fails files dir s' e

def FailsFirst (r : Reader) (files : Files) (dir : Path) (s : Stage) (e : Error) : Prop :=
  r.Fails files dir s e ∧ r.PassesBefore files dir s

variable {r : Reader} {files : Files} {dir : Path}

theorem readText_ok {p : Path} {content : Bytes} {text : String} (h : files.read p = .ok content)
    (ht : Utf8.decode? content = some text) : files.readText p = .ok text := by
  rw [Files.readText, h]
  simp [ht, bind, Except.bind, pure, Except.pure]

theorem readText_error {p : Path} {fault : Storage.Fault} (h : files.read p = .error fault) :
    files.readText p = .error fault := by
  rw [Files.readText, h]
  rfl

theorem read_of_readText {p : Path} {text : String} (h : files.readText p = .ok text) :
    ∃ content, files.read p = .ok content := by
  obtain ⟨content, hread, -⟩ := bind_ok.mp h
  exact ⟨content, hread⟩

theorem read_of_missing {p : Path} (h : files.readText p = .error .notFound) :
    files.read p = .error .notFound := by
  rcases bind_error.mp h with hread | ⟨content, -, h⟩
  · exact hread
  · split at h <;> cases h

-- ---------------------------------------------------------------------------
-- One lemma for each part of the reader
-- ---------------------------------------------------------------------------

theorem checkDirectory_ok {u : Unit} :
    checkDirectory files dir = .ok u ↔ files.kind dir = .ok .directory := by
  unfold checkDirectory
  split <;> simp [*]

theorem checkDirectory_error {e : Error} (h : checkDirectory files dir = .error e) :
    r.Fails files dir .directory e := by
  unfold checkDirectory at h
  split at h
  · simp at h
  · cases h; exact .notADirectory ‹_›
  · cases h; exact .unreachable ‹_›

theorem readVersion_ok {version : UInt32} :
    r.readVersion files dir = .ok version ↔ States files dir version ∧ version ∈ r.versions := by
  constructor
  · intro h
    simp only [readVersion] at h
    split at h
    · simp at h
    · simp at h
    · rename_i text htext
      split at h
      · simp at h
      · rename_i v hv
        split at h
        · rename_i hm
          cases h
          exact ⟨⟨text, htext, hv⟩, hm⟩
        · simp at h
  · rintro ⟨⟨text, htext, hv⟩, hm⟩
    simp [readVersion, htext, hv, hm]

theorem readMetadata_ok {content : Bytes} :
    readMetadata files dir = .ok content ↔ files.read (dir.join metadataFile) = .ok content := by
  simp [readMetadata, mapError_ok]

theorem readMetadata_error {e : Error} (h : readMetadata files dir = .error e) :
    r.Fails files dir .content e := by
  simp only [readMetadata, mapError_error] at h
  obtain ⟨fault, hf, rfl⟩ := h
  exact .unreachableContent hf

/-- The comparison with the check value, as the reader asks for it. -/
def verification (r : Reader) (files : Files) (dir : Path) (content : Bytes) : Except Error Unit :=
  if r.verify then checkChecksum files dir content else .ok ()

theorem verification_ok {content : Bytes} {u : Unit} :
    r.verification files dir content = .ok u ↔ r.Verified files dir content := by
  cases hv : r.verify with
  | false => simp [verification, Verified, hv]
  | true =>
    simp only [verification, Verified, hv, if_true, checkChecksum]
    split
    · rename_i hn
      simp [hn]
    · rename_i fault hn hf
      simpa [hf] using fun he => hn he
    · rename_i text htext
      split
      · rename_i hp
        simp [htext, hp]
      · rename_i expected hp
        by_cases he : expected = crc32 content <;> simp [htext, hp, he]

theorem verification_error {content : Bytes} {e : Error}
    (hc : files.read (dir.join metadataFile) = .ok content)
    (h : r.verification files dir content = .error e) : r.Fails files dir .checksum e := by
  cases hv : r.verify with
  | false => simp [verification, hv] at h
  | true =>
    simp only [verification, hv, if_true, checkChecksum] at h
    split at h
    · simp at h
    · rename_i fault hn hf
      cases h; exact .unreachableChecksum hv hf (fun he => hn he)
    · rename_i text htext
      split at h
      · cases h; exact .invalidChecksum hv htext ‹_›
      · rename_i expected hp
        split at h
        · simp at h
        · cases h; exact .checksumMismatch hv htext hp hc ‹_›

theorem decode_ok {version : UInt32} {content : Bytes} {m : Metadata} :
    decode version content = .ok m ↔
      ∃ record, Record.parse content = .ok record ∧ record.version = version ∧
        record.metadata = .ok m := by
  simp only [decode, bind_ok, mapError_ok]
  refine exists_congr fun record => and_congr_right fun _ => ?_
  by_cases hv : record.version = version
  · simp [hv, mapError_ok]
  · simp [hv, bind, Except.bind, throw, throwThe, MonadExceptOf.throw]

theorem decode_error {version : UInt32} {content : Bytes} {reason : Corruption}
    (h : decode version content = .error reason) :
    (∃ fault, Record.parse content = .error fault ∧ reason = .malformed fault) ∨
    ∃ record, Record.parse content = .ok record ∧
      ((record.version ≠ version ∧ reason = .versionDisagreement version record.version) ∨
        (record.version = version ∧
          ∃ fault, record.metadata = .error fault ∧ reason = .descriptors fault)) := by
  simp only [decode, bind_error, mapError_error, mapError_ok] at h
  rcases h with ⟨fault, hp, rfl⟩ | ⟨record, hp, h⟩
  · exact .inl ⟨fault, hp, rfl⟩
  refine .inr ⟨record, hp, ?_⟩
  by_cases hv : record.version = version
  · rw [if_neg (not_not_intro hv)] at h
    obtain ⟨fault, hf, rfl⟩ := mapError_error.mp h
    exact .inr ⟨hv, fault, hf, rfl⟩
  · rw [if_pos hv] at h
    cases h
    exact .inl ⟨hv, rfl⟩

-- ---------------------------------------------------------------------------
-- Stages that pass
-- ---------------------------------------------------------------------------

theorem Stage.rank_inj {s t : Stage} (h : s.rank = t.rank) : s = t := by
  cases s <;> cases t <;> simp_all [Stage.rank]

theorem passesBefore_directory : r.PassesBefore files dir .directory :=
  fun _ _ h => absurd h (Nat.not_lt_zero _)

theorem PassesBefore.next {s t : Stage} (h : r.PassesBefore files dir s)
    (hs : ∀ e, ¬ r.Fails files dir s e) (hn : t.rank = s.rank + 1) :
    r.PassesBefore files dir t := by
  intro s' e hlt
  rcases Nat.lt_or_eq_of_le (Nat.le_of_lt_succ (hn ▸ hlt)) with hlt | heq
  · exact h s' e hlt
  · exact Stage.rank_inj heq ▸ hs e

theorem States.unique {v w : UInt32} (hv : States files dir v) (hw : States files dir w) :
    v = w := by
  obtain ⟨text, ht, hv⟩ := hv
  obtain ⟨text', ht', hw⟩ := hw
  rw [ht, Except.ok.injEq] at ht'
  subst ht'
  simpa [hv] using hw

theorem Holds.unique {a b : Record} (ha : Holds files dir a) (hb : Holds files dir b) : a = b := by
  obtain ⟨content, hc, ha⟩ := ha
  obtain ⟨content', hc', hb⟩ := hb
  rw [hc, Except.ok.injEq] at hc'
  subst hc'
  simpa [ha] using hb

theorem passesBefore_marker (h : files.kind dir = .ok .directory) :
    r.PassesBefore files dir .marker := by
  refine passesBefore_directory.next (fun e he => ?_) rfl
  cases he <;> simp_all

theorem passesBefore_number {text : String} (h : files.kind dir = .ok .directory)
    (ht : files.readText (dir.join versionFile) = .ok text) : r.PassesBefore files dir .number := by
  refine (passesBefore_marker h).next (fun e he => ?_) rfl
  cases he <;> simp_all

theorem passesBefore_range {version : UInt32} (h : files.kind dir = .ok .directory)
    (hs : States files dir version) : r.PassesBefore files dir .range := by
  obtain ⟨text, ht, hp⟩ := hs
  refine (passesBefore_number h ht).next (fun e he => ?_) rfl
  cases he; simp_all

theorem passesBefore_content {version : UInt32} (h : files.kind dir = .ok .directory)
    (hs : States files dir version) (hm : version ∈ r.versions) :
    r.PassesBefore files dir .content := by
  refine (passesBefore_range h hs).next (fun e he => ?_) rfl
  cases he with
  | unsupported hw hn => exact hn (hs.unique hw ▸ hm)

theorem passesBefore_checksum {version : UInt32} {content : Bytes}
    (h : files.kind dir = .ok .directory) (hs : States files dir version)
    (hm : version ∈ r.versions) (hc : files.read (dir.join metadataFile) = .ok content) :
    r.PassesBefore files dir .checksum := by
  refine (passesBefore_content h hs hm).next (fun e he => ?_) rfl
  cases he; simp_all

theorem passesBefore_document {version : UInt32} {content : Bytes}
    (h : files.kind dir = .ok .directory) (hs : States files dir version)
    (hm : version ∈ r.versions) (hc : files.read (dir.join metadataFile) = .ok content)
    (hv : r.Verified files dir content) : r.PassesBefore files dir .document := by
  refine (passesBefore_checksum h hs hm hc).next (fun e he => ?_) rfl
  rcases hv with hv | hv | ⟨text, ht, hv⟩ <;> cases he <;> simp_all

theorem passesBefore_agreement {version : UInt32} {content : Bytes} {record : Record}
    (h : files.kind dir = .ok .directory) (hs : States files dir version)
    (hm : version ∈ r.versions) (hc : files.read (dir.join metadataFile) = .ok content)
    (hv : r.Verified files dir content) (hp : Record.parse content = .ok record) :
    r.PassesBefore files dir .agreement := by
  refine (passesBefore_document h hs hm hc hv).next (fun e he => ?_) rfl
  cases he; simp_all

theorem passesBefore_descriptors {version : UInt32} {content : Bytes} {record : Record}
    (h : files.kind dir = .ok .directory) (hs : States files dir version)
    (hm : version ∈ r.versions) (hc : files.read (dir.join metadataFile) = .ok content)
    (hv : r.Verified files dir content) (hp : Record.parse content = .ok record)
    (he : record.version = version) : r.PassesBefore files dir .descriptors := by
  refine (passesBefore_agreement h hs hm hc hv hp).next (fun e hf => ?_) rfl
  cases hf with
  | disagreement hw hr hne =>
    exact hne (Holds.unique ⟨content, hc, hp⟩ hr ▸ hs.unique hw ▸ he)

-- ---------------------------------------------------------------------------
-- The reader
-- ---------------------------------------------------------------------------

theorem outcome_read :
    (r.read files dir).outcome = (do
      checkDirectory files dir
      let version ← r.readVersion files dir
      let content ← readMetadata files dir
      r.verification files dir content
      (decode version content).mapError (.corrupt (dir.join metadataFile))) := by
  have hlast (x : Except Error Metadata) :
      (x >>= fun m => Except.ok () >>= fun _ => Except.ok m) = x := by
    cases x <;> rfl
  cases hv : r.verify <;>
    simp only [Reader.read, verification, hv, if_true, if_false, Bool.false_eq_true,
      Attempt.outcome_bind, Attempt.outcome_lift, Attempt.outcome_tell, Attempt.outcome_pure,
      hlast] <;> rfl

theorem read_ok_iff {m : Metadata} :
    (r.read files dir).outcome = .ok m ↔ r.Accepts files dir m := by
  simp only [outcome_read, bind_ok, checkDirectory_ok, readVersion_ok, readMetadata_ok,
    verification_ok, mapError_ok, decode_ok]
  constructor
  · rintro ⟨-, h, version, ⟨hs, hm⟩, content, hc, -, hv, record, hp, he, hd⟩
    exact ⟨h, version, content, record, hs, hm, hc, hv, hp, he, hd⟩
  · rintro ⟨h, version, content, record, hs, hm, hc, hv, hp, he, hd⟩
    exact ⟨(), h, version, ⟨hs, hm⟩, content, hc, (), hv, record, hp, he, hd⟩

theorem readVersion_error {e : Error} (h : files.kind dir = .ok .directory)
    (he : r.readVersion files dir = .error e) : ∃ s, r.FailsFirst files dir s e := by
  simp only [readVersion] at he
  split at he
  · cases he; exact ⟨_, .missingMarker ‹_›, passesBefore_marker h⟩
  · rename_i fault hn hf
    cases he; exact ⟨_, .unreachableMarker hf (fun he => hn he), passesBefore_marker h⟩
  · rename_i text ht
    split at he
    · cases he; exact ⟨_, .unreadableMarker ht ‹_›, passesBefore_number h ht⟩
    · rename_i v hv
      split at he
      · simp at he
      · cases he; exact ⟨_, .unsupported ⟨text, ht, hv⟩ ‹_›, passesBefore_range h ⟨text, ht, hv⟩⟩

theorem read_error {e : Error} (h : (r.read files dir).outcome = .error e) :
    ∃ s, r.FailsFirst files dir s e := by
  simp only [outcome_read, bind_error, checkDirectory_ok, readVersion_ok, readMetadata_ok,
    verification_ok, mapError_error] at h
  rcases h with h | ⟨-, hd, h⟩
  · exact ⟨_, checkDirectory_error h, passesBefore_directory⟩
  rcases h with h | ⟨version, ⟨hs, hm⟩, h⟩
  · exact readVersion_error hd h
  rcases h with h | ⟨content, hc, h⟩
  · exact ⟨_, readMetadata_error h, passesBefore_content hd hs hm⟩
  rcases h with h | ⟨-, hv, reason, h, rfl⟩
  · exact ⟨_, verification_error hc h, passesBefore_checksum hd hs hm hc⟩
  rcases decode_error h with ⟨fault, hp, rfl⟩ | ⟨record, hp, ⟨hne, rfl⟩ | ⟨heq, fault, hf, rfl⟩⟩
  · exact ⟨_, .malformed hc hp, passesBefore_document hd hs hm hc hv⟩
  · exact ⟨_, .disagreement hs ⟨content, hc, hp⟩ hne, passesBefore_agreement hd hs hm hc hv hp⟩
  · exact ⟨_, .descriptors ⟨content, hc, hp⟩ hf, passesBefore_descriptors hd hs hm hc hv hp heq⟩

theorem Fails.unique {s : Stage} {e e' : Error} (h : r.Fails files dir s e)
    (h' : r.Fails files dir s e') : e = e' := by
  cases h <;> cases h' <;> simp_all
  case unsupported.unsupported h _ _ h' _ => exact h.unique h'
  case disagreement.disagreement hw hr _ _ _ hw' hr' _ =>
    exact ⟨hw.unique hw', by rw [hr.unique hr']⟩
  case descriptors.descriptors hr hf _ _ hr' hf' =>
    rw [hr.unique hr', hf'] at hf
    exact (Except.error.inj hf).symm

theorem Accepts.not_fails {m : Metadata} (h : r.Accepts files dir m) (s : Stage) (e : Error) :
    ¬ r.Fails files dir s e := by
  obtain ⟨hd, version, content, record, hs, hm, hc, hv, hp, he, hr⟩ := h
  intro hf
  by_cases hlt : s.rank < Stage.rank .descriptors
  · exact passesBefore_descriptors hd hs hm hc hv hp he s e hlt hf
  · have hlast : s = .descriptors := by cases s <;> simp_all [Stage.rank]
    subst hlast
    cases hf with
    | descriptors hr' hf =>
      rw [Holds.unique hr' ⟨content, hc, hp⟩, hr] at hf
      cases hf

end Precompiled.Artifact.Reader
