import Precompiled.Proofs.Artifact.Stages
import Precompiled.Proofs.Metadata.Document
import Precompiled.Proofs.Metadata.Record

/-!
# What the reader accepts

An artifact is read exactly if every stage passes; otherwise the error is that of the first stage
that fails. That error is the same in every other state of the files that agrees on what the stages
up to that one look at.
-/

namespace Precompiled.Artifact.Reader

open Storage (Files FileTree Name Node Path)

/-- Two states of the files agree on what the stages up to this one look at. The check value is
looked at only if verification is on. -/
structure AgreeUpTo (r : Reader) (dir : Path) (s : Stage) (f g : Files) : Prop where
  directory : g.kind dir = f.kind dir
  marker : Stage.rank .marker ≤ s.rank →
    g.read (dir.join versionFile) = f.read (dir.join versionFile)
  content : Stage.rank .content ≤ s.rank →
    g.read (dir.join metadataFile) = f.read (dir.join metadataFile)
  checksum : Stage.rank .checksum ≤ s.rank → r.verify = true →
    g.read (dir.join checksumFile) = f.read (dir.join checksumFile)

variable {r : Reader} {dir : Path} {f g : Files}

theorem readText_congr {p : Path} (h : g.read p = f.read p) : g.readText p = f.readText p := by
  simp [Files.readText, h]

theorem States.congr (h : g.read (dir.join versionFile) = f.read (dir.join versionFile))
    {version : UInt32} (hs : States f dir version) : States g dir version := by
  obtain ⟨text, ht, hp⟩ := hs
  exact ⟨text, readText_congr h ▸ ht, hp⟩

theorem Holds.congr (h : g.read (dir.join metadataFile) = f.read (dir.join metadataFile))
    {record : Record} (hr : Holds f dir record) : Holds g dir record := by
  obtain ⟨content, hc, hp⟩ := hr
  exact ⟨content, h ▸ hc, hp⟩

theorem AgreeUpTo.symm {s : Stage} (h : r.AgreeUpTo dir s f g) : r.AgreeUpTo dir s g f :=
  ⟨h.directory.symm, fun hs => (h.marker hs).symm, fun hs => (h.content hs).symm,
    fun hs hv => (h.checksum hs hv).symm⟩

theorem AgreeUpTo.fails {s s' : Stage} {e : Error} (h : r.AgreeUpTo dir s f g)
    (hle : s'.rank ≤ s.rank) (hf : r.Fails f dir s' e) : r.Fails g dir s' e := by
  have hmarker (hs : Stage.rank .marker ≤ s'.rank) := h.marker (Nat.le_trans hs hle)
  have hcontent (hs : Stage.rank .content ≤ s'.rank) := h.content (Nat.le_trans hs hle)
  have hchecksum (hs : Stage.rank .checksum ≤ s'.rank) := h.checksum (Nat.le_trans hs hle)
  cases hf with
  | unreachable hk => exact .unreachable (h.directory ▸ hk)
  | notADirectory hk => exact .notADirectory (h.directory ▸ hk)
  | missingMarker ht => exact .missingMarker (readText_congr (hmarker (by decide)) ▸ ht)
  | unreachableMarker ht hn =>
    exact .unreachableMarker (readText_congr (hmarker (by decide)) ▸ ht) hn
  | unreadableMarker ht hp =>
    exact .unreadableMarker (readText_congr (hmarker (by decide)) ▸ ht) hp
  | unsupported hs hn => exact .unsupported (hs.congr (hmarker (by decide))) hn
  | unreachableContent hc => exact .unreachableContent (hcontent (by decide) ▸ hc)
  | unreachableChecksum hv ht hn =>
    exact .unreachableChecksum hv (readText_congr (hchecksum (by decide) hv) ▸ ht) hn
  | invalidChecksum hv ht hp =>
    exact .invalidChecksum hv (readText_congr (hchecksum (by decide) hv) ▸ ht) hp
  | checksumMismatch hv ht hp hc hne =>
    exact .checksumMismatch hv (readText_congr (hchecksum (by decide) hv) ▸ ht) hp
      (hcontent (by decide) ▸ hc) hne
  | malformed hc hp => exact .malformed (hcontent (by decide) ▸ hc) hp
  | disagreement hs hr hne =>
    exact .disagreement (hs.congr (hmarker (by decide))) (hr.congr (hcontent (by decide))) hne
  | descriptors hr hm => exact .descriptors (hr.congr (hcontent (by decide))) hm

theorem AgreeUpTo.failsFirst {s : Stage} {e : Error} (h : r.AgreeUpTo dir s f g)
    (hf : r.FailsFirst f dir s e) : r.FailsFirst g dir s e :=
  ⟨h.fails (Nat.le_refl _) hf.1,
    fun s' e' hlt hg => hf.2 s' e' hlt (h.symm.fails (Nat.le_of_lt hlt) hg)⟩

theorem sound_of_read {m : Metadata} (h : (r.read f dir).outcome = .ok m) :
    m.Sound ∧ m.version ∈ r.versions ∧ States f dir m.version ∧
      ∃ record, Holds f dir record ∧ record.version = m.version ∧ record.metadata = .ok m := by
  obtain ⟨-, version, content, record, hs, hv, hc, -, hp, rfl, hr⟩ := read_ok_iff.mp h
  obtain ⟨hcheck, rfl⟩ := Metadata.record_of_metadata hr
  exact ⟨Metadata.check_ok.mp hcheck, hv, hs, m.record, ⟨content, hc, hp⟩, rfl, hr⟩

theorem FailsFirst.unique {s s' : Stage} {e e' : Error} (h : r.FailsFirst f dir s e)
    (h' : r.FailsFirst f dir s' e') : s = s' ∧ e = e' := by
  rcases Nat.lt_trichotomy s.rank s'.rank with hlt | heq | hlt
  · exact absurd h.1 (h'.2 s e hlt)
  · obtain rfl := Stage.rank_inj heq
    exact ⟨rfl, h.1.unique h'.1⟩
  · exact absurd h'.1 (h.2 s' e' hlt)

theorem read_error_iff {e : Error} :
    (r.read f dir).outcome = .error e ↔ ∃ s, r.FailsFirst f dir s e := by
  refine ⟨read_error, fun ⟨s, hf⟩ => ?_⟩
  cases ho : (r.read f dir).outcome with
  | ok m => exact absurd hf.1 ((read_ok_iff.mp ho).not_fails s e)
  | error e' =>
    obtain ⟨s', hf'⟩ := read_error ho
    rw [(hf.unique hf').2]

theorem FailsFirst.rank_of_version {s : Stage} {fault : VersionFault}
    (h : r.FailsFirst f dir s (.version fault)) : s.rank < Stage.rank .content := by
  obtain ⟨h, -⟩ := h
  cases h <;> decide

theorem read_congr_of_unverified (hv : r.verify = false) (hd : g.kind dir = f.kind dir)
    (hm : g.read (dir.join versionFile) = f.read (dir.join versionFile))
    (hc : g.read (dir.join metadataFile) = f.read (dir.join metadataFile)) :
    r.read g dir = r.read f dir := by
  have hdir : checkDirectory g dir = checkDirectory f dir := by simp [checkDirectory, hd]
  have hver : r.readVersion g dir = r.readVersion f dir := by
    simp [readVersion, readText_congr hm]
  have hmeta : readMetadata g dir = readMetadata f dir := by simp [readMetadata, hc]
  simp [Reader.read, hdir, hver, hmeta, hv]

/-- The reader gives metadata exactly if every stage passes, and otherwise the error of the first
stage that fails, whatever the files hold that only later stages look at. So a marker that is
missing or refused gives its error whatever the other two files hold, and without verification the
check value is never looked at. -/
theorem read_outcome (r : Reader) (f : Files) (dir : Path) :
    (∀ m, (r.read f dir).outcome = .ok m ↔ r.Accepts f dir m) ∧
    (∀ e, (r.read f dir).outcome = .error e ↔ ∃ s, r.FailsFirst f dir s e) ∧
    (∀ s e g, r.FailsFirst f dir s e → r.AgreeUpTo dir s f g →
      (r.read g dir).outcome = .error e) ∧
    (∀ fault g, (r.read f dir).outcome = .error (.version fault) → g.kind dir = f.kind dir →
      g.read (dir.join versionFile) = f.read (dir.join versionFile) →
      (r.read g dir).outcome = .error (.version fault)) ∧
    (∀ g, r.verify = false → g.kind dir = f.kind dir →
      g.read (dir.join versionFile) = f.read (dir.join versionFile) →
      g.read (dir.join metadataFile) = f.read (dir.join metadataFile) →
      r.read g dir = r.read f dir) := by
  refine ⟨fun m => read_ok_iff, fun e => read_error_iff, fun s e g hf ha => ?_,
    fun fault g ho hd hm => ?_, fun g hv hd hm hc => read_congr_of_unverified hv hd hm hc⟩
  · exact read_error_iff.mpr ⟨s, ha.failsFirst hf⟩
  · obtain ⟨s, hf⟩ := read_error_iff.mp ho
    have hlt := hf.rank_of_version
    have ha : r.AgreeUpTo dir s f g := by
      refine ⟨hd, fun _ => hm, fun hle => absurd hlt (Nat.not_lt.mpr hle), fun hle => ?_⟩
      exact absurd (Nat.lt_of_lt_of_le hlt (by decide)) (Nat.not_lt.mpr hle)
    exact read_error_iff.mpr ⟨s, ha.failsFirst hf⟩

def stagedTree (marker : String) (others : List (Name × Node)) : FileTree :=
  ⟨[([0x61], .directory ((Utf8.encode versionFile, .file (Utf8.encode marker)) :: others))]⟩

/-- The stage that refuses version 99 gives its error whether there is metadata or not. Behind a
marker that is accepted, a check value of other metadata counts before what the metadata holds, but
a reader that does not verify reads as if there were none; and a type that does not exist is refused
by the last stage. -/
theorem read_outcome_of_faulty_files :
    let r : Reader := {}
    let f := (stagedTree "99\n" []).files
    let g := (stagedTree "99\n" [(Utf8.encode metadataFile, .file [0x7B])]).files
    let e := Error.version (.unsupported 99 supportedVersions)
    let unverified : Reader := { verify := false }
    let bare := (stagedTree "1\n" [(Utf8.encode metadataFile, .file [0x7B])]).files
    let stale := (stagedTree "1\n" [(Utf8.encode metadataFile, .file [0x7B]),
      (Utf8.encode checksumFile, .file (Utf8.encode "00000000\n"))]).files
    let untyped : Record := { version := 1, fields := [⟨"f", "word", []⟩] }
    let unknown :=
      (stagedTree "1\n" [(Utf8.encode metadataFile, .file untyped.compact)]).files
    let empty : Record := { version := 1 }
    let whole := (stagedTree "1\n" [(Utf8.encode metadataFile, .file empty.compact)]).files
    let corrupt := Error.corrupt (("a" : Path).join metadataFile)
    (r.FailsFirst f "a" .range e ∧ r.AgreeUpTo "a" .range f g ∧
      (r.read g "a").outcome = .error e) ∧
    (r.read stale "a").outcome = .error (corrupt (.checksumMismatch 0 (crc32 [0x7B]))) ∧
    unverified.read stale "a" = unverified.read bare "a" ∧
    (unverified.read bare "a").outcome = .error (corrupt (.malformed .malformed)) ∧
    (r.read unknown "a").outcome =
      .error (corrupt (.descriptors (.unknownTag (.field "f") "word"))) ∧
    (r.read whole "a").outcome = .ok { version := 1 } := by
  intro r f g e unverified bare stale untyped unknown empty whole corrupt
  have hrefused : States f "a" 99 := ⟨"99\n", rfl, rfl⟩
  have hf : r.FailsFirst f "a" .range e :=
    ⟨.unsupported hrefused (by decide), passesBefore_range rfl hrefused⟩
  have ha : r.AgreeUpTo "a" .range f g :=
    ⟨rfl, fun _ => rfl, fun h => absurd h (by decide), fun h => absurd h (by decide)⟩
  have haccepted : (1 : UInt32) ∈ supportedVersions := by decide
  have hbare : States bare "a" 1 := ⟨"1\n", rfl, rfl⟩
  have hstale : States stale "a" 1 := ⟨"1\n", rfl, rfl⟩
  have hunknown : States unknown "a" 1 := ⟨"1\n", rfl, rfl⟩
  have hwhole : States whole "a" 1 := ⟨"1\n", rfl, rfl⟩
  refine ⟨⟨hf, ha, (read_outcome r f "a").2.2.1 .range e g hf ha⟩, ?_,
    (read_outcome unverified bare "a").2.2.2.2 stale rfl rfl rfl rfl, ?_, ?_, ?_⟩
  · have hvalue : Checksum.parse? "00000000\n" = some 0 := rfl
    exact ((read_outcome r stale "a").2.1 _).mpr ⟨.checksum,
      .checksumMismatch rfl rfl hvalue rfl (by decide),
      passesBefore_checksum rfl hstale haccepted rfl⟩
  · exact ((read_outcome unverified bare "a").2.1 _).mpr ⟨.document,
      .malformed rfl rfl, passesBefore_document rfl hbare haccepted rfl (.inl rfl)⟩
  · have hparse : Record.parse untyped.compact = .ok untyped := Record.parse_compact _
    exact ((read_outcome r unknown "a").2.1 _).mpr ⟨.descriptors,
      .descriptors ⟨_, rfl, hparse⟩ rfl,
      passesBefore_descriptors rfl hunknown haccepted rfl (.inr (.inl rfl)) hparse rfl⟩
  · exact ((read_outcome r whole "a").1 _).mpr ⟨rfl, 1, empty.compact, empty, hwhole, haccepted,
      rfl, .inr (.inl rfl), Record.parse_compact _, rfl, rfl⟩

end Precompiled.Artifact.Reader
