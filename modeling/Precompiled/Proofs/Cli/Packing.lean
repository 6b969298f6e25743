import Precompiled.Cli.Run
import Precompiled.Proofs.Artifact.Rewriting

/-!
# Packing documents

A document is packed exactly if a reader accepts it as the metadata of an artifact, and both come
out as the same metadata.
-/

namespace Precompiled.Cli

open Artifact
open Storage (Files FileTree Path)

-- ---------------------------------------------------------------------------
-- What a document describes
-- ---------------------------------------------------------------------------

/-- The document decodes to metadata, the descriptors are sound and the version is supported. -/
structure Describes (document : Bytes) (m : Metadata) : Prop where
  decodes : ∃ record, Record.parse document = .ok record ∧ record.metadata = .ok m
  supported : m.version ∈ supportedVersions

/-- The document stands in a directory as metadata, beside a marker and no checksum. -/
structure Unpacked (files : Files) (dir : Path) (version : UInt32) (document : Bytes) : Prop where
  directory : files.kind dir = .ok .directory
  marker : files.read (dir.join versionFile) = .ok (Utf8.encode (Marker.render version))
  content : files.read (dir.join metadataFile) = .ok document
  noChecksum : files.read (dir.join checksumFile) = .error .notFound

variable {t u : FileTree} {files : Files} {source output dir : Path} {checksum : Bool}
variable {document : Bytes} {version : UInt32} {m : Metadata}

theorem Describes.unique {m' : Metadata} (h : Describes document m) (h' : Describes document m') :
    m = m' := by
  obtain ⟨⟨record, hp, hm⟩, -⟩ := h
  obtain ⟨⟨record', hp', hm'⟩, -⟩ := h'
  obtain rfl := Except.ok.inj (hp.symm.trans hp')
  exact Except.ok.inj (hm.symm.trans hm')

theorem Describes.check (h : Describes document m) (dir : Path) :
    Writer.check dir m = .ok () := by
  obtain ⟨⟨record, -, hm⟩, hr⟩ := h
  exact Writer.check_ok.mpr ⟨hr, (Metadata.record_of_metadata hm).1⟩

theorem describes_metadataBytes (h : Writer.check dir m = .ok ()) :
    Describes (metadataBytes m) m := by
  obtain ⟨hr, hc⟩ := Writer.check_ok.mp h
  exact ⟨⟨m.record, parse_metadataBytes m, Metadata.metadata_record hc⟩, hr⟩

theorem Unpacked.read_ok_iff (h : Unpacked files dir version document) :
    (({} : Reader).read files dir).outcome = .ok m ↔
      m.version = version ∧ Describes document m := by
  have hs : Reader.States files dir version :=
    ⟨Marker.render version, Reader.readText_ok h.marker (Utf8.decode?_encode _),
      Marker.parse_render version⟩
  rw [Reader.read_ok_iff]
  constructor
  · rintro ⟨-, version', content, record, hs', hr, hc, -, hp, hv, hm⟩
    obtain rfl := hs.unique hs'
    obtain rfl := Except.ok.inj (h.content.symm.trans hc)
    obtain ⟨-, rfl⟩ := Metadata.record_of_metadata hm
    obtain rfl : m.version = version := hv
    exact ⟨rfl, ⟨m.record, hp, hm⟩, hr⟩
  · rintro ⟨rfl, ⟨record, hp, hm⟩, hr⟩
    obtain ⟨-, rfl⟩ := Metadata.record_of_metadata hm
    exact ⟨h.directory, m.version, document, m.record, hs, hr, h.content,
      .inr (.inl (Reader.readText_error h.noChecksum)), hp, rfl, hm⟩

def unpackedTree (version : UInt32) (document : Bytes) : FileTree :=
  ⟨[(Utf8.encode "a", .directory
    [(Utf8.encode versionFile, .file (Utf8.encode (Marker.render version))),
     (Utf8.encode metadataFile, .file document)])]⟩

theorem unpacked_unpackedTree (version : UInt32) (document : Bytes) :
    Unpacked (unpackedTree version document).files "a" version document :=
  ⟨rfl, rfl, rfl, rfl⟩

-- ---------------------------------------------------------------------------
-- What a command shows and does
-- ---------------------------------------------------------------------------

theorem outcome_inspect (h : (({} : Reader).read files dir).outcome = .ok m) :
    (inspect files dir).outcome = .ok m.summary := by
  simp only [inspect, Attempt.outcome_bind, Attempt.outcome_mapError, h]
  rfl

def unreadReport (dir : Path) (e : Artifact.Error) : Report :=
  (artifactReport e).under s!"cannot read artifact {dir.display}"

theorem outcome_inspect_error {e : Artifact.Error}
    (h : (({} : Reader).read files dir).outcome = .error e) :
    (inspect files dir).outcome = .error (unreadReport dir e) := by
  simp only [inspect, Attempt.outcome_bind, Attempt.outcome_mapError, h]
  rfl

theorem outcome_inspect_written (h : Writer.Written { checksum } t output m)
    (hm : Writer.check output m = .ok ()) (ho : output.bytes ≠ []) :
    (inspect t.files output).outcome =
      if checksum = false ∧ Path.lengthLimit < (output.join checksumFile).bytes.length then
        .error (unreadReport output (.storage (output.join checksumFile) .nameTooLong))
      else .ok m.summary := by
  obtain ⟨hr, hc⟩ := Writer.check_ok.mp hm
  split
  · rename_i hcase
    exact outcome_inspect_error (h.read_tooLong ho hr rfl hcase.1 hcase.2)
  · rename_i hcase
    simp only [not_and_or, Bool.not_eq_false, Nat.not_lt] at hcase
    exact outcome_inspect (h.read_ok ho hc hr (.inr hcase))

theorem readDocument_ok (h : files.read source = .ok document) :
    readDocument files source = .ok m ↔
      ∃ record, Record.parse document = .ok record ∧ record.metadata = .ok m := by
  rw [readDocument, h]
  constructor
  · intro hread
    obtain ⟨content, hc, hdecode⟩ := bind_ok.mp hread
    obtain ⟨record, hp, hm⟩ := bind_ok.mp hdecode
    rw [← Except.ok.inj (mapError_ok.mp hc)] at hp
    exact ⟨record, mapError_ok.mp hp, mapError_ok.mp hm⟩
  · rintro ⟨record, hp, hm⟩
    exact bind_ok.mpr ⟨document, rfl, bind_ok.mpr ⟨record, mapError_ok.mpr hp, mapError_ok.mpr hm⟩⟩

def packIn (t : FileTree) (source output : Path) (checksum : Bool) :
    FileTree × Attempt Report String :=
  (pack t.files source output checksum).carryOut t

theorem packIn_of_error {report : Report} (h : readDocument t.files source = .error report) :
    packIn t source output checksum = (t, .fail report) := by
  simp [packIn, pack, h, Action.carryOut]

theorem packIn_of_read (h : readDocument t.files source = .ok m) :
    packIn t source output checksum =
      let written := ({ checksum } : Writer).write t output m
      (written.1, do written.2.mapError artifactReport; return packedText output m) := by
  unfold packIn pack Writer.write
  rw [h]
  simp only
  cases ({ checksum } : Writer).plan output m with
  | error e => rfl
  | ok effects => rfl

theorem packIn_ok_iff {text : String} (hs : t.read source = .ok document) :
    (packIn t source output checksum).2.outcome = .ok text ↔
      ∃ m, Describes document m ∧ ({ checksum } : Writer).Writable t output ∧
        text = packedText output m := by
  constructor
  · intro h
    cases hd : readDocument t.files source with
    | error report => simp [packIn_of_error hd] at h
    | ok m =>
      rw [packIn_of_read hd] at h
      obtain ⟨⟨⟩, hw, htext⟩ := bind_ok.mp ((Attempt.outcome_bind _ _).symm.trans h)
      obtain ⟨hc, hwritable⟩ := Writer.write_ok_iff.mp (mapError_ok.mp hw)
      obtain ⟨hversion, -⟩ := Writer.check_ok.mp hc
      exact ⟨m, ⟨(readDocument_ok hs).mp hd, hversion⟩, hwritable, (Except.ok.inj htext).symm⟩
  · rintro ⟨m, hd, hwritable, rfl⟩
    rw [packIn_of_read ((readDocument_ok hs).mpr hd.decodes), Attempt.outcome_bind]
    have hw := hwritable.write_ok (hd.check output)
    exact bind_ok.mpr ⟨(), mapError_ok.mpr hw, rfl⟩

theorem packIn_refused (hs : t.read source = .ok document) (h : ∀ m, ¬ Describes document m) :
    ∃ report, packIn t source output checksum = (t, .fail report) := by
  cases hd : readDocument t.files source with
  | error report => exact ⟨report, packIn_of_error hd⟩
  | ok m =>
    cases hc : Writer.check output m with
    | ok u =>
      obtain ⟨hr, -⟩ := Writer.check_ok.mp hc
      exact absurd ⟨(readDocument_ok hs).mp hd, hr⟩ (h m)
    | error e =>
      rw [packIn_of_read hd, Writer.write_of_refused hc]
      exact ⟨artifactReport e, rfl⟩

theorem written_packIn {text : String} (hs : t.read source = .ok document)
    (hd : Describes document m) (h : (packIn t source output checksum).2.outcome = .ok text) :
    Writer.Written { checksum } (packIn t source output checksum).1 output m := by
  obtain ⟨m', hd', hwritable, -⟩ := (packIn_ok_iff hs).mp h
  obtain rfl := hd.unique hd'
  rw [packIn_of_read ((readDocument_ok hs).mpr hd.decodes)]
  exact Writer.written (hwritable.write_ok (hd.check output))

-- ---------------------------------------------------------------------------
-- Packing and reading
-- ---------------------------------------------------------------------------

/-- Packing and reading agree on every document. It is packed into an output that can be written to
exactly if a reader accepts it beside a marker, and `inspect` shows both alike; a document that
describes nothing leaves the tree as it was. What was packed is packed again to the same files, also
in its own place. There is one case apart: without a checksum, `inspect` fails on an output where
the path of the checksum file is too long to be walked. -/
theorem pack_agrees (t : FileTree) (source output : Path) (checksum : Bool) (document : Bytes)
    (hs : t.read source = .ok document) (ho : output.bytes ≠ []) :
    let packed := packIn t source output checksum
    ((∃ text, packed.2.outcome = .ok text) ↔
      ({ checksum } : Writer).Writable t output ∧
        ∃ version u dir m, Unpacked (FileTree.files u) dir version document ∧
          (({} : Reader).read u.files dir).outcome = .ok m) ∧
    (∀ text version u dir m, packed.2.outcome = .ok text →
      Unpacked (FileTree.files u) dir version document →
      (({} : Reader).read u.files dir).outcome = .ok m →
      (inspect u.files dir).outcome = .ok m.summary ∧
        (inspect packed.1.files output).outcome =
          if checksum = false ∧ Path.lengthLimit < (output.join checksumFile).bytes.length then
            .error (unreadReport output (.storage (output.join checksumFile) .nameTooLong))
          else .ok m.summary) ∧
    ((∀ m, ¬ Describes document m) → ∃ report, packed = (t, .fail report)) ∧
    (∀ text output', packed.2.outcome = .ok text →
      output' = output ∨ ({ checksum } : Writer).Writable packed.1 output' →
      let again := packIn packed.1 (output.join metadataFile) output' checksum
      (∃ text', again.2.outcome = .ok text') ∧
        ∀ name ∈ [versionFile, metadataFile, checksumFile], ∀ content,
          again.1.read (output'.join name) = .ok content ↔
            packed.1.read (output.join name) = .ok content) := by
  intro packed
  refine ⟨⟨?_, ?_⟩, ?_, packIn_refused hs, ?_⟩
  · rintro ⟨text, htext⟩
    obtain ⟨m, hd, hwritable, -⟩ := (packIn_ok_iff hs).mp htext
    have hunpacked := unpacked_unpackedTree m.version document
    exact ⟨hwritable, m.version, _, _, m, hunpacked, hunpacked.read_ok_iff.mpr ⟨rfl, hd⟩⟩
  · rintro ⟨hwritable, version, u, dir, m, hunpacked, hread⟩
    obtain ⟨-, hd⟩ := hunpacked.read_ok_iff.mp hread
    exact ⟨_, (packIn_ok_iff hs).mpr ⟨m, hd, hwritable, rfl⟩⟩
  · intro text version u dir m htext hunpacked hread
    obtain ⟨-, hd⟩ := hunpacked.read_ok_iff.mp hread
    have hwritten := written_packIn hs hd htext
    exact ⟨outcome_inspect hread, outcome_inspect_written hwritten (hd.check output) ho⟩
  · intro text output' htext hplace again
    obtain ⟨m, hd, -, -⟩ := (packIn_ok_iff hs).mp htext
    have hwritten := written_packIn hs hd htext
    have hagain : Describes (metadataBytes m) m := describes_metadataBytes (hd.check output)
    have hwritable : ({ checksum } : Writer).Writable packed.1 output' := by
      rcases hplace with rfl | hwritable
      · exact hwritten.writable ho
      · exact hwritable
    have htext' : again.2.outcome = .ok (packedText output' m) :=
      (packIn_ok_iff hwritten.content).mpr ⟨m, hagain, hwritable, rfl⟩
    exact ⟨⟨_, htext'⟩, hwritten.read_iff (written_packIn hwritten.content hagain htext')⟩

/-- A document in the form of an array, and an empty directory `art`. -/
def documentTree : FileTree :=
  ⟨[(Utf8.encode "doc", .file (Utf8.encode "[1]")), (Utf8.encode "art", .directory [])]⟩

/-- Where the path leaves room for the metadata file and for no longer name, the document is packed
without a checksum, and `inspect` shows it in a directory of its own but not in the output. -/
theorem pack_agrees_of_slashes :
    let document := Utf8.encode "[1]"
    let m : Metadata := { version := 1 }
    let output := Reader.slashedPath 4078
    let packed := packIn documentTree "doc" output false
    documentTree.read "doc" = .ok document ∧ output.bytes ≠ [] ∧
      (∃ text, packed.2.outcome = .ok text) ∧
      (inspect (unpackedTree 1 document).files "a").outcome = .ok m.summary ∧
      (inspect packed.1.files output).outcome =
        .error (unreadReport output (.storage (output.join checksumFile) .nameTooLong)) ∧
      (packIn packed.1 (output.join metadataFile) output false).2.outcome.isOk = true := by
  intro document m output packed
  have hs : documentTree.read "doc" = .ok document := rfl
  have ho : output.bytes ≠ [] := Reader.slashedPath_ne_nil _
  have hready : Writer.Ready documentTree output [Utf8.encode "art"] :=
    ⟨⟨by rw [Reader.names_slashedPath]; rfl, rfl⟩, by decide⟩
  have hwritable : Writer.Writable { checksum := false } documentTree output :=
    hready.writable ho
      (Reader.checkPath_join_slashedPath plain_versionFile (by decide))
      (Reader.checkPath_join_slashedPath plain_metadataFile (by decide))
      (fun h => absurd h (by decide))
  have hlong : Path.lengthLimit < (output.join checksumFile).bytes.length := by
    rw [Reader.length_join_slashedPath]
    decide
  clear_value output
  have hunpacked := unpacked_unpackedTree 1 document
  have hread : (({} : Reader).read (unpackedTree 1 document).files "a").outcome = .ok m :=
    hunpacked.read_ok_iff.mpr ⟨rfl, ⟨{ version := 1 }, rfl, rfl⟩, by decide⟩
  obtain ⟨hpacks, hshows, -, hagain⟩ := pack_agrees documentTree "doc" output false document hs ho
  obtain ⟨text, htext⟩ := hpacks.mpr ⟨hwritable, 1, _, _, m, hunpacked, hread⟩
  obtain ⟨hunpackedText, hpackedText⟩ := hshows text 1 _ _ m htext hunpacked hread
  obtain ⟨⟨text', htext'⟩, -⟩ := hagain text output htext (.inl rfl)
  refine ⟨hs, ho, ⟨text, htext⟩, hunpackedText, ?_, ?_⟩
  · rw [hpackedText, if_pos ⟨rfl, hlong⟩]
  · rw [htext']
    rfl

end Precompiled.Cli
