import Precompiled.Proofs.Artifact.RoundTrip
import Precompiled.Proofs.Json.Truncation
import Precompiled.Proofs.Metadata.Revision

/-!
# Metadata that is cut short

Without a check value only the grammar stands between a reader and a metadata file that was copied
in part. It is enough: a record is written as an object, and an object that is cut anywhere is no
JSON value. Only the newline after it may be missing (`Record.suffix_of_parse`).
-/

namespace Precompiled

namespace Record

open Json

variable {r r' : Record} {v : Value}

theorem isContainer_of_ofValue (h : ofValue v = .ok r) : v.isContainer = true := by
  cases v with
  | array | object => rfl
  | _ => simp [ofValue, Reading.read] at h

theorem pretty_eq_concat (r : Record) : ∃ text, r.pretty = text ++ ['\x7d'.toUInt8] := by
  obtain ⟨tokens, htokens⟩ : ∃ tokens, r.value.tokens = tokens ++ [.closeObject] :=
    ⟨_, by rw [Record.value, Value.tokens, if_pos rfl]⟩
  obtain ⟨text, htext⟩ := pretty_concat tokens .closeObject
  exact ⟨text, by rw [Record.pretty, htokens, htext]; rfl⟩

/-- What may be cut off a written record so that a record is left is its last newline. -/
theorem suffix_of_parse {text rest : Bytes} (h : parse text = .ok r')
    (hr : text ++ rest = r.pretty ++ [0x0A]) : rest <:+ [0x0A] := by
  obtain ⟨v, hv, hread⟩ := parse_ok.mp h
  have hwhole : r.value.Spells (text ++ rest) := by
    rw [hr]
    exact r.grammatical_value.spells_pretty (List.forall_mem_singleton.mpr rfl)
  have hblank := hv.isBlank_of_append (isContainer_of_ofValue hread) hwhole
  obtain ⟨start, hstart⟩ := r.pretty_eq_concat
  have hend : ['\x7d'.toUInt8, 0x0A] <:+ text ++ rest := ⟨start, by rw [hr, hstart]; simp⟩
  -- the bracket is no blank, so it is not in the rest
  have hbracket : '\x7d'.toUInt8 ∉ rest := fun hmem => absurd (hblank _ hmem) (by decide)
  rcases List.suffix_or_suffix_of_suffix (List.suffix_append text rest) hend with hs | hs
  · rcases List.suffix_cons_iff.mp hs with rfl | hs
    · simp at hbracket
    · exact hs
  · exact absurd (hs.subset List.mem_cons_self) hbracket

end Record

namespace Artifact.Reader

open Storage (FileTree Location Path)
open Storage.FileTree (entry)

variable {r : Reader} {t : FileTree} {dir : Path} {m : Metadata} {content : Bytes}

theorem read_cut (hm : m.check = .ok ()) (hr : m.version ∈ r.versions)
    (hd : t.kind dir = .ok .directory)
    (hmarker : t.read (dir.join versionFile) = .ok (markerBytes m))
    (hcontent : t.read (dir.join metadataFile) = .ok content)
    (hv : r.Verified t.files dir content)
    (hcut : content <+: metadataBytes m) (hne : content ≠ metadataBytes m) :
    (content ++ [0x0A] = metadataBytes m ∧ (r.read t.files dir).outcome = .ok m) ∨
    (content ++ [0x0A] ≠ metadataBytes m ∧ ∃ fault, (r.read t.files dir).outcome =
      .error (.corrupt (dir.join metadataFile) (.malformed fault))) := by
  have hs := states_of_marker hmarker
  by_cases hlast : content ++ [0x0A] = metadataBytes m
  · refine .inl ⟨hlast, read_ok_iff.mpr ?_⟩
    have hpretty : content = m.record.pretty := List.append_cancel_right hlast
    have hparse : Record.parse content = .ok m.record := by
      rw [hpretty, ← List.append_nil m.record.pretty]
      exact Record.parse_pretty_append m.record (by simp)
    exact ⟨hd, m.version, content, m.record, hs, hr, hcontent, hv, hparse, rfl,
      Metadata.metadata_record hm⟩
  · refine .inr ⟨hlast, ?_⟩
    cases hparse : Record.parse content with
    | error fault =>
      exact ⟨fault, read_error_iff.mpr
        ⟨.document, .malformed hcontent hparse, passesBefore_document hd hs hr hcontent hv⟩⟩
    | ok record =>
      obtain ⟨rest, hrest⟩ := hcut
      rcases List.suffix_cons_iff.mp (Record.suffix_of_parse hparse hrest) with rfl | hs
      · exact absurd hrest hlast
      · rw [List.suffix_nil.mp hs, List.append_nil] at hrest
        exact absurd hrest hne

/-- Written metadata of which only a beginning is left, without a checksum file, is refused as
malformed by every reader of its version. There are two cases apart. Where nothing but the last
newline is missing, the metadata is read as it was written. Where the path of the checksum file is
too long to be walked, a reader that verifies cannot tell that there is none, and fails. -/
theorem read_truncated (hm : m.check = .ok ()) (hr : m.version ∈ r.versions)
    (hd : t.kind dir = .ok .directory)
    (hmarker : t.read (dir.join versionFile) = .ok (markerBytes m))
    (hcontent : t.read (dir.join metadataFile) = .ok content)
    (hnone : ∀ place, t.Leads dir place → t.at? (entry place checksumFile) = none)
    (hcut : content <+: metadataBytes m) (hne : content ≠ metadataBytes m) :
    if r.verify = true ∧ Path.lengthLimit < (dir.join checksumFile).bytes.length then
      (r.read t.files dir).outcome = .error (.storage (dir.join checksumFile) .nameTooLong)
    else
      (content ++ [0x0A] = metadataBytes m ∧ (r.read t.files dir).outcome = .ok m) ∨
      (content ++ [0x0A] ≠ metadataBytes m ∧ ∃ fault, (r.read t.files dir).outcome =
        .error (.corrupt (dir.join metadataFile) (.malformed fault))) := by
  obtain ⟨-, place, hplace⟩ := FileTree.kind_eq_directory.mp hd
  have hchecksum := hplace.read_absent plain_versionFile plain_checksumFile
    (FileTree.checkPath_of_read hmarker) fun _ => hnone place hplace
  split
  · rename_i hcase
    obtain ⟨hverify, hlong⟩ := hcase
    rw [if_neg (Nat.not_le.mpr hlong)] at hchecksum
    exact read_tooLong hd hr hmarker hcontent hverify hchecksum
  · rename_i hcase
    refine read_cut hm hr hd hmarker hcontent ?_ hcut hne
    cases hverify : r.verify with
    | false => exact .inl hverify
    | true =>
      have hshort := Nat.not_lt.mp fun hlong => hcase ⟨hverify, hlong⟩
      rw [if_pos hshort] at hchecksum
      exact .inr (.inl (readText_error hchecksum))

def partialTree (m : Metadata) (content : Bytes) : FileTree :=
  ⟨[(Utf8.encode "art", .directory
    [(Utf8.encode versionFile, .file (markerBytes m)), (Utf8.encode metadataFile, .file content)])]⟩

theorem leads_partialTree (hn : dir.names = [Utf8.encode "art"]) :
    (partialTree m content).Leads dir [Utf8.encode "art"] :=
  ⟨by rw [hn]; rfl, rfl⟩

theorem partialTree_lacks (hn : dir.names = [Utf8.encode "art"]) (place : Location)
    (h : (partialTree m content).Leads dir place) :
    (partialTree m content).at? (entry place checksumFile) = none := by
  obtain rfl := h.unique (leads_partialTree hn)
  rfl

/-- The first cut goes through the two bytes of a character in a string, the second one takes the
last newline away. -/
theorem read_truncated_within_character :
    let m : Metadata := { version := 1, arch := some "µ" }
    let first := (metadataBytes m).take 37
    let second := (metadataBytes m).dropLast
    first.getLast? = some 0xC2 ∧
      (∃ fault, (({} : Reader).read (partialTree m first).files "art").outcome =
        .error (.corrupt (Path.join "art" metadataFile) (.malformed fault))) ∧
      (({} : Reader).read (partialTree m second).files "art").outcome = .ok m := by
  intro m first second
  have hlong : 38 < (metadataBytes m).length := by decide
  have hlength : first.length = 37 := List.length_take_of_le (by omega)
  have hnewline : second ++ [0x0A] = metadataBytes m := by simp [second, metadataBytes]
  have hversion : m.version ∈ ({} : Reader).versions := by decide
  have hshort : ¬ (({} : Reader).verify = true ∧
      Path.lengthLimit < (Path.join "art" checksumFile).bytes.length) := by decide
  refine ⟨by decide, ?_, ?_⟩
  · have hcut : first <+: metadataBytes m := List.take_prefix 37 _
    have hne : first ≠ metadataBytes m := fun he => by rw [he] at hlength; omega
    have hdir : (partialTree m first).kind "art" = .ok .directory := rfl
    have hread :=
      read_truncated (r := {}) rfl hversion hdir rfl rfl (partialTree_lacks rfl) hcut hne
    rw [if_neg hshort] at hread
    rcases hread with ⟨hlast, -⟩ | ⟨-, hfault⟩
    · rw [← hlast, List.length_append, hlength] at hlong
      simp at hlong
    · exact hfault
  · have hcut : second <+: metadataBytes m := List.dropLast_prefix _
    have hne : second ≠ metadataBytes m := fun he => by simp [he] at hnewline
    have hdir : (partialTree m second).kind "art" = .ok .directory := rfl
    have hread :=
      read_truncated (r := {}) rfl hversion hdir rfl rfl (partialTree_lacks rfl) hcut hne
    rw [if_neg hshort] at hread
    rcases hread with ⟨-, hread⟩ | ⟨hlast, -⟩
    · exact hread
    · exact absurd hnewline hlast

/-- Where the path leaves room for the metadata file and for no longer name, a cut is neither
refused as malformed nor read: the reader fails at the checksum file, which is not there. -/
theorem read_partial_of_slashes :
    let m : Metadata := { version := 1 }
    let content := (metadataBytes m).take 1
    let t := partialTree m content
    let dir := slashedPath 4078
    let outcome := (({} : Reader).read t.files dir).outcome
    (m.check = .ok () ∧ m.version ∈ ({} : Reader).versions ∧ t.kind dir = .ok .directory ∧
      t.read (dir.join versionFile) = .ok (markerBytes m) ∧
      t.read (dir.join metadataFile) = .ok content ∧
      (∀ place, t.Leads dir place → t.at? (entry place checksumFile) = none) ∧
      content <+: metadataBytes m ∧ content ≠ metadataBytes m) ∧
    (∀ path fault, outcome ≠ .error (.corrupt path (.malformed fault))) ∧ outcome ≠ .ok m ∧
    outcome = .error (.storage (dir.join checksumFile) .nameTooLong) := by
  intro m content t dir outcome
  have hnames : dir.names = [Utf8.encode "art"] := names_slashedPath _
  have hl : t.Leads dir [Utf8.encode "art"] := leads_partialTree hnames
  have hpath : FileTree.checkPath (dir.join versionFile) = .ok () :=
    checkPath_join_slashedPath plain_versionFile (by decide)
  have hd : t.kind dir = .ok .directory := FileTree.kind_eq_directory.mpr
    ⟨FileTree.checkPath_of_join plain_versionFile (slashedPath_ne_nil _) hpath, _, hl⟩
  have hmarker : t.read (dir.join versionFile) = .ok (markerBytes m) :=
    hl.read_join plain_versionFile hpath
  have hcontent : t.read (dir.join metadataFile) = .ok content :=
    hl.read_join plain_metadataFile (checkPath_join_slashedPath plain_metadataFile (by decide))
  have hnone : ∀ place, t.Leads dir place → t.at? (entry place checksumFile) = none :=
    partialTree_lacks hnames
  have hchecksum : t.read (dir.join checksumFile) = .error .nameTooLong :=
    (hl.read_absent plain_versionFile plain_checksumFile hpath fun _ => hnone _ hl).trans
      (if_neg (by rw [length_join_slashedPath]; decide))
  have hfault : outcome = .error (.storage (dir.join checksumFile) .nameTooLong) :=
    read_tooLong hd (by decide) hmarker hcontent rfl hchecksum
  rw [hfault]
  exact ⟨⟨rfl, by decide, hd, hmarker, hcontent, hnone, List.take_prefix 1 _, by decide⟩, nofun,
    nofun, rfl⟩

end Artifact.Reader
end Precompiled
