import Precompiled.Proofs.Artifact.Interruption
import Precompiled.Proofs.Artifact.RoundTrip
import Precompiled.Proofs.Storage.Frame

/-!
# What a write changes

A write that is refused changes nothing. One that is not makes the directories of its path that are
missing and changes its three files, and nothing else, whether it comes to its end or not. At its
end the files hold what the metadata and the writer determine, whatever they held before
(`Writer.Fills`).
-/

namespace Precompiled.Artifact

open Storage (Effect Fault FileTree Location Path)
open Storage.FileTree (entry)

namespace Writer

variable {w : Writer} {t t' : FileTree} {dir : Path} {m : Metadata} {place : Location}

theorem check_error_of_version (h : m.version ∉ supportedVersions) :
    check dir m = .error (.version (.unsupported m.version supportedVersions)) := by
  rw [check, if_neg h]

theorem check_error_of_descriptors {fault : DescriptorFault} (hv : m.version ∈ supportedVersions)
    (h : m.check = .error fault) :
    check dir m = .error (.corrupt (dir.join metadataFile) (.descriptors fault)) := by
  rw [check, if_pos hv, h]
  rfl

-- ---------------------------------------------------------------------------
-- The entries that a write changes
-- ---------------------------------------------------------------------------

theorem within_effects (w : Writer) (dir : Path) (m : Metadata) :
    ∃ rest, w.effects dir m = .makeDirs dir :: rest ∧
      ∀ e ∈ rest, e.Within dir [versionFile, metadataFile, checksumFile] := by
  refine ⟨_, rfl, ?_⟩
  simp only [List.forall_mem_cons]
  refine ⟨.discard (by simp) plain_versionFile, .store (by simp) plain_metadataFile, ?_,
    .store (by simp) plain_versionFile, by simp⟩
  split
  · exact .store (by simp) plain_checksumFile
  · exact .discard (by simp) plain_checksumFile

theorem Leaves.confined (h : w.Leaves t dir m t') :
    t.Confined t' dir [versionFile, metadataFile, checksumFile] := by
  rcases h with rfl | ⟨-, hs⟩
  · exact .refl _ dir _
  · obtain ⟨rest, he, hrest⟩ := within_effects w dir m
    rw [he] at hs
    exact hs.confined hrest

theorem write_outcome (h : check dir m = .ok ()) :
    (w.write t dir m).2.outcome = .ok () ∨
      ∃ path ∈ [dir, dir.join versionFile, dir.join metadataFile, dir.join checksumFile],
        ∃ fault, (w.write t dir m).2.outcome = .error (.storage path fault) := by
  rw [write_of_check h]
  cases hs : (t.carryOut (w.effects dir m)).2 with
  | none => exact .inl rfl
  | some stopped =>
    obtain ⟨path, fault⟩ := stopped
    obtain ⟨e, he, hpath⟩ := FileTree.exists_effect_of_stopped hs
    refine .inr ⟨path, ?_, fault, rfl⟩
    subst hpath
    simp only [effects, List.mem_cons, List.not_mem_nil, or_false] at he
    rcases he with rfl | rfl | rfl | rfl | rfl
    · simp [Effect.path]
    · simp [Effect.path]
    · simp [Effect.path]
    · split <;> simp [Effect.path]
    · simp [Effect.path]

-- ---------------------------------------------------------------------------
-- What the files hold
-- ---------------------------------------------------------------------------

/-- What stands in the directory after a successful write. Without a checksum there is no checksum
file, unless its path is too long to be walked: then the write has left alone what was there when
the directory was made. -/
structure Fills (w : Writer) (t t' : FileTree) (dir : Path) (m : Metadata) (place : Location) :
    Prop where
  leads : t'.Leads dir place
  marker : t'.at? (entry place versionFile) = some (.file (markerBytes m))
  content : t'.at? (entry place metadataFile) = some (.file (metadataBytes m))
  checksum : w.checksum = true →
    t'.at? (entry place checksumFile) = some (.file (checksumBytes m))
  noChecksum : w.checksum = false → (dir.join checksumFile).bytes.length ≤ Path.lengthLimit →
    t'.at? (entry place checksumFile) = none
  untouched : w.checksum = false → Path.lengthLimit < (dir.join checksumFile).bytes.length →
    t'.at? (entry place checksumFile) = (t.makeDirs dir).1.at? (entry place checksumFile)

theorem exists_fills (h : (w.write t dir m).2.outcome = .ok ()) :
    ∃ place, w.Fills t (w.write t dir m).1 dir m place := by
  have hwritten := written h
  obtain ⟨t₁, t₂, t₃, t₄, hfirst, hdiscard, hcontent, hchecksum, hmarker⟩ :=
    exists_steps_of_write h
  obtain ⟨hc, place, hl, hr⟩ := FileTree.store_join plain_versionFile hmarker
  have hlead : (w.write t dir m).1.Leads dir place := hr.leads.mpr hl
  have hsibling := FileTree.checkPath_of_sibling plain_versionFile plain_checksumFile hc
  refine ⟨place, hlead, hlead.at?_of_read plain_versionFile hwritten.marker,
    hlead.at?_of_read plain_metadataFile hwritten.content,
    fun hw => hlead.at?_of_read plain_checksumFile (hwritten.checksum hw), fun hw hshort => ?_,
    fun hw hlong => ?_⟩
  · have hread := hwritten.noChecksum hw
    rw [if_pos hshort] at hread hsibling
    rw [hlead.read_join plain_checksumFile hsibling] at hread
    split at hread
    · cases hread
    · cases hread
    · assumption
  · -- The path of the checksum file is not one to look up, so nothing was done to the file.
    rw [if_neg (Nat.not_le.mpr hlong)] at hsibling
    rw [checksumEffect, if_neg (by simp [hw]), FileTree.apply,
      if_neg (by simp [FileTree.holds_of_checkPath hsibling])] at hchecksum
    obtain rfl : t₃ = t₄ := congrArg Prod.fst hchecksum
    have hedits : t₁.Edits (w.write t dir m).1 dir [versionFile, metadataFile] :=
      ((FileTree.apply_edits (.discard (by simp) plain_versionFile) hdiscard).trans
        (FileTree.store_edits (by simp) plain_metadataFile hcontent)).trans
        (FileTree.store_edits (by simp) plain_versionFile hmarker)
    have hmade : (t.makeDirs dir).1 = t₁ := congrArg Prod.fst hfirst
    rw [hmade]
    refine hedits.at?_of_ne ((FileTree.Leads.congr hedits.directories).mp hlead) ?_
    simp only [List.forall_mem_cons]
    exact ⟨by decide, by decide, by simp⟩

-- ---------------------------------------------------------------------------
-- The write
-- ---------------------------------------------------------------------------

/-- A write of metadata that is refused leaves the tree as it is, and says what is wrong with the
metadata. Every other write, wherever it is stopped, makes directories of its path that are missing
and changes its three files, and changes nothing else; if it fails, then at the directory or at one
of the files. If it succeeds, the files hold what the metadata and the writer determine, unless the
path of a checksum file that is not wanted is too long to be walked. -/
theorem write_confined (w : Writer) (t : FileTree) (dir : Path) (m : Metadata) :
    let t' := (w.write t dir m).1
    let outcome := (w.write t dir m).2.outcome
    (m.version ∉ supportedVersions →
      t' = t ∧ outcome = .error (.version (.unsupported m.version supportedVersions))) ∧
    (∀ fault, m.version ∈ supportedVersions → m.check = .error fault →
      t' = t ∧ outcome = .error (.corrupt (dir.join metadataFile) (.descriptors fault))) ∧
    (m.version ∈ supportedVersions → m.check = .ok () →
      (outcome = .ok () ∨
        ∃ path ∈ [dir, dir.join versionFile, dir.join metadataFile, dir.join checksumFile],
          ∃ fault, outcome = .error (.storage path fault)) ∧
      (∀ left, w.Leaves t dir m left →
        t.Confined left dir [versionFile, metadataFile, checksumFile]) ∧
      w.Leaves t dir m t' ∧
      (outcome = .ok () → ∃ place, w.Fills t t' dir m place)) := by
  intro t' outcome
  have hrefused {e : Error} (h : check dir m = .error e) : t' = t ∧ outcome = .error e := by
    have hw : w.write t dir m = (t, .fail e) := write_of_refused h
    exact ⟨congrArg Prod.fst hw, congrArg (·.2.outcome) hw⟩
  refine ⟨fun hv => hrefused (check_error_of_version hv),
    fun fault hv hf => hrefused (check_error_of_descriptors hv hf), fun hv hc => ?_⟩
  exact ⟨write_outcome (check_ok.mpr ⟨hv, hc⟩), fun left hleft => hleft.confined,
    leaves_write w t dir m, exists_fills⟩

/-- The checksum file of an older artifact outlives a write without a checksum, if its path is too
long to be walked. Metadata of a version that does not exist and a field without a name change
nothing. -/
theorem write_confined_of_stale_checksum :
    let w : Writer := { checksum := false }
    let stale : Bytes := Utf8.encode "00000000\n"
    let t : FileTree :=
      ⟨[(Utf8.encode "art", .directory [(Utf8.encode checksumFile, .file stale)])]⟩
    let m : Metadata := { version := 1 }
    let late : Metadata := { version := 6 }
    let unnamed : Metadata := { version := 1, fields := [{ name := "", type := .i8 }] }
    let dir := Reader.slashedPath 4078
    (w.write t dir late).1 = t ∧ (w.write t dir unnamed).1 = t ∧
      m.version ∈ supportedVersions ∧ m.check = .ok () ∧
      (w.write t dir m).2.outcome = .ok () ∧
      ∃ place, (w.write t dir m).1.Leads dir place ∧
        (w.write t dir m).1.at? (entry place checksumFile) = some (.file stale) := by
  intro w stale t m late unnamed dir
  have hv : m.version ∈ supportedVersions := by decide
  have hc : m.check = .ok () := rfl
  have hd : dir.bytes ≠ [] := Reader.slashedPath_ne_nil _
  have hready : Ready t dir [Utf8.encode "art"] :=
    ⟨⟨by rw [Reader.names_slashedPath]; rfl, rfl⟩, by decide⟩
  have hpath : FileTree.checkPath (dir.join versionFile) = .ok () :=
    Reader.checkPath_join_slashedPath plain_versionFile (by decide)
  have hw : (w.write t dir m).2.outcome = .ok () :=
    write_of_ready rfl hd hready hpath
      (Reader.checkPath_join_slashedPath plain_metadataFile (by decide))
      (fun h => absurd h (by decide))
  obtain ⟨hlate, -, -⟩ := write_confined w t dir late
  obtain ⟨-, hunnamed, -⟩ := write_confined w t dir unnamed
  obtain ⟨-, -, hrun⟩ := write_confined w t dir m
  obtain ⟨-, hconfined, hleaves, hfills⟩ := hrun hv hc
  obtain ⟨place, hfill⟩ := hfills hw
  have hkind : t.kind dir = .ok .directory := FileTree.kind_eq_directory.mpr
    ⟨FileTree.checkPath_of_join plain_versionFile hd hpath, _, hready.leads⟩
  have hmade : t.makeDirs dir = (t, none) := FileTree.makeDirs_of_directory hd hkind
  obtain rfl : place = _ := hfill.leads.unique (hready.leads.mono (hconfined _ hleaves).directory)
  refine ⟨(hlate (by decide)).1, (hunnamed .unnamedField (by decide) rfl).1, hv, hc, hw, _,
    hfill.leads, ?_⟩
  rw [hfill.untouched rfl (by rw [Reader.length_join_slashedPath]; decide), hmade]
  rfl

end Writer
end Precompiled.Artifact
