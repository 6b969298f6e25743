import Precompiled.Artifact.Writer
import Precompiled.Proofs.Storage.Stops

/-!
# Where artifacts can be written

A write succeeds exactly if the metadata is one to write and the path is one to write to
(`write_ok_iff`): its directory is there or can be made, and the files find room in it.
-/

namespace Precompiled.Artifact

open Storage (Effect Fault FileTree Path)
open Storage.Path (Plain)

theorem plain_versionFile : Plain (Utf8.encode versionFile) := by decide

theorem plain_metadataFile : Plain (Utf8.encode metadataFile) := by decide

theorem plain_checksumFile : Plain (Utf8.encode checksumFile) := by decide

theorem forall_files {p : String → Prop} :
    (∀ name ∈ [versionFile, metadataFile, checksumFile], p name) ↔
      p versionFile ∧ p metadataFile ∧ p checksumFile := by
  simp

namespace Writer

variable {w : Writer} {t t' : FileTree} {dir : Path} {m : Metadata}

-- ---------------------------------------------------------------------------
-- One lemma for each part of a write
-- ---------------------------------------------------------------------------

theorem check_ok {u : Unit} :
    check dir m = .ok u ↔ m.version ∈ supportedVersions ∧ m.check = .ok () := by
  unfold check
  split
  · simp [mapError_ok, *]
  · simp [*]

/-- The effect on the checksum file: it is stored, or an old one is taken away. -/
def checksumEffect (w : Writer) (dir : Path) (m : Metadata) : Effect :=
  if w.checksum then .store (dir.join checksumFile) (checksumBytes m)
  else .discard (dir.join checksumFile)

theorem write_of_check (h : check dir m = .ok ()) :
    w.write t dir m = ((t.carryOut (w.effects dir m)).1,
      conclude dir m (t.carryOut (w.effects dir m)).2) := by
  have hp : w.plan dir m = .ok (w.effects dir m) := bind_ok.mpr ⟨(), h, rfl⟩
  rw [write, hp]

theorem write_of_refused {e : Error} (h : check dir m = .error e) :
    w.write t dir m = (t, .fail e) := by
  have hp : w.plan dir m = .error e := bind_error.mpr (.inl h)
  rw [write, hp]

theorem write_ok (h : (w.write t dir m).2.outcome = .ok ()) :
    check dir m = .ok () ∧ t.carryOut (w.effects dir m) = ((w.write t dir m).1, none) := by
  cases hc : check dir m with
  | error e => simp [write_of_refused hc] at h
  | ok u =>
    rw [write_of_check hc] at h ⊢
    refine ⟨rfl, Prod.ext rfl ?_⟩
    cases hs : (t.carryOut (w.effects dir m)).2 with
    | none => rfl
    | some stopped => simp [hs, conclude] at h

theorem exists_steps_of_write (h : (w.write t dir m).2.outcome = .ok ()) :
    ∃ t₁ t₂ t₃ t₄, t.makeDirs dir = (t₁, none) ∧
      t₁.apply (.discard (dir.join versionFile)) = (t₂, none) ∧
      t₂.store (dir.join metadataFile) (metadataBytes m) = .ok t₃ ∧
      t₃.apply (w.checksumEffect dir m) = (t₄, none) ∧
      t₄.store (dir.join versionFile) (markerBytes m) = .ok (w.write t dir m).1 := by
  obtain ⟨-, hplan⟩ := write_ok h
  obtain ⟨t₁, hfirst, hplan⟩ := FileTree.carryOut_cons.mp hplan
  obtain ⟨t₂, hdiscard, hplan⟩ := FileTree.carryOut_cons.mp hplan
  obtain ⟨t₃, hcontent, hplan⟩ := FileTree.carryOut_cons.mp hplan
  obtain ⟨t₄, hchecksum, hplan⟩ := FileTree.carryOut_cons.mp hplan
  obtain ⟨t₅, hmarker, hplan⟩ := FileTree.carryOut_cons.mp hplan
  simp only [FileTree.carryOut, Prod.mk.injEq, and_true] at hplan
  subst hplan
  rw [FileTree.apply_store] at hcontent hmarker
  exact ⟨t₁, t₂, t₃, t₄, hfirst, hdiscard, hcontent, hchecksum, hmarker⟩

-- ---------------------------------------------------------------------------
-- Room for the files
-- ---------------------------------------------------------------------------

/-- None of the files finds a directory in its place, as far as their paths can be walked. -/
def Free (t : FileTree) (dir : Path) (place : Storage.Location) : Prop :=
  ∀ name ∈ [versionFile, metadataFile, checksumFile],
    FileTree.checkPath (dir.join name) = .ok () →
      t.at? (FileTree.entry place name) ≠ some .directory

theorem Free.congr {place : Storage.Location} (h : Free t dir place)
    (hd : t.SameDirectories t') : Free t' dir place :=
  fun name hn hc hdir => h name hn hc ((hd _).mp hdir)

/-- A path to write to. The directory is there or can be made, the paths of the files to store can
be walked, and the files find room. -/
structure Writable (w : Writer) (t : FileTree) (dir : Path) : Prop where
  marker : FileTree.checkPath (dir.join versionFile) = .ok ()
  content : FileTree.checkPath (dir.join metadataFile) = .ok ()
  checksum : w.checksum = true → FileTree.checkPath (dir.join checksumFile) = .ok ()
  room : ∃ made place, t.makeDirs dir = (made, none) ∧ made.Leads dir place ∧ Free made dir place

theorem Writable.write_ok (h : w.Writable t dir) (hc : check dir m = .ok ()) :
    (w.write t dir m).2.outcome = .ok () := by
  obtain ⟨hv, hm, hw, t₁, place, hfirst, hl, hfree⟩ := h
  obtain ⟨t₂, hdiscard, hsame⟩ :=
    hl.exists_discard plain_versionFile (hfree versionFile (by simp))
  -- Each effect leaves all directories where they are, so the next one finds what it needs.
  have hl := (FileTree.Leads.congr hsame).mpr hl
  have hfree := hfree.congr hsame
  obtain ⟨t₃, hcontent, hsame⟩ :=
    hl.exists_store plain_metadataFile hm (hfree metadataFile (by simp) hm) (metadataBytes m)
  have hl := (FileTree.Leads.congr hsame).mpr hl
  have hfree := hfree.congr hsame
  have hchecksum : ∃ t₄, t₃.apply (w.checksumEffect dir m) = (t₄, none) ∧
      t₃.SameDirectories t₄ := by
    have hfree := hfree checksumFile (by simp)
    rw [checksumEffect]
    split
    · obtain ⟨t₄, hs, hsame⟩ :=
        hl.exists_store plain_checksumFile (hw ‹_›) (hfree (hw ‹_›)) (checksumBytes m)
      exact ⟨t₄, FileTree.apply_store.mpr hs, hsame⟩
    · exact hl.exists_discard plain_checksumFile hfree
  obtain ⟨t₄, hchecksum, hsame⟩ := hchecksum
  have hl := (FileTree.Leads.congr hsame).mpr hl
  have hfree := hfree.congr hsame
  obtain ⟨t₅, hmarker, -⟩ :=
    hl.exists_store plain_versionFile hv (hfree versionFile (by simp) hv) (markerBytes m)
  have hplan : t.carryOut (w.effects dir m) = (t₅, none) :=
    FileTree.carryOut_cons.mpr ⟨t₁, hfirst, FileTree.carryOut_cons.mpr ⟨t₂, hdiscard,
      FileTree.carryOut_cons.mpr ⟨t₃, FileTree.apply_store.mpr hcontent,
        FileTree.carryOut_cons.mpr ⟨t₄, hchecksum,
          FileTree.carryOut_cons.mpr ⟨t₅, FileTree.apply_store.mpr hmarker, rfl⟩⟩⟩⟩⟩
  rw [write_of_check hc, hplan]
  rfl

theorem checksumEffect_free (h : t.apply (w.checksumEffect dir m) = (t', none)) :
    t.SameDirectories t' ∧
      (w.checksum = true → FileTree.checkPath (dir.join checksumFile) = .ok ()) ∧
      ∀ place, t.Leads dir place → FileTree.checkPath (dir.join checksumFile) = .ok () →
        t.at? (FileTree.entry place checksumFile) ≠ some .directory := by
  rw [checksumEffect] at h
  split at h
  · obtain ⟨hc, place, hl, hr⟩ := FileTree.store_join plain_checksumFile (FileTree.apply_store.mp h)
    refine ⟨hr.sameDirectories, fun _ => hc, fun place' hl' _ => ?_⟩
    rw [hl'.unique hl]
    exact hr.was
  · rename_i hw
    obtain ⟨hsame, hfree⟩ := FileTree.discard_free plain_checksumFile h
    exact ⟨hsame, fun hon => absurd hon hw, hfree⟩

theorem writable_of_write (h : (w.write t dir m).2.outcome = .ok ()) : w.Writable t dir := by
  obtain ⟨t₁, t₂, t₃, t₄, hfirst, hdiscard, hcontent, hchecksum, hmarker⟩ :=
    exists_steps_of_write h
  obtain ⟨hsame₁, hversion⟩ := FileTree.discard_free plain_versionFile hdiscard
  obtain ⟨hm, place, hl₂, hcontent⟩ := FileTree.store_join plain_metadataFile hcontent
  obtain ⟨-, hw, hchecksum⟩ := checksumEffect_free hchecksum
  obtain ⟨hv, -⟩ := FileTree.store_join plain_versionFile hmarker
  have hl₁ := (FileTree.Leads.congr hsame₁).mp hl₂
  refine ⟨hv, hm, hw, t₁, place, hfirst, hl₁, forall_files.mpr ⟨hversion place hl₁, ?_, ?_⟩⟩
  · intro _ hdir
    exact hcontent.was ((hsame₁ _).mpr hdir)
  · intro hc hdir
    refine hchecksum place (hcontent.leads.mpr hl₂) hc ?_
    exact (hcontent.sameDirectories _).mpr ((hsame₁ _).mpr hdir)

theorem write_ok_iff :
    (w.write t dir m).2.outcome = .ok () ↔ check dir m = .ok () ∧ w.Writable t dir := by
  constructor
  · intro h
    exact ⟨(write_ok h).1, writable_of_write h⟩
  · rintro ⟨hc, h⟩
    exact h.write_ok hc

theorem writable_of_read {marker content : Bytes} (hd : t.kind dir = .ok .directory)
    (hv : t.read (dir.join versionFile) = .ok marker)
    (hm : t.read (dir.join metadataFile) = .ok content)
    (hw : w.checksum = true → FileTree.checkPath (dir.join checksumFile) = .ok ())
    (hr : t.read (dir.join checksumFile) ≠ .error .isADirectory) : w.Writable t dir := by
  obtain ⟨hc, place, hl⟩ := FileTree.kind_eq_directory.mp hd
  have hne := (FileTree.checkPath_ok.mp hc).2.2
  have hfree : Free t dir place :=
    forall_files.mpr ⟨fun h => hl.free_of_read plain_versionFile h (by simp [hv]),
      fun h => hl.free_of_read plain_metadataFile h (by simp [hm]),
      fun h => hl.free_of_read plain_checksumFile h hr⟩
  exact ⟨FileTree.checkPath_of_read hv, FileTree.checkPath_of_read hm, hw, t, place,
    FileTree.makeDirs_of_directory hne hd, hl, hfree⟩

structure Ready (t : FileTree) (dir : Path) (place : Storage.Location) : Prop where
  leads : t.Leads dir place
  free : ∀ name ∈ [versionFile, metadataFile, checksumFile],
    t.at? (FileTree.entry place name) ≠ some .directory

theorem Ready.writable {place : Storage.Location} (h : Ready t dir place) (hd : dir.bytes ≠ [])
    (hv : FileTree.checkPath (dir.join versionFile) = .ok ())
    (hm : FileTree.checkPath (dir.join metadataFile) = .ok ())
    (hw : w.checksum = true → FileTree.checkPath (dir.join checksumFile) = .ok ()) :
    w.Writable t dir := by
  have hdir : t.kind dir = .ok .directory := FileTree.kind_eq_directory.mpr
    ⟨FileTree.checkPath_of_join plain_versionFile hd hv, place, h.leads⟩
  exact ⟨hv, hm, hw, t, place, FileTree.makeDirs_of_directory hd hdir, h.leads,
    fun name hn _ => h.free name hn⟩

theorem write_of_ready {place : Storage.Location} (hc : check dir m = .ok ())
    (hd : dir.bytes ≠ []) (h : Ready t dir place)
    (hv : FileTree.checkPath (dir.join versionFile) = .ok ())
    (hm : FileTree.checkPath (dir.join metadataFile) = .ok ())
    (hw : w.checksum = true → FileTree.checkPath (dir.join checksumFile) = .ok ()) :
    (w.write t dir m).2.outcome = .ok () :=
  (h.writable hd hv hm hw).write_ok hc

end Writer
end Precompiled.Artifact
