import Precompiled.Proofs.Artifact.RoundTrip
import Precompiled.Proofs.Storage.Stops

/-!
# Interrupted writes

Wherever a write stops, a reader finds the new metadata, or finds what it would have found before,
or finds no artifact. The order of the effects carries this: the old marker goes first and the new
one comes last, so in between there is none.
-/

namespace Precompiled.Artifact

open Storage (Effect FileTree Path)
open Storage.FileTree (Stop Stopped Makes)

namespace Writer

/-- A tree that a write may leave behind, if it is stopped somewhere or comes to its end. -/
def Leaves (w : Writer) (t : FileTree) (dir : Path) (m : Metadata) (t' : FileTree) : Prop :=
  t' = t ∨ check dir m = .ok () ∧ Stopped t (w.effects dir m) t'

theorem leaves_write (w : Writer) (t : FileTree) (dir : Path) (m : Metadata) :
    w.Leaves t dir m (w.write t dir m).1 := by
  cases hc : check dir m with
  | error e => rw [write_of_refused hc]; exact .inl rfl
  | ok u =>
    rw [write_of_check hc]
    exact .inr ⟨hc, FileTree.stopped_carryOut t _⟩

/-- The effects on the records and then on the marker, of which this much is stored. -/
def ending (w : Writer) (dir : Path) (m : Metadata) (marker : Bytes) : List Effect :=
  [.store (dir.join metadataFile) (metadataBytes m), w.checksumEffect dir m,
    .store (dir.join versionFile) marker]

end Writer

variable {w : Writer} {r : Reader} {t t' : FileTree} {dir : Path} {m x : Metadata}

-- ---------------------------------------------------------------------------
-- Without a marker
-- ---------------------------------------------------------------------------

def Unmarked (t : FileTree) (dir : Path) : Prop :=
  ∀ content, t.read (dir.join versionFile) ≠ .ok content

theorem unmarked_of_discard (h : t.apply (.discard (dir.join versionFile)) = (t', none)) :
    Unmarked t' dir :=
  FileTree.read_of_not_holds (FileTree.discard_sameBut plain_versionFile h).2

theorem Unmarked.of_sameBut {name : String} (h : Unmarked t dir) (hs : t.SameBut t' dir name)
    (hne : Utf8.encode versionFile ≠ Utf8.encode name) : Unmarked t' dir := by
  intro content
  rw [hs.read versionFile plain_versionFile hne]
  exact h content

theorem Unmarked.not_ok (h : Unmarked t dir) : (r.read t.files dir).outcome ≠ .ok x := by
  intro hx
  obtain ⟨-, version, content, record, ⟨text, ht, -⟩, -⟩ := Reader.read_ok_iff.mp hx
  obtain ⟨bytes, hb, -⟩ := bind_ok.mp ht
  exact h bytes hb

theorem checksumEffect_stop_sameBut (h : Stop t (w.checksumEffect dir m) t') :
    t.SameBut t' dir checksumFile := by
  rw [Writer.checksumEffect] at h
  split at h
  · exact h.store_sameBut plain_checksumFile
  · exact h.discard_sameBut plain_checksumFile

theorem Unmarked.stopped {marker : Bytes} (h : Unmarked t dir)
    (hs : Stopped t (w.ending dir m marker) t') :
    Unmarked t' dir ∨ ∃ k, t'.read (dir.join versionFile) = .ok (marker.take k) ∧
      t'.read (dir.join metadataFile) = .ok (metadataBytes m) := by
  -- The marker is the last effect. Until then only the files beside it have changed.
  cases hs with
  | within hstop =>
    exact .inl (h.of_sameBut (hstop.store_sameBut plain_metadataFile) (by decide))
  | @later _ t₁ _ _ _ happly hs =>
    rw [FileTree.apply_store] at happly
    have hcontent := FileTree.read_store plain_metadataFile happly
    have h := h.of_sameBut (FileTree.store_sameBut plain_metadataFile happly) (by decide)
    cases hs with
    | within hstop => exact .inl (h.of_sameBut (checksumEffect_stop_sameBut hstop) (by decide))
    | @later _ t₂ _ _ _ happly hs =>
      have hsame := Writer.checksumEffect_sameBut happly
      rw [← hsame.read metadataFile plain_metadataFile (by decide)] at hcontent
      have h := h.of_sameBut hsame (by decide)
      have hstored {content : Bytes} {t₃ : FileTree}
          (hm : t₂.store (dir.join versionFile) content = .ok t₃) :
          t₃.read (dir.join versionFile) = .ok content ∧
            t₃.read (dir.join metadataFile) = .ok (metadataBytes m) := by
        refine ⟨FileTree.read_store plain_versionFile hm, ?_⟩
        rw [(FileTree.store_sameBut plain_versionFile hm).read metadataFile plain_metadataFile
          (by decide), hcontent]
      cases hs with
      | within hstop =>
        cases hstop with
        | before => exact .inl h
        | store k hm => exact .inr ⟨k, hstored hm⟩
      | later happly hs =>
        cases hs
        rw [FileTree.apply_store] at happly
        exact .inr ⟨marker.length, by rw [List.take_length]; exact hstored happly⟩

-- ---------------------------------------------------------------------------
-- Before the first change
-- ---------------------------------------------------------------------------

/-- Making directories alone gives no artifact that was not there, unless the path goes back through
a directory that was made. -/
theorem eq_of_makes (hx : (r.read t'.files dir).outcome = .ok x)
    (hm : Makes t dir.ancestors t') (hd : Path.up ∉ dir.names ∨ t.kind dir = .ok .directory) :
    t' = t := by
  obtain ⟨hkind, version, -, -, ⟨text, ht, -⟩, -⟩ := Reader.read_ok_iff.mp hx
  obtain ⟨content, hread, -⟩ := bind_ok.mp ht
  obtain ⟨hc, place, hl⟩ := FileTree.kind_eq_directory.mp hkind
  have hfile := (hm.grows.file _ content).mp (hl.at?_of_read plain_versionFile hread)
  have hplace : t.at? place.reverse = some .directory :=
    FileTree.at?_of_below (by rw [FileTree.entry] at hfile; rw [hfile]; simp)
  refine FileTree.makes_of_directory ?_ hm
  rcases hd with hup | hdir
  · exact FileTree.kind_eq_directory.mpr
      ⟨hc, place, FileTree.walk_back hup hl.walk hplace, hplace⟩
  · exact hdir

-- ---------------------------------------------------------------------------
-- The write
-- ---------------------------------------------------------------------------

theorem eq_of_content (hc : m.check = .ok ())
    (hb : t.read (dir.join metadataFile) = .ok (metadataBytes m))
    (hx : (r.read t.files dir).outcome = .ok x) : x = m := by
  obtain ⟨-, version, content, record, -, -, hread, -, hp, -, hmeta⟩ := Reader.read_ok_iff.mp hx
  have hread : t.read (dir.join metadataFile) = .ok content := hread
  rw [hb, Except.ok.injEq] at hread
  subst hread
  rw [parse_metadataBytes, Except.ok.injEq] at hp
  subst hp
  rw [Metadata.metadata_record hc, Except.ok.injEq] at hmeta
  exact hmeta.symm

theorem length_markerBytes (h : m.version ∈ supportedVersions) : (markerBytes m).length = 2 := by
  have hle : m.version.toNat ≤ supportedVersions.max.toNat := UInt32.le_iff_toNat_le.mp h.2
  have hdigit : m.version.toNat < 10 := Nat.lt_of_le_of_lt hle (by decide)
  have hnewline : String.utf8EncodeChar '\n' = [0x0A] := rfl
  rw [markerBytes, Utf8.encode, Marker.toList_render, Nat.toDigits_of_lt_base hdigit]
  simp [Json.encode_digitChar hdigit, hnewline]

theorem not_ok_of_empty_marker (h : t.read (dir.join versionFile) = .ok []) :
    (r.read t.files dir).outcome ≠ .ok x := by
  intro hx
  obtain ⟨-, version, -, -, ⟨text, ht, hp⟩, -⟩ := Reader.read_ok_iff.mp hx
  have hempty : t.files.readText (dir.join versionFile) = .ok "" := Reader.readText_ok h rfl
  rw [hempty, Except.ok.injEq] at ht
  subst ht
  cases hp

/-- Wherever a write stops, at an error or in between, a reader gets the new metadata, or finds no
file changed; then it gets what it got before, unless its path goes back through a directory that
the write has just made. While the records are written, and until the marker is there with all but
its last byte, it gets none. -/
theorem read_interrupted (w : Writer) (t : FileTree) (dir : Path) (m : Metadata) :
    w.Leaves t dir m (w.write t dir m).1 ∧
    (∀ t' (r : Reader) x, w.Leaves t dir m t' → (r.read t'.files dir).outcome = .ok x →
      x = m ∨ (∀ l, t'.content? l = t.content? l) ∧
        (Path.up ∉ dir.names ∨ t.kind dir = .ok .directory →
          (r.read t.files dir).outcome = .ok x)) ∧
    (∀ t₁ t' k, Writer.check dir m = .ok () →
      t.carryOut [.makeDirs dir, .discard (dir.join versionFile)] = (t₁, none) →
      k + 1 < (markerBytes m).length →
      Stopped t₁ (w.ending dir m ((markerBytes m).take k)) t' →
      ∀ (r : Reader) x, (r.read t'.files dir).outcome ≠ .ok x) := by
  refine ⟨w.leaves_write t dir m, ?_, ?_⟩
  · intro t' r x hleft hx
    rcases hleft with rfl | ⟨hcheck, hs⟩
    · exact .inr ⟨fun _ => rfl, fun _ => hx⟩
    have hm := (Writer.check_ok.mp hcheck).2
    have hbefore (hmakes : Makes t dir.ancestors t') : (∀ l, t'.content? l = t.content? l) ∧
        (Path.up ∉ dir.names ∨ t.kind dir = .ok .directory →
          (r.read t.files dir).outcome = .ok x) :=
      ⟨hmakes.grows.content?, fun hd => eq_of_makes hx hmakes hd ▸ hx⟩
    cases hs with
    | within hstop =>
      cases hstop with
      | before => exact .inr (hbefore .before)
      | makeDirs hmakes => exact .inr (hbefore hmakes)
    | @later _ t₁ _ _ _ happly hs =>
      have hmakes : Makes t dir.ancestors t₁ := by
        have hrun := FileTree.makes_makeDirsAlong t dir.ancestors
        have hdone : t.makeDirsAlong dir.ancestors = (t₁, none) := happly
        rwa [hdone] at hrun
      cases hs with
      | within hstop =>
        cases hstop with
        | before => exact .inr (hbefore hmakes)
        | discard hr =>
          have hread := FileTree.read_removeFile plain_versionFile hr
          have hnone : Unmarked t' dir := fun content => by rw [hread]; simp
          exact absurd hx hnone.not_ok
      | later happly hs =>
        rcases (unmarked_of_discard happly).stopped hs with hnone | ⟨k, -, hb⟩
        · exact absurd hx hnone.not_ok
        · exact .inl (eq_of_content hm hb hx)
  · intro t₁ t' k hcheck hopening hk hs r x
    obtain ⟨t₀, -, hopening⟩ := FileTree.carryOut_cons.mp hopening
    obtain ⟨t₂, hdiscard, hopening⟩ := FileTree.carryOut_cons.mp hopening
    cases hopening
    rcases (unmarked_of_discard hdiscard).stopped hs with hnone | ⟨j, hread, -⟩
    · exact hnone.not_ok
    · -- one byte less than digit and newline is nothing at all
      rw [length_markerBytes (Writer.check_ok.mp hcheck).1] at hk
      have hzero : k = 0 := by omega
      rw [hzero, List.take_zero, List.take_nil] at hread
      exact not_ok_of_empty_marker hread

def olderArtifact : FileTree :=
  ⟨[([0x62], .directory [(Utf8.encode versionFile, .file (Utf8.encode "1\n")),
      (Utf8.encode metadataFile, .file (Utf8.encode "\x7b\"format_version\":1\x7d"))])]⟩

/-- Over an older artifact: before its marker goes it is read as it was, and from then on nothing
is. -/
theorem read_interrupted_over_older :
    let w : Writer := {}
    let r : Reader := {}
    let t := olderArtifact
    let t₁ := (t.carryOut [.makeDirs "b", .discard (Path.join "b" versionFile)]).1
    let m : Metadata := { version := 2 }
    w.Leaves t "b" m t ∧ (r.read t.files "b").outcome = .ok { version := 1 } ∧
      Stopped t₁ (w.ending "b" m []) t₁ ∧
      ∀ (r : Reader) x, (r.read t₁.files "b").outcome ≠ .ok x := by
  intro w r t t₁ m
  have hleft : w.Leaves t "b" m t := .inl rfl
  have hr : (r.read t.files "b").outcome = .ok { version := 1 } := rfl
  have hs : Stopped t₁ (w.ending "b" m []) t₁ := .within (.before _)
  refine ⟨hleft, ?_, hs, (read_interrupted w t "b" m).2.2 t₁ t₁ 0 rfl rfl (by decide) hs⟩
  rcases (read_interrupted w t "b" m).2.1 t r { version := 1 } hleft hr with he | ⟨-, hsame⟩
  · exact absurd (congrArg Metadata.version he) (by decide)
  · exact hsame (.inl (by decide))

/-- Through `a/..` the artifact in `b` is reached only once the write has made `a`. A reader that
found nothing before then gets the older artifact, which is not the new one. -/
theorem read_interrupted_through_missing :
    let w : Writer := {}
    let r : Reader := {}
    let t := olderArtifact
    let t' := t.set [[0x61]] (some (.directory []))
    let m : Metadata := { version := 2 }
    let x : Metadata := { version := 1 }
    w.Leaves t "a/../b" m t' ∧ (r.read t'.files "a/../b").outcome = .ok x ∧
      ¬ ((∀ l, t'.content? l = t.content? l) ∧ (r.read t.files "a/../b").outcome = .ok x ∨
        x = m) := by
  intro w r t t' m x
  refine ⟨.inr ⟨rfl, .within (.makeDirs (.outer rfl (.outer rfl (.make rfl))))⟩, rfl, ?_⟩
  rintro (⟨-, hread⟩ | he)
  · have hfail : (r.read t.files "a/../b").outcome = .error (.storage "a/../b" .notFound) := rfl
    rw [hfail] at hread
    cases hread
  · exact absurd (congrArg Metadata.version he) (by decide)

end Precompiled.Artifact
