import Mathlib.Data.List.Find
import Precompiled.Proofs.Artifact.Acceptance
import Precompiled.Proofs.Load.Soundness

/-!
# Stricter options

Options that ask for more only refuse more: what a load gives under strict options it gives under
loose ones too. What loose options let through and strict ones do not is refused for a reason that
the strict options name, its version, its checksum or a field that nobody has declared.
-/

namespace Precompiled

open Artifact (Reader checksumFile metadataFile)
open Storage (Files Path)

-- ---------------------------------------------------------------------------
-- Reading
-- ---------------------------------------------------------------------------

namespace Artifact.Reader

structure Restricts (strict loose : Reader) : Prop where
  versions : ∀ version ∈ strict.versions, version ∈ loose.versions
  verify : loose.verify = true → strict.verify = true

/-- Why the strict reader refuses metadata that the loose one gives. -/
inductive Withholds (strict loose : Reader) (dir : Path) (m : Metadata) : Error → Prop
  | version : m.version ∉ strict.versions →
      Withholds strict loose dir m (.version (.unsupported m.version strict.versions))
  | unreachableChecksum {fault} : strict.verify = true → loose.verify = false →
      Withholds strict loose dir m (.storage (dir.join checksumFile) fault)
  | invalidChecksum {text} : strict.verify = true → loose.verify = false →
      Withholds strict loose dir m (.corrupt (dir.join checksumFile) (.invalidChecksum text))
  | checksumMismatch {expected actual} : strict.verify = true → loose.verify = false →
      Withholds strict loose dir m
        (.corrupt (dir.join metadataFile) (.checksumMismatch expected actual))

variable {strict loose : Reader} {files : Files} {dir : Path} {m : Metadata} {e : Error}

theorem Restricts.verified {content : Bytes} (h : strict.Restricts loose)
    (hv : strict.Verified files dir content) : loose.Verified files dir content := by
  rcases hv with hoff | hv
  · refine .inl (Bool.eq_false_iff.mpr fun hon => ?_)
    rw [h.verify hon] at hoff
    cases hoff
  · exact .inr hv

theorem Restricts.accepts (h : strict.Restricts loose) (ha : strict.Accepts files dir m) :
    loose.Accepts files dir m := by
  obtain ⟨hd, version, content, record, hs, hm, hc, hv, hrest⟩ := ha
  exact ⟨hd, version, content, record, hs, h.versions version hm, hc, h.verified hv, hrest⟩

/-- A failure that has nothing to do with versions or checksums is one of both readers, so only the
others are left. -/
theorem Accepts.withholds {s : Stage} (ha : loose.Accepts files dir m)
    (hf : strict.Fails files dir s e) : strict.Withholds loose dir m e := by
  have hnot := ha.not_fails
  have hoff (hf : loose.verify = true → loose.Fails files dir s e) : loose.verify = false :=
    Bool.eq_false_iff.mpr fun hon => hnot s e (hf hon)
  cases hf with
  | unreachable hk => exact absurd (.unreachable hk) (hnot _ _)
  | notADirectory hk => exact absurd (.notADirectory hk) (hnot _ _)
  | missingMarker ht => exact absurd (.missingMarker ht) (hnot _ _)
  | unreachableMarker ht hn => exact absurd (.unreachableMarker ht hn) (hnot _ _)
  | unreadableMarker ht hp => exact absurd (.unreadableMarker ht hp) (hnot _ _)
  | unsupported hs hn =>
    obtain ⟨-, hv, hs', -⟩ := sound_of_read (read_ok_iff.mpr ha)
    obtain rfl := hs.unique hs'
    exact .version hn
  | unreachableContent hc => exact absurd (.unreachableContent hc) (hnot _ _)
  | unreachableChecksum hv ht hn =>
    exact .unreachableChecksum hv (hoff fun hon => .unreachableChecksum hon ht hn)
  | invalidChecksum hv ht hp =>
    exact .invalidChecksum hv (hoff fun hon => .invalidChecksum hon ht hp)
  | checksumMismatch hv ht hp hc hne =>
    exact .checksumMismatch hv (hoff fun hon => .checksumMismatch hon ht hp hc hne)
  | malformed hc hp => exact absurd (.malformed hc hp) (hnot _ _)
  | disagreement hs hr hne => exact absurd (.disagreement hs hr hne) (hnot _ _)
  | descriptors hr hm => exact absurd (.descriptors hr hm) (hnot _ _)

theorem Restricts.read_ok (h : strict.Restricts loose)
    (hm : (strict.read files dir).outcome = .ok m) : (loose.read files dir).outcome = .ok m :=
  read_ok_iff.mpr (h.accepts (read_ok_iff.mp hm))

theorem withholds_of_read (hm : (loose.read files dir).outcome = .ok m)
    (he : (strict.read files dir).outcome = .error e) : strict.Withholds loose dir m e := by
  obtain ⟨s, hf, -⟩ := read_error_iff.mp he
  exact (read_ok_iff.mp hm).withholds hf

end Artifact.Reader

-- ---------------------------------------------------------------------------
-- Binding
-- ---------------------------------------------------------------------------

namespace Backend

variable {b : Backend} {strict loose : Bool} {m : Metadata} {e : BindError}

theorem not_admits_iff {f : Field} (h : b.Admits false f) (strict : Bool) :
    ¬ b.Admits strict f ↔ strict = true ∧ b.declared f.name = none := by
  cases hd : b.declared f.name with
  | some declared =>
    rw [admits_of_declared hd] at h ⊢
    simp [h]
  | none => simp [admits_of_undeclared hd]

theorem Admits.loosen {f : Field} (h : b.Admits strict f) (hl : loose = true → strict = true) :
    b.Admits loose f := by
  cases hd : b.declared f.name with
  | some declared =>
    rw [admits_of_declared hd] at h ⊢
    exact h
  | none =>
    rw [admits_of_undeclared hd] at h ⊢
    exact Bool.eq_false_iff.mpr fun hon => Bool.eq_false_iff.mp h (hl hon)

theorem Suits.loosen (h : b.Suits strict m) (hl : loose = true → strict = true) :
    b.Suits loose m :=
  ⟨h.target, h.kernels, fun f hf => (h.fields f hf).loosen hl⟩

theorem Suits.refuses (h : b.Suits loose m) (hr : b.Refuses strict m e) :
    strict = true ∧ loose = false ∧ ∃ f, m.fields.find? (fun f => (b.declared f.name).isNone) = some f ∧
      e = .fieldMismatch f none := by
  have hadmits (f : Field) (hf : f ∈ m.fields) : b.Admits false f := (h.fields f hf).loosen nofun
  cases hr with
  | target hw hg hne => exact absurd (h.target _ _ hw hg) hne
  | @kernel k _ hk =>
    have hmissing : ¬ b.Resolves k := by simpa using List.find?_some hk
    exact absurd (h.kernels k (List.mem_of_find?_eq_some hk)) hmissing
  | @field f _ _ hf =>
    have hmem := List.mem_of_find?_eq_some hf
    have hrefused : ¬ b.Admits strict f := by simpa using List.find?_some hf
    obtain ⟨hs, hd⟩ := (not_admits_iff (hadmits f hmem) strict).mp hrefused
    have hl : loose = false := (admits_of_undeclared hd).mp (h.fields f hmem)
    refine ⟨hs, hl, f, ?_, by rw [hd]⟩
    rw [← hf]
    refine List.find?_congr fun g hg => ?_
    rw [Bool.eq_iff_iff, Option.isNone_iff_eq_none, decide_eq_true_iff,
      not_admits_iff (hadmits g hg) strict, and_iff_right hs]

end Backend

namespace Registry

variable {r : Registry Backend} {id : BackendId} {o o' : LoadOptions} {m : Metadata}
  {module : Module} {e : BindError}

theorem bind_ok_of_loose (h : (r.bind id o m).outcome = .ok module)
    (hl : o'.requireDeclared = true → o.requireDeclared = true) :
    (r.bind id o' m).outcome = .ok module := by
  obtain ⟨b, hb, hsuits, hbinds⟩ := bind_ok_iff.mp h
  exact bind_ok_iff.mpr ⟨b, hb, hsuits.loosen hl, hbinds⟩

theorem undeclared_of_bind (h : (r.bind id o' m).outcome = .ok module)
    (he : (r.bind id o m).outcome = .error e) :
    o.requireDeclared = true ∧ o'.requireDeclared = false ∧ ∃ b f, r.get? id = some b ∧
      m.fields.find? (fun f => (b.declared f.name).isNone) = some f ∧ e = .fieldMismatch f none := by
  obtain ⟨b, hb, hsuits, -⟩ := bind_ok_iff.mp h
  cases bind_error_iff.mp he with
  | unavailable hn => cases hn.symm.trans hb
  | @backend b' _ hb' hr =>
    obtain rfl := Option.some.inj (hb.symm.trans hb')
    obtain ⟨hs, hl, f, hf, he⟩ := hsuits.refuses hr
    exact ⟨hs, hl, b, f, hb, hf, he⟩

end Registry

-- ---------------------------------------------------------------------------
-- Loading
-- ---------------------------------------------------------------------------

namespace LoadOptions

structure Restricts (strict loose : LoadOptions) : Prop where
  reader : strict.reader.Restricts loose.reader
  requireDeclared : loose.requireDeclared = true → strict.requireDeclared = true

/-- Why a load under the strict options refuses metadata that is loaded under the loose ones. -/
inductive Withholds (strict loose : LoadOptions) (r : Registry Backend) (path : Path)
    (id : BackendId) (m : Metadata) : LoadError → Prop
  | reading {e} : strict.reader.Withholds loose.reader path m e →
      Withholds strict loose r path id m (.artifact e)
  | undeclared {b f} : strict.requireDeclared = true → loose.requireDeclared = false →
      r.get? id = some b → m.fields.find? (fun f => (b.declared f.name).isNone) = some f →
      Withholds strict loose r path id m (.bind (.fieldMismatch f none))

end LoadOptions

/-- What is loaded under strict options is loaded under looser ones, and is the same module. What
is loaded under the looser ones only is refused by the strict ones for its version, at its checksum,
or for the first field that the backend has not declared. Readers restrict in the same way, also
those whose range of versions is empty. -/
theorem load_restricted (files : Files) (r : Registry Backend) (path : Path) (id : BackendId)
    {strict loose : LoadOptions} (h : strict.Restricts loose) (hs : strict.check = .ok ())
    (hl : loose.check = .ok ()) :
    (∀ module, (load files r strict path id).outcome = .ok module →
      (load files r loose path id).outcome = .ok module) ∧
    (∀ module e, (load files r loose path id).outcome = .ok module →
      (load files r strict path id).outcome = .error e →
      strict.Withholds loose r path id module.metadata e ∧
        ∀ f, e = .bind (.fieldMismatch f none) →
          e.message = s!"field `{f.name}`: module declares {f.layout}, " ++
            "backend has no declaration") ∧
    (∀ strict loose : Reader, strict.Restricts loose →
      (∀ m, (strict.read files path).outcome = .ok m →
        (loose.read files path).outcome = .ok m) ∧
      ∀ m e, (loose.read files path).outcome = .ok m →
        (strict.read files path).outcome = .error e → strict.Withholds loose path m e) := by
  refine ⟨fun module hmodule => ?_, fun module e hmodule he => ⟨?_, ?_⟩, fun strict loose h => ?_⟩
  · obtain ⟨-, m, hread, hbind⟩ := load_ok_iff.mp hmodule
    exact load_ok_iff.mpr ⟨hl, m, h.reader.read_ok hread,
      Registry.bind_ok_of_loose hbind h.requireDeclared⟩
  · obtain ⟨-, m, hread, hbind⟩ := load_ok_iff.mp hmodule
    obtain ⟨b, hb, -, hbinds⟩ := Registry.bind_ok_iff.mp hbind
    rw [hbinds.metadata]
    cases hstrict : (strict.reader.read files path).outcome with
    | error e' =>
      rw [load_error_of_read hs hstrict, Except.error.injEq] at he
      subst he
      exact .reading (Reader.withholds_of_read hread hstrict)
    | ok m' =>
      have hsame := h.reader.read_ok hstrict
      rw [hread, Except.ok.injEq] at hsame
      subst hsame
      rw [outcome_load_of_read hs hstrict, mapError_error] at he
      obtain ⟨e', he, rfl⟩ := he
      obtain ⟨hon, hoff, b', f, hb', hf, rfl⟩ := Registry.undeclared_of_bind hbind he
      exact .undeclared hon hoff hb' hf
  · rintro f rfl
    rfl
  · exact ⟨fun m => h.read_ok, fun m e => Reader.withholds_of_read⟩

def Registry.ofUndeclared : Registry Backend :=
  { slots := [⟨0, some { Registry.adder with declared := fun _ => none }⟩] }

/-- A field that nobody has declared is loaded under a narrow range of versions as under a wide one,
and not where declarations are asked for. -/
theorem load_restricted_of_undeclared :
    let files := looseTree.files
    let r := Registry.ofUndeclared
    let id : BackendId := ⟨0, 0⟩
    let narrow : LoadOptions := { versions := ⟨2, 3⟩ }
    let demanding : LoadOptions := { requireDeclared := true }
    narrow.Restricts {} ∧ demanding.Restricts {} ∧
      ∃ module, (load files r narrow "art" id).outcome = .ok module ∧
        (load files r {} "art" id).outcome = .ok module ∧
        ∃ e, (load files r demanding "art" id).outcome = .error e ∧
          demanding.Withholds {} r "art" id module.metadata e := by
  intro files r id narrow demanding
  have hwithin (version : UInt32) (h : version ∈ narrow.reader.versions) :
      version ∈ ({} : Reader).versions :=
    ⟨UInt32.le_trans (by decide) h.1, UInt32.le_trans h.2 (by decide)⟩
  have hnarrow : narrow.Restricts {} := ⟨⟨hwithin, fun h => h⟩, fun h => h⟩
  have hdemanding : demanding.Restricts {} := ⟨⟨fun _ h => h, fun h => h⟩, nofun⟩
  let b : Backend := { Registry.adder with declared := fun _ => none }
  have hb : r.get? id = some b := rfl
  have hsuits : b.Suits false .adder := ⟨nofun, by decide, by decide⟩
  obtain ⟨module, hbind⟩ := Registry.exists_bind (o := narrow).mpr ⟨b, hb, hsuits⟩
  have hmodule : (load files r narrow "art" id).outcome = .ok module :=
    load_ok_iff.mpr ⟨rfl, .adder, read_looseTree (by decide), hbind⟩
  have hloose := (load_restricted files r "art" id hnarrow rfl rfl).1 module hmodule
  have hrefused : (load files r demanding "art" id).outcome =
      .error (.bind (.fieldMismatch { name := "x", type := .f32, shape := [4] } none)) := by
    rw [outcome_load_of_read (o := demanding) rfl (read_looseTree (by decide)), mapError_error]
    exact ⟨_, Registry.bind_error_iff.mpr
      (.backend hb (.field (f := { name := "x", type := .f32, shape := [4] }) nofun
        (by decide) (by decide))), rfl⟩
  exact ⟨hnarrow, hdemanding, module, hmodule, hloose, _, hrefused,
    ((load_restricted files r "art" id hdemanding rfl rfl).2.1 module _ hloose hrefused).1⟩

end Precompiled
