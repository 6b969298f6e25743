import Precompiled.Proofs.Attempt
import Precompiled.Proofs.Storage.Tree
import Precompiled.Storage.Effect

/-!
# Entries of a directory

What the path of an entry names is what stands under its name in the place where the directory's
path leads. So storing or taking away one entry shows at that entry, and every other entry of the
directory reads as before.
-/

namespace Precompiled.Storage

namespace FileTree

open Storage.Path (Plain)

variable {t t' : FileTree} {dir : Path} {place : Location} {name : String}

/-- The path leads to a directory. Its place is given with the innermost name first. -/
structure Leads (t : FileTree) (dir : Path) (place : Location) : Prop where
  walk : t.walk [] dir.names = .ok place
  directory : t.at? place.reverse = some .directory

def entry (place : Location) (name : String) : Location := place.reverse ++ [Utf8.encode name]

theorem Leads.unique {place' : Location} (h : t.Leads dir place) (h' : t.Leads dir place') :
    place = place' := by
  have hw := h.walk
  rwa [h'.walk, Except.ok.injEq, eq_comm] at hw

def SameDirectories (t t' : FileTree) : Prop :=
  ∀ l, t'.at? l = some .directory ↔ t.at? l = some .directory

theorem Leads.mono (h : t.Leads dir place)
    (hmono : ∀ l, t.at? l = some .directory → t'.at? l = some .directory) : t'.Leads dir place :=
  ⟨walk_mono hmono h.walk h.directory, hmono _ h.directory⟩

theorem Leads.congr (hd : t.SameDirectories t') :
    t'.Leads dir place ↔ t.Leads dir place := by
  constructor
  · intro h
    exact h.mono fun l => (hd l).mp
  · intro h
    exact h.mono fun l => (hd l).mpr

-- ---------------------------------------------------------------------------
-- What a path names
-- ---------------------------------------------------------------------------

theorem Leads.kind (h : t.Leads dir place) :
    t.kind dir = (checkPath dir).map fun _ => .directory := by
  rw [FileTree.kind, node]
  cases hc : checkPath dir with
  | error fault => rfl
  | ok u =>
    obtain ⟨entries, hf⟩ := find?_of_directory h.directory
    simp [h.walk, hf, bind, Except.bind, Node.isDirectory, pure, Except.pure, Except.map]

theorem kind_eq_directory :
    t.kind dir = .ok .directory ↔ checkPath dir = .ok () ∧ ∃ place, t.Leads dir place := by
  constructor
  · intro h
    rw [FileTree.kind] at h
    cases hn : t.node dir with
    | error fault => simp [hn, Except.map] at h
    | ok n =>
      have hdir : n.face = .directory := by
        cases n with
        | file content => simp [hn, Except.map, Node.isDirectory] at h
        | directory entries => rfl
      obtain ⟨⟨⟩, hc, hn⟩ := bind_ok.mp hn
      obtain ⟨place, hw, hn⟩ := bind_ok.mp hn
      refine ⟨hc, place, hw, ?_⟩
      split at hn
      · cases hn
      · rename_i hf
        split at hn
        · cases hn
        · cases hn
          rw [at?_of_find? hf, hdir]
  · rintro ⟨hc, place, h⟩
    rw [h.kind, hc]
    rfl

theorem Leads.node_join (h : t.Leads dir place) (hp : Plain (Utf8.encode name))
    (hc : checkPath (dir.join name) = .ok ()) :
    t.node (dir.join name) =
      match t.find? (entry place name) with
      | some n => .ok n
      | none => .error .notFound := by
  have hwalk : t.walk [] (dir.join name).names =
      if (t.at? (entry place name)).isSome then .ok (Utf8.encode name :: place)
      else .error .notFound := by
    rw [Path.names_join dir hp, walk_append, h.walk]
    simp only [bind, Except.bind, walk_cons, h.directory, hp.ne_here, hp.ne_up, if_false,
      Nat.not_lt.mpr hp.short, walk_nil, entry]
    rfl
  rw [node, hc, hwalk]
  cases hf : t.find? (entry place name) with
  | none => simp [find?_eq_none.mp hf, bind, Except.bind]
  | some n =>
    rw [entry] at hf
    simp [entry, at?_of_find? hf, hf, bind, Except.bind, Path.trailing_join dir hp, pure,
      Except.pure]

theorem Leads.read_join (h : t.Leads dir place) (hp : Plain (Utf8.encode name))
    (hc : checkPath (dir.join name) = .ok ()) :
    t.read (dir.join name) =
      match t.at? (entry place name) with
      | some (.file content) => .ok content
      | some .directory => .error .isADirectory
      | none => .error .notFound := by
  rw [FileTree.read, h.node_join hp hc]
  cases hf : t.find? (entry place name) with
  | none => simp [find?_eq_none.mp hf, bind, Except.bind]
  | some n =>
    rw [at?_of_find? hf]
    cases n <;> rfl

theorem Leads.holds_join (h : t.Leads dir place) (hp : Plain (Utf8.encode name))
    (hc : checkPath (dir.join name) = .ok ()) :
    t.holds (dir.join name) = (t.at? (entry place name)).isSome := by
  rw [holds, h.node_join hp hc]
  cases hf : t.find? (entry place name) with
  | none => simp [find?_eq_none.mp hf, Except.isOk, Except.toBool]
  | some n => simp [at?_of_find? hf, Except.isOk, Except.toBool]

theorem read_of_checkPath {p : Path} {fault : Fault} (h : checkPath p = .error fault) :
    t.read p = .error fault := by
  simp [FileTree.read, node, h, bind, Except.bind]

theorem holds_of_checkPath {p : Path} {fault : Fault} (h : checkPath p = .error fault) :
    t.holds p = false := by
  simp [holds, node, h, bind, Except.bind, Except.isOk, Except.toBool]

theorem checkPath_of_read {p : Path} {content : Bytes} (h : t.read p = .ok content) :
    checkPath p = .ok () := by
  cases hc : checkPath p with
  | error fault => rw [read_of_checkPath hc] at h; cases h
  | ok u => rfl

/-- An entry that is not there is not found, beside one whose path can be walked, unless its own
path is too long for that. -/
theorem Leads.read_absent {other : String} (h : t.Leads dir place) (hp : Plain (Utf8.encode name))
    (ho : Plain (Utf8.encode other)) (hc : checkPath (dir.join name) = .ok ())
    (hnone : checkPath (dir.join other) = .ok () → t.at? (entry place other) = none) :
    t.read (dir.join other) =
      if (dir.join other).bytes.length ≤ Path.lengthLimit then .error .notFound
      else .error .nameTooLong := by
  have hc' := checkPath_of_sibling hp ho hc
  split
  · rw [if_pos ‹_›] at hc'
    rw [h.read_join ho hc', hnone hc']
  · rw [if_neg ‹_›] at hc'
    exact read_of_checkPath hc'

theorem Leads.at?_of_read {content : Bytes} (h : t.Leads dir place)
    (hp : Plain (Utf8.encode name)) (hr : t.read (dir.join name) = .ok content) :
    t.at? (entry place name) = some (.file content) := by
  rw [h.read_join hp (checkPath_of_read hr)] at hr
  split at hr
  · cases hr; assumption
  · cases hr
  · cases hr

theorem Leads.free_of_read (h : t.Leads dir place) (hp : Plain (Utf8.encode name))
    (hc : checkPath (dir.join name) = .ok ())
    (hr : t.read (dir.join name) ≠ .error .isADirectory) :
    t.at? (entry place name) ≠ some .directory := by
  intro hdir
  rw [h.read_join hp hc, hdir] at hr
  exact hr rfl

theorem Leads.site_join (h : t.Leads dir place) (hp : Plain (Utf8.encode name))
    (hc : checkPath (dir.join name) = .ok ()) :
    t.site (dir.join name) = .ok (place, some (Utf8.encode name)) := by
  obtain ⟨entries, hf⟩ := find?_of_directory h.directory
  simp [site, hc, Path.names_join dir hp, h.walk, hf, hp.ne_here, hp.ne_up,
    Nat.not_lt.mpr hp.short, bind, Except.bind, pure, Except.pure]

theorem site_join {site : Location × Option Name} (hp : Plain (Utf8.encode name))
    (h : t.site (dir.join name) = .ok site) :
    checkPath (dir.join name) = .ok () ∧ t.Leads dir site.1 ∧ site.2 = some (Utf8.encode name) := by
  obtain ⟨⟨⟩, hc, h⟩ := bind_ok.mp h
  obtain ⟨place, hw, h⟩ := bind_ok.mp h
  rw [Path.names_join dir hp, List.dropLast_concat] at hw
  simp only [Path.names_join dir hp, List.getLast?_append, List.getLast?_singleton,
    Option.some_or, hp.ne_here, hp.ne_up, or_self, if_false, Nat.not_lt.mpr hp.short] at h
  split at h
  · rename_i entries hf
    cases h
    exact ⟨hc, ⟨hw, at?_of_find? hf⟩, rfl⟩
  · cases h
  · cases h

-- ---------------------------------------------------------------------------
-- Changes of an entry
-- ---------------------------------------------------------------------------

/-- What stands at one location is another thing now, and everything else is as it was. No
directory comes or goes. -/
structure Replaces (t t' : FileTree) (l : Location) (now : Option Face) : Prop where
  was : t.at? l ≠ some .directory
  is : now ≠ some .directory
  at? : ∀ k, t'.at? k = if k = l then now else t.at? k

theorem replaces_set {now : Option Node} (hl : t.Leads dir place)
    (hwas : t.at? (entry place name) ≠ some .directory)
    (hnow : ∀ n ∈ now, n.face ≠ .directory) :
    t.Replaces (t.set (entry place name) now) (entry place name) (now.map Node.face) := by
  refine ⟨hwas, fun h => ?_, at?_set hl.directory hwas fun below next => ?_⟩
  · obtain ⟨n, hn, hface⟩ := Option.map_eq_some_iff.mp h
    exact hnow n hn hface
  · cases now with
    | none => rfl
    | some n => exact Node.at?_cons_of_ne_directory (hnow n rfl) below next

theorem store_join {content : Bytes} (hp : Plain (Utf8.encode name))
    (h : t.store (dir.join name) content = .ok t') :
    checkPath (dir.join name) = .ok () ∧ ∃ place, t.Leads dir place ∧
      t.Replaces t' (entry place name) (some (.file content)) := by
  obtain ⟨⟨place, last⟩, hs, h⟩ := bind_ok.mp h
  obtain ⟨hc, hl, hlast⟩ := site_join hp hs
  simp only at hl hlast
  subst hlast
  have hloc : (Utf8.encode name :: place).reverse = entry place name := List.reverse_cons
  have hset (hwas : t.at? (entry place name) ≠ some .directory) :
      t.Replaces (t.set (entry place name) (some (.file content))) (entry place name)
        (some (.file content)) := replaces_set hl hwas (by simp [Node.face])
  refine ⟨hc, place, hl, ?_⟩
  simp only [hloc, Path.trailing_join dir hp, Bool.false_eq_true, if_false] at h
  split at h
  · cases h
  · rename_i hf
    cases h
    exact hset (by simp [at?_of_find? hf, Node.face])
  · rename_i hf
    cases h
    exact hset (by simp [find?_eq_none.mp hf])

theorem removeFile_join (hp : Plain (Utf8.encode name))
    (h : t.removeFile (dir.join name) = .ok t') :
    checkPath (dir.join name) = .ok () ∧ ∃ place, t.Leads dir place ∧
      t.Replaces t' (entry place name) none := by
  obtain ⟨⟨place, last⟩, hs, h⟩ := bind_ok.mp h
  obtain ⟨hc, hl, hlast⟩ := site_join hp hs
  simp only at hl hlast
  subst hlast
  have hloc : (Utf8.encode name :: place).reverse = entry place name := List.reverse_cons
  refine ⟨hc, place, hl, ?_⟩
  simp only [hloc, Path.trailing_join dir hp, Bool.false_eq_true, if_false] at h
  split at h
  · cases h
  · rename_i hf
    cases h
    exact replaces_set hl (by simp [at?_of_find? hf, Node.face]) (by simp)
  · cases h

variable {l : Location} {now : Option Face}

theorem Replaces.sameDirectories (h : t.Replaces t' l now) : t.SameDirectories t' := by
  intro k
  rw [h.at? k]
  split
  · subst k
    exact iff_of_false h.is h.was
  · rfl

theorem Replaces.leads (h : t.Replaces t' l now) : t'.Leads dir place ↔ t.Leads dir place :=
  Leads.congr h.sameDirectories

/-- Two trees look the same to whoever asks for the directory and for its entries, one of them
apart. -/
structure SameBut (t t' : FileTree) (dir : Path) (name : String) : Prop where
  kind : t'.kind dir = t.kind dir
  read : ∀ other, Plain (Utf8.encode other) → Utf8.encode other ≠ Utf8.encode name →
    t'.read (dir.join other) = t.read (dir.join other)

theorem SameBut.refl (t : FileTree) (dir : Path) (name : String) : t.SameBut t dir name :=
  ⟨rfl, fun _ _ _ => rfl⟩

theorem Replaces.sameBut (hl : t.Leads dir place)
    (h : t.Replaces t' (entry place name) now) : t.SameBut t' dir name := by
  have hl' : t'.Leads dir place := h.leads.mpr hl
  refine ⟨by rw [hl'.kind, hl.kind], fun other hp hne => ?_⟩
  cases hc : checkPath (dir.join other) with
  | error fault => rw [read_of_checkPath hc, read_of_checkPath hc]
  | ok u =>
    have hother : entry place other ≠ entry place name := fun he =>
      hne (List.singleton_inj.mp (List.append_cancel_left he))
    rw [hl'.read_join hp hc, hl.read_join hp hc, h.at?, if_neg hother]

theorem removeFile_sameBut (hp : Plain (Utf8.encode name))
    (h : t.removeFile (dir.join name) = .ok t') : t.SameBut t' dir name := by
  obtain ⟨-, place, hl, hr⟩ := removeFile_join hp h
  exact hr.sameBut hl

theorem store_sameBut {content : Bytes} (hp : Plain (Utf8.encode name))
    (h : t.store (dir.join name) content = .ok t') : t.SameBut t' dir name := by
  obtain ⟨-, place, hl, hr⟩ := store_join hp h
  exact hr.sameBut hl

theorem read_store {content : Bytes} (hp : Plain (Utf8.encode name))
    (h : t.store (dir.join name) content = .ok t') : t'.read (dir.join name) = .ok content := by
  obtain ⟨hc, place, hl, hr⟩ := store_join hp h
  rw [(hr.leads.mpr hl).read_join hp hc, hr.at?, if_pos rfl]

theorem read_removeFile (hp : Plain (Utf8.encode name))
    (h : t.removeFile (dir.join name) = .ok t') :
    t'.read (dir.join name) = .error .notFound := by
  obtain ⟨hc, place, hl, hr⟩ := removeFile_join hp h
  rw [(hr.leads.mpr hl).read_join hp hc, hr.at?, if_pos rfl]

theorem kind_store {content : Bytes} (hp : Plain (Utf8.encode name)) (hd : dir.bytes ≠ [])
    (h : t.store (dir.join name) content = .ok t') : t'.kind dir = .ok .directory := by
  obtain ⟨hc, place, hl, hr⟩ := store_join hp h
  exact kind_eq_directory.mpr ⟨checkPath_of_join hp hd hc, place, hr.leads.mpr hl⟩

theorem apply_store {p : Path} {content : Bytes} :
    t.apply (.store p content) = (t', none) ↔ t.store p content = .ok t' := by
  rw [apply]
  cases t.store p content <;> simp [after]

theorem carryOut_cons {e : Effect} {rest : List Effect} :
    t.carryOut (e :: rest) = (t', none) ↔
      ∃ t₁, t.apply e = (t₁, none) ∧ t₁.carryOut rest = (t', none) := by
  rw [carryOut]
  split
  · rename_i t₁ h
    simp [h]
  · rename_i t₁ fault h
    simp [h]

theorem discard_sameBut (hp : Plain (Utf8.encode name))
    (h : t.apply (.discard (dir.join name)) = (t', none)) :
    t.SameBut t' dir name ∧ t'.holds (dir.join name) = false := by
  rw [apply] at h
  split at h
  · cases hr : t.removeFile (dir.join name) with
    | error fault => simp [hr, after] at h
    | ok changed =>
      simp only [hr, after, Prod.mk.injEq, and_true] at h
      subst h
      obtain ⟨hc, place, hl, hr⟩ := removeFile_join hp hr
      refine ⟨hr.sameBut hl, ?_⟩
      rw [(hr.leads.mpr hl).holds_join hp hc, hr.at?, if_pos rfl]
      rfl
  · rename_i hheld
    simp only [Prod.mk.injEq, and_true] at h
    subst h
    exact ⟨.refl t dir name, by simpa using hheld⟩

theorem Leads.exists_store (hl : t.Leads dir place) (hp : Plain (Utf8.encode name))
    (hc : checkPath (dir.join name) = .ok ())
    (hfree : t.at? (entry place name) ≠ some .directory) (content : Bytes) :
    ∃ t', t.store (dir.join name) content = .ok t' ∧ t.SameDirectories t' := by
  suffices h : ∃ t', t.store (dir.join name) content = .ok t' by
    obtain ⟨t', h⟩ := h
    obtain ⟨-, _, -, hr⟩ := store_join hp h
    exact ⟨t', h, hr.sameDirectories⟩
  have hloc : (Utf8.encode name :: place).reverse = entry place name := List.reverse_cons
  rw [store, hl.site_join hp hc]
  simp only [bind, Except.bind, hloc, Path.trailing_join dir hp, Bool.false_eq_true, if_false]
  cases hf : t.find? (entry place name) with
  | none => exact ⟨_, rfl⟩
  | some n =>
    cases n with
    | file old => exact ⟨_, rfl⟩
    | directory entries => exact absurd (at?_of_find? hf) hfree

theorem Leads.exists_removeFile {old : Bytes} (hl : t.Leads dir place)
    (hp : Plain (Utf8.encode name)) (hc : checkPath (dir.join name) = .ok ())
    (hfile : t.at? (entry place name) = some (.file old)) :
    ∃ t', t.removeFile (dir.join name) = .ok t' ∧ t.SameDirectories t' := by
  suffices h : ∃ t', t.removeFile (dir.join name) = .ok t' by
    obtain ⟨t', h⟩ := h
    obtain ⟨-, _, -, hr⟩ := removeFile_join hp h
    exact ⟨t', h, hr.sameDirectories⟩
  have hloc : (Utf8.encode name :: place).reverse = entry place name := List.reverse_cons
  rw [removeFile, hl.site_join hp hc]
  simp only [bind, Except.bind, hloc, Path.trailing_join dir hp, Bool.false_eq_true, if_false]
  cases hf : t.find? (entry place name) with
  | none => rw [find?_eq_none.mp hf] at hfile; cases hfile
  | some n =>
    cases n with
    | file old => exact ⟨_, rfl⟩
    | directory entries => rw [at?_of_find? hf] at hfile; cases hfile

theorem Leads.exists_discard (hl : t.Leads dir place) (hp : Plain (Utf8.encode name))
    (hfree : checkPath (dir.join name) = .ok () → t.at? (entry place name) ≠ some .directory) :
    ∃ t', t.apply (.discard (dir.join name)) = (t', none) ∧ t.SameDirectories t' := by
  rw [apply]
  split
  · rename_i hheld
    cases hc : checkPath (dir.join name) with
    | error fault => simp [holds_of_checkPath hc] at hheld
    | ok u =>
      rw [hl.holds_join hp hc, Option.isSome_iff_exists] at hheld
      obtain ⟨face, hface⟩ := hheld
      cases face with
      | directory => exact absurd hface (hfree hc)
      | file old =>
        obtain ⟨t', hr, hsame⟩ := hl.exists_removeFile hp hc hface
        exact ⟨t', by simp [hr, after], hsame⟩
  · exact ⟨t, rfl, fun _ => .rfl⟩

theorem discard_free (hp : Plain (Utf8.encode name))
    (h : t.apply (.discard (dir.join name)) = (t', none)) :
    t.SameDirectories t' ∧ ∀ place, t.Leads dir place → checkPath (dir.join name) = .ok () →
      t.at? (entry place name) ≠ some .directory := by
  rw [apply] at h
  split at h
  · cases hr : t.removeFile (dir.join name) with
    | error fault => simp [hr, after] at h
    | ok changed =>
      simp only [hr, after, Prod.mk.injEq, and_true] at h
      subst h
      obtain ⟨hc, place, hl, hr⟩ := removeFile_join hp hr
      refine ⟨hr.sameDirectories, fun place' hl' _ => ?_⟩
      rw [hl'.unique hl]
      exact hr.was
  · rename_i hheld
    simp only [Prod.mk.injEq, and_true] at h
    subst h
    refine ⟨fun _ => .rfl, fun place hl hc hdir => hheld ?_⟩
    rw [hl.holds_join hp hc, hdir]
    rfl

theorem read_of_not_holds {p : Path} (h : t.holds p = false) (content : Bytes) :
    t.read p ≠ .ok content := by
  intro hr
  obtain ⟨n, hn, -⟩ := bind_ok.mp hr
  simp [holds, hn, Except.isOk, Except.toBool] at h

end FileTree
end Precompiled.Storage
