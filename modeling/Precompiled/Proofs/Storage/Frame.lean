import Precompiled.Proofs.Storage.Stops

/-!
# What a plan changes

A plan that makes a directory and then stores and takes away entries of it changes nothing else,
wherever it stops. One effect keeps to the entries (`Stop.edits`), and so does a run of them
(`Stopped.edits`); with the directories made before them it is `Confined`.
-/

namespace Precompiled.Storage

inductive Effect.Within (dir : Path) (names : List String) : Effect → Prop
  | discard {name} : name ∈ names → Path.Plain (Utf8.encode name) →
      Within dir names (.discard (dir.join name))
  | store {name content} : name ∈ names → Path.Plain (Utf8.encode name) →
      Within dir names (.store (dir.join name) content)

namespace FileTree

variable {t t₁ t' : FileTree} {dir p : Path} {ps : List Path} {name : String} {names : List String}
  {place l : Location}

-- ---------------------------------------------------------------------------
-- Directories on the way
-- ---------------------------------------------------------------------------

/-- Where one of the paths leads there is a directory now, and there was nothing before. -/
structure Made (t t' : FileTree) (ps : List Path) (l : Location) : Prop where
  was : t.at? l = none
  is : t'.at? l = some .directory
  path : ∃ p ∈ ps, t'.Leads p l.reverse

theorem Made.subset {qs : List Path} (h : t.Made t' ps l) (hs : ps ⊆ qs) : t.Made t' qs l := by
  obtain ⟨q, hq, hl⟩ := h.path
  exact ⟨h.was, h.is, q, hs hq, hl⟩

theorem Made.mono (h : t.Made t₁ ps l)
    (hmono : ∀ k, t₁.at? k = some .directory → t'.at? k = some .directory) : t.Made t' ps l := by
  obtain ⟨q, hq, hl⟩ := h.path
  exact ⟨h.was, hmono l h.is, q, hq, hl.mono hmono⟩

theorem leads_makeDir {outer : Location} {last : Name} (h : t.site p = .ok (outer, some last))
    (hg : t.Grows t') (hd : t'.at? (outer.reverse ++ [last]) = some .directory) :
    t'.Leads p (last :: outer) := by
  obtain ⟨init, hnames, hw, hdots, hshort⟩ := site_some h
  have houter : t.at? outer.reverse = some .directory := site_directory h
  refine ⟨?_, by rwa [List.reverse_cons]⟩
  rw [hnames, walk_append, walk_mono hg.directory hw houter]
  simp only [bind, Except.bind, walk_cons, hg.directory _ houter, walk_nil]
  rw [if_neg hdots.1, if_neg hdots.2, if_neg hshort, if_pos (by rw [hd]; rfl)]

theorem made_makeDir (h : t.makeDir p = .ok t') (l : Location) :
    t'.at? l = t.at? l ∨ t.Made t' [p] l := by
  obtain ⟨outer, last, hs, hfree, hat⟩ := makeDir_at? h
  have hnew : t'.at? (outer.reverse ++ [last]) = some .directory := by rw [hat, if_pos rfl]
  by_cases hl : l = outer.reverse ++ [last]
  · subst hl
    have hleads := leads_makeDir hs (grows_makeDir h) hnew
    exact .inr ⟨hfree, hnew, p, List.mem_singleton_self p, by simpa using hleads⟩
  · exact .inl (by rw [hat, if_neg hl])

theorem Makes.made (h : Makes t ps t') (l : Location) : t'.at? l = t.at? l ∨ t.Made t' ps l := by
  induction ps generalizing t t' with
  | nil => cases h with | before => exact .inl rfl
  | cons p rest ih =>
    have hp : [p] ⊆ p :: rest := List.cons_subset_cons p (List.nil_subset rest)
    have hrest : rest ⊆ p :: rest := List.subset_cons_self p rest
    cases h with
    | before => exact .inl rfl
    | make h => exact (made_makeDir h l).imp_right (·.subset hp)
    | outer _ h => exact (ih h).imp_right (·.subset hrest)
    | again _ ho h =>
      have hfirst := makes_makeDirsAlong t rest
      rw [ho] at hfirst
      rcases made_makeDir h l with hsame | hnew
      · rw [hsame]
        exact (ih hfirst).imp_right fun hmade =>
          (hmade.mono (grows_makeDir h).directory).subset hrest
      · rcases ih hfirst with hsame | hmade
        · exact .inr ⟨hsame ▸ hnew.was, hnew.is, (hnew.subset hp).path⟩
        · cases hnew.was.symm.trans hmade.is

theorem makes_of_apply {stopped : Option Fault} (h : t.apply (.makeDirs dir) = (t', stopped)) :
    Makes t dir.ancestors t' := by
  have hmakes := makes_makeDirsAlong t dir.ancestors
  have hdone : t.makeDirsAlong dir.ancestors = (t', stopped) := h
  rwa [hdone] at hmakes

-- ---------------------------------------------------------------------------
-- Entries
-- ---------------------------------------------------------------------------

/-- Nothing but some entries of a directory has changed, and no directory has come or gone. -/
structure Edits (t t' : FileTree) (dir : Path) (names : List String) : Prop where
  directories : t.SameDirectories t'
  elsewhere : ∀ l, t'.at? l = t.at? l ∨
    ∃ name ∈ names, ∃ place, t.Leads dir place ∧ l = entry place name

theorem Edits.refl (t : FileTree) (dir : Path) (names : List String) : t.Edits t dir names :=
  ⟨fun _ => .rfl, fun _ => .inl rfl⟩

theorem Edits.trans (h : t.Edits t₁ dir names) (h' : t₁.Edits t' dir names) :
    t.Edits t' dir names := by
  refine ⟨fun l => (h'.directories l).trans (h.directories l), fun l => ?_⟩
  rcases h'.elsewhere l with hsame | ⟨name, hn, place, hl, he⟩
  · rw [hsame]
    exact h.elsewhere l
  · exact .inr ⟨name, hn, place, (Leads.congr h.directories).mp hl, he⟩

theorem Replaces.edits {now : Option Face} (hl : t.Leads dir place) (hn : name ∈ names)
    (h : t.Replaces t' (entry place name) now) : t.Edits t' dir names := by
  refine ⟨h.sameDirectories, fun l => ?_⟩
  by_cases he : l = entry place name
  · exact .inr ⟨name, hn, place, hl, he⟩
  · exact .inl (by rw [h.at?, if_neg he])

theorem store_edits {content : Bytes} (hn : name ∈ names) (hp : Path.Plain (Utf8.encode name))
    (h : t.store (dir.join name) content = .ok t') : t.Edits t' dir names := by
  obtain ⟨-, place, hl, hr⟩ := store_join hp h
  exact hr.edits hl hn

theorem Stop.edits {e : Effect} (he : e.Within dir names) (h : Stop t e t') :
    t.Edits t' dir names := by
  cases he with
  | discard hn hp =>
    cases h with
    | before => exact .refl t dir names
    | discard h =>
      obtain ⟨-, place, hl, hr⟩ := removeFile_join hp h
      exact hr.edits hl hn
  | store hn hp =>
    cases h with
    | before => exact .refl t dir names
    | store k h => exact store_edits hn hp h

theorem apply_edits {e : Effect} {stopped : Option Fault} (he : e.Within dir names)
    (h : t.apply e = (t', stopped)) : t.Edits t' dir names := by
  have hstop := stop_apply t e
  rw [h] at hstop
  exact hstop.edits he

theorem Stopped.edits {plan : List Effect} (hplan : ∀ e ∈ plan, e.Within dir names)
    (h : Stopped t plan t') : t.Edits t' dir names := by
  induction h with
  | done => exact .refl _ dir names
  | within hstop =>
    rw [List.forall_mem_cons] at hplan
    exact hstop.edits hplan.1
  | later happly _ ih =>
    rw [List.forall_mem_cons] at hplan
    exact (apply_edits hplan.1 happly).trans (ih hplan.2)

theorem Edits.at?_of_ne (h : t.Edits t' dir names) (hl : t.Leads dir place)
    (hne : ∀ other ∈ names, Utf8.encode other ≠ Utf8.encode name) :
    t'.at? (entry place name) = t.at? (entry place name) := by
  rcases h.elsewhere (entry place name) with hsame | ⟨other, hn, place', hl', he⟩
  · exact hsame
  · obtain rfl := hl.unique hl'
    have hnames := List.singleton_inj.mp (List.append_cancel_left he)
    exact absurd hnames.symm (hne other hn)

-- ---------------------------------------------------------------------------
-- Both
-- ---------------------------------------------------------------------------

/-- Where a tree differs from the one before, a directory of the path was made where there was
nothing, or one of the named entries of the directory was changed, which neither was nor is a
directory. -/
def Confined (t t' : FileTree) (dir : Path) (names : List String) : Prop :=
  ∀ l, t'.at? l = t.at? l ∨ t.Made t' dir.ancestors l ∨
    ∃ name ∈ names, ∃ place, t'.Leads dir place ∧ l = entry place name ∧
      t.at? l ≠ some .directory ∧ t'.at? l ≠ some .directory

theorem Confined.refl (t : FileTree) (dir : Path) (names : List String) : t.Confined t dir names :=
  fun _ => .inl rfl

theorem Confined.directory (h : t.Confined t' dir names) (l : Location)
    (hd : t.at? l = some .directory) : t'.at? l = some .directory := by
  rcases h l with hsame | hmade | ⟨-, -, -, -, -, hwas, -⟩
  · rw [hsame, hd]
  · cases hd.symm.trans hmade.was
  · exact absurd hd hwas

theorem Makes.confined (h : Makes t dir.ancestors t') (names : List String) :
    t.Confined t' dir names :=
  fun l => (h.made l).imp_right .inl

theorem Edits.confined (hm : Makes t dir.ancestors t₁) (h : t₁.Edits t' dir names) :
    t.Confined t' dir names := by
  intro l
  have hunedited (hsame : t'.at? l = t₁.at? l) :
      t'.at? l = t.at? l ∨ t.Made t' dir.ancestors l := by
    rw [hsame]
    exact (hm.made l).imp_right (·.mono fun k => (h.directories k).mpr)
  rcases h.elsewhere l with hsame | ⟨name, hn, place, hl, he⟩
  · exact (hunedited hsame).imp_right .inl
  · by_cases hd : t₁.at? l = some .directory
    · exact (hunedited (by rw [(h.directories l).mpr hd, hd])).imp_right .inl
    · exact .inr (.inr ⟨name, hn, place, (Leads.congr h.directories).mpr hl, he,
        fun hwas => hd (hm.grows.directory l hwas), fun his => hd ((h.directories l).mp his)⟩)

/-- A plan that makes a directory and then keeps to entries of it is confined, wherever it stops. -/
theorem Stopped.confined {rest : List Effect} (hrest : ∀ e ∈ rest, e.Within dir names)
    (h : Stopped t (.makeDirs dir :: rest) t') : t.Confined t' dir names := by
  cases h with
  | within hstop =>
    cases hstop with
    | before => exact .refl t dir names
    | makeDirs hm => exact hm.confined names
  | later happly hs => exact (hs.edits hrest).confined (makes_of_apply happly)

theorem exists_effect_of_stopped {plan : List Effect} {path : Path} {fault : Fault}
    (h : (t.carryOut plan).2 = some (path, fault)) : ∃ e ∈ plan, e.path = path := by
  induction plan generalizing t with
  | nil => cases h
  | cons e rest ih =>
    rw [carryOut] at h
    split at h
    · obtain ⟨e', he', hpath⟩ := ih h
      exact ⟨e', List.mem_cons_of_mem e he', hpath⟩
    · cases h
      exact ⟨e, List.mem_cons_self, rfl⟩

end FileTree
end Precompiled.Storage
