import Precompiled.Proofs.Storage.Entry

/-!
# Where a plan may stop

A plan that is interrupted leaves one of a few trees behind: the effects before the interruption are
done, and the one it hits is done in part. Making directories stops after any of them, and storing
a file stops after any number of its bytes.
-/

namespace Precompiled.Storage

namespace FileTree

/-- A tree that making directories along some paths passes through. -/
inductive Makes : FileTree → List Path → FileTree → Prop
  | before {t ps} : Makes t ps t
  | make {t t' p outer} : t.makeDir p = .ok t' → Makes t (p :: outer) t'
  | outer {t t' p outer} : t.makeDir p = .error .notFound → Makes t outer t' →
      Makes t (p :: outer) t'
  | again {t t₁ t' p outer} : t.makeDir p = .error .notFound →
      t.makeDirsAlong outer = (t₁, none) → t₁.makeDir p = .ok t' → Makes t (p :: outer) t'

inductive Stop (t : FileTree) : Effect → FileTree → Prop
  | before (e) : Stop t e t
  | makeDirs {p t'} : Makes t p.ancestors t' → Stop t (.makeDirs p) t'
  | discard {p t'} : t.removeFile p = .ok t' → Stop t (.discard p) t'
  | store {p content t'} (k : Nat) : t.store p (content.take k) = .ok t' →
      Stop t (.store p content) t'

/-- A tree that a plan passes through. -/
inductive Stopped : FileTree → List Effect → FileTree → Prop
  | done {t} : Stopped t [] t
  | within {t t' e rest} : Stop t e t' → Stopped t (e :: rest) t'
  | later {t t₁ t' e rest} : t.apply e = (t₁, none) → Stopped t₁ rest t' → Stopped t (e :: rest) t'

variable {t t' : FileTree} {dir : Path} {name : String}

-- ---------------------------------------------------------------------------
-- Faults
-- ---------------------------------------------------------------------------

theorem makes_makeDirsAlong (t : FileTree) (ps : List Path) :
    Makes t ps (t.makeDirsAlong ps).1 := by
  induction ps generalizing t with
  | nil => exact .before
  | cons p outer ih =>
    rw [makeDirsAlong]
    split
    · exact .make ‹_›
    · rename_i hp
      have houter := ih t
      split
      · rename_i t₁ fault ho
        rw [ho] at houter
        exact .outer hp houter
      · rename_i t₁ ho
        split
        · exact .again hp ho ‹_›
        · rw [ho] at houter
          exact .outer hp houter
    · exact .before

theorem stop_apply (t : FileTree) (e : Effect) : Stop t e (t.apply e).1 := by
  cases e with
  | makeDirs p => exact .makeDirs (makes_makeDirsAlong t p.ancestors)
  | discard p =>
    rw [apply]
    split
    · cases hr : t.removeFile p with
      | ok changed => exact .discard hr
      | error fault => exact .before _
    · exact .before _
  | store p content =>
    rw [apply]
    cases hs : t.store p content with
    | ok changed => exact .store content.length (by rwa [List.take_length])
    | error fault => exact .before _

/-- What a plan leaves behind is one of the trees it passes through, whether it comes to its end or
stops at a fault. -/
theorem stopped_carryOut (t : FileTree) (plan : List Effect) :
    Stopped t plan (t.carryOut plan).1 := by
  induction plan generalizing t with
  | nil => exact .done
  | cons e rest ih =>
    have hstop := stop_apply t e
    rw [carryOut]
    split
    · exact .later ‹_› (ih _)
    · rename_i h
      rw [h] at hstop
      exact .within hstop

-- ---------------------------------------------------------------------------
-- Entries
-- ---------------------------------------------------------------------------

theorem Stop.store_sameBut {content : Bytes} (hp : Path.Plain (Utf8.encode name))
    (h : Stop t (.store (dir.join name) content) t') : t.SameBut t' dir name := by
  cases h with
  | before => exact .refl t dir name
  | store k h => exact FileTree.store_sameBut hp h

theorem Stop.discard_sameBut (hp : Path.Plain (Utf8.encode name))
    (h : Stop t (.discard (dir.join name)) t') : t.SameBut t' dir name := by
  cases h with
  | before => exact .refl t dir name
  | discard h => exact removeFile_sameBut hp h

-- ---------------------------------------------------------------------------
-- Making directories
-- ---------------------------------------------------------------------------

def content? (t : FileTree) (l : Location) : Option Bytes :=
  match t.at? l with
  | some (.file content) => some content
  | _ => none

theorem content?_eq_some {l : Location} {content : Bytes} :
    t.content? l = some content ↔ t.at? l = some (.file content) := by
  unfold content?
  split <;> simp_all

/-- Directories were added and nothing else has changed. -/
structure Grows (t t' : FileTree) : Prop where
  directory : ∀ l, t.at? l = some .directory → t'.at? l = some .directory
  file : ∀ l content, t'.at? l = some (.file content) ↔ t.at? l = some (.file content)

theorem Grows.refl (t : FileTree) : t.Grows t := ⟨fun _ h => h, fun _ _ => .rfl⟩

theorem Grows.trans {t₁ t₂ : FileTree} (h : t.Grows t₁) (h' : t₁.Grows t₂) : t.Grows t₂ :=
  ⟨fun l hl => h'.directory l (h.directory l hl), fun l c => (h'.file l c).trans (h.file l c)⟩

theorem Grows.content? (h : t.Grows t') (l : Location) : t'.content? l = t.content? l :=
  Option.ext fun content => by
    rw [content?_eq_some, content?_eq_some]
    exact h.file l content

theorem site_directory {p : Path} {site : Location × Option Name} (h : t.site p = .ok site) :
    t.at? site.1.reverse = some .directory := by
  obtain ⟨⟨⟩, -, h⟩ := bind_ok.mp h
  obtain ⟨place, -, h⟩ := bind_ok.mp h
  split at h
  · rename_i entries hf
    have hplace : site.1 = place := by
      split at h
      · rename_i name hlast
        by_cases hlong : Path.nameLimit < name.length
        · simp [hlong, bind, Except.bind] at h
        · rw [if_neg hlong] at h
          cases h
          rfl
      · cases h
        rfl
    rw [hplace, at?_of_find? hf]
    rfl
  · cases h
  · cases h

theorem site_some {p : Path} {place : Location} {name : Name}
    (h : t.site p = .ok (place, some name)) :
    ∃ init, p.names = init ++ [name] ∧ t.walk [] init = .ok place ∧
      (name ≠ Path.here ∧ name ≠ Path.up) ∧ ¬ Path.nameLimit < name.length := by
  obtain ⟨⟨⟩, -, h⟩ := bind_ok.mp h
  obtain ⟨outer, hw, h⟩ := bind_ok.mp h
  split at h
  · split at h
    · rename_i last hlast
      obtain ⟨init, hinit⟩ := List.getLast?_eq_some_iff.mp hlast
      by_cases hlong : Path.nameLimit < last.length
      · simp [hlong, bind, Except.bind] at h
      · rw [if_neg hlong] at h
        rw [hinit, List.dropLast_concat] at hw
        by_cases hdots : last = Path.here ∨ last = Path.up
        · simp [hdots, pure, Except.pure] at h
        · rw [if_neg hdots] at h
          cases h
          exact ⟨init, hinit, hw, not_or.mp hdots, hlong⟩
    · cases h
  · cases h
  · cases h

theorem makeDir_at? {p : Path} (h : t.makeDir p = .ok t') :
    ∃ place name, t.site p = .ok (place, some name) ∧ t.at? (place.reverse ++ [name]) = none ∧
      ∀ l, t'.at? l = if l = place.reverse ++ [name] then some .directory else t.at? l := by
  obtain ⟨⟨place, last⟩, hs, h⟩ := bind_ok.mp h
  have hdir : t.at? place.reverse = some .directory := site_directory hs
  cases last with
  | none => cases h
  | some name =>
    simp only [List.reverse_cons] at h
    split at h
    · cases h
    · rename_i hnone
      cases h
      have hfree : t.at? (place.reverse ++ [name]) = none :=
        find?_eq_none.mp (Option.not_isSome_iff_eq_none.mp hnone)
      have hempty (below : Name) (next : Location) :
          (some (Node.directory [])).bind (·.at? (below :: next)) = none := by
        simp [Node.at?_directory_cons, Dict.get?]
      exact ⟨place, name, hs, hfree, at?_set hdir (by rw [hfree]; simp) hempty⟩

theorem grows_makeDir {p : Path} (h : t.makeDir p = .ok t') : t.Grows t' := by
  obtain ⟨place, name, -, hfree, hat⟩ := makeDir_at? h
  refine ⟨fun l hl => ?_, fun l content => ?_⟩
  · rw [hat]
    split
    · rfl
    · exact hl
  · rw [hat]
    split
    · subst l
      simp [hfree]
    · rfl

theorem Makes.grows {ps : List Path} (h : Makes t ps t') : t.Grows t' := by
  induction ps generalizing t t' with
  | nil => cases h with | before => exact .refl t
  | cons p rest ih =>
    cases h with
    | before => exact .refl t
    | make h => exact grows_makeDir h
    | outer _ h => exact ih h
    | again _ ho h =>
      have hfirst := makes_makeDirsAlong t rest
      rw [ho] at hfirst
      exact (ih hfirst).trans (grows_makeDir h)

-- ---------------------------------------------------------------------------
-- Directories that are there
-- ---------------------------------------------------------------------------

theorem site_of_directory (h : t.kind dir = .ok .directory) :
    ∃ outer last, t.site dir = .ok (outer, last) ∧
      ∀ name ∈ last, (t.find? (outer.reverse ++ [name])).isSome = true := by
  obtain ⟨hc, place, hl⟩ := kind_eq_directory.mp h
  have hw := hl.walk
  rcases List.eq_nil_or_concat dir.names with hnil | ⟨init, last, hlast⟩
  · obtain ⟨entries, hf⟩ := find?_of_directory (at?_nil t)
    exact ⟨[], none, by simp [site, hc, hnil, hf, bind, Except.bind, pure, Except.pure], by simp⟩
  · rw [List.concat_eq_append] at hlast
    rw [hlast, walk_append] at hw
    obtain ⟨outer, hinit, hstep⟩ := bind_ok.mp hw
    have houter := walk_start hstep hl.directory
    obtain ⟨entries, hf⟩ := find?_of_directory houter
    rw [walk_cons, houter] at hstep
    simp only [walk_nil] at hstep
    have hsite (hshort : ¬ Path.nameLimit < last.length) : t.site dir =
        .ok (outer, if last = Path.here ∨ last = Path.up then none else some last) := by
      simp [site, hc, hlast, hinit, hf, hshort, bind, Except.bind, pure, Except.pure]
    -- The walk goes over any other name than the dots only where its directory holds it.
    by_cases hdots : last = Path.here ∨ last = Path.up
    · have hshort : ¬ Path.nameLimit < last.length := by
        rcases hdots with rfl | rfl <;> decide
      exact ⟨outer, none, by rw [hsite hshort, if_pos hdots], by simp⟩
    · obtain ⟨hhere, hup⟩ := not_or.mp hdots
      rw [if_neg hhere, if_neg hup] at hstep
      split at hstep
      · cases hstep
      split at hstep
      · rename_i hshort hsome
        refine ⟨outer, some last, by rw [hsite hshort, if_neg hdots], fun name hname => ?_⟩
        rw [at?, Node.at?, Option.isSome_map] at hsome
        rw [← Option.some.inj hname]
        exact hsome
      · cases hstep

theorem makeDir_of_directory (h : t.kind dir = .ok .directory) :
    t.makeDir dir = .error .alreadyExists := by
  obtain ⟨outer, last, hs, hthere⟩ := site_of_directory h
  rw [makeDir, hs]
  cases last with
  | none => rfl
  | some name =>
    simp [hthere name rfl, bind, Except.bind, throw, throwThe, MonadExceptOf.throw]

theorem makeDirs_of_directory (hd : dir.bytes ≠ []) (h : t.kind dir = .ok .directory) :
    t.makeDirs dir = (t, none) := by
  have hthere : t.isDirectory dir = true := by
    rw [kind] at h
    rw [isDirectory]
    cases hn : t.node dir with
    | error fault => rw [hn] at h; cases h
    | ok n => cases n <;> simp_all [Except.map, Node.isDirectory]
  have hne : dir.bytes.isEmpty = false := by simpa using hd
  rw [makeDirs, Path.ancestors, hne, if_neg (by simp), makeDirsAlong, makeDir_of_directory h]
  simp [hthere]

theorem makes_of_directory (h : t.kind dir = .ok .directory)
    (hm : Makes t dir.ancestors t') : t' = t := by
  have hdir := makeDir_of_directory h
  rw [Path.ancestors] at hm
  split at hm
  · cases hm
    rfl
  · cases hm with
    | before => rfl
    | make h => rw [hdir] at h; cases h
    | outer h _ => rw [hdir] at h; cases h
    | again h _ _ => rw [hdir] at h; cases h

/-- Without `..` a walk only goes inwards. -/
theorem walk_suffix {place place' : Location} {names : List Name} (hup : Path.up ∉ names)
    (h : t.walk place names = .ok place') : place <:+ place' := by
  induction names generalizing place with
  | nil =>
    rw [walk_nil, Except.ok.injEq] at h
    exact h ▸ List.suffix_refl place
  | cons name rest ih =>
    rw [List.mem_cons, not_or] at hup
    rw [walk_cons] at h
    split at h
    · split at h
      · exact ih hup.2 h
      · rw [if_neg (Ne.symm hup.1)] at h
        split at h
        · cases h
        · split at h
          · exact (List.suffix_cons name place).trans (ih hup.2 h)
          · cases h
    · cases h
    · cases h

theorem directory_of_suffix {place place' : Location} (hs : place <:+ place')
    (h : t.at? place'.reverse = some .directory) : t.at? place.reverse = some .directory := by
  obtain ⟨inner, rfl⟩ := hs
  rw [List.reverse_append] at h
  cases hr : inner.reverse with
  | nil => simpa [hr] using h
  | cons name rest => exact at?_of_below (by rw [hr] at h; rw [h]; simp)

/-- Without `..` every directory on the way is one that the place is in, so the same names lead
there in every tree that has the place. -/
theorem walk_back {place place' : Location} {names : List Name} (hup : Path.up ∉ names)
    (h : t'.walk place names = .ok place') (hd : t.at? place'.reverse = some .directory) :
    t.walk place names = .ok place' := by
  induction names generalizing place with
  | nil => exact h
  | cons name rest ih =>
    have hstart := directory_of_suffix (walk_suffix hup h) hd
    rw [List.mem_cons, not_or] at hup
    rw [walk_cons] at h
    rw [walk_cons, hstart]
    simp only
    split at h
    · split at h
      · rw [if_pos ‹_›]
        exact ih hup.2 h
      · rw [if_neg (Ne.symm hup.1)] at h
        split at h
        · cases h
        · split at h
          -- What is left of the walk only goes inwards, so the entry that it goes through is a
          -- directory in `t` as well.
          · have hnext := directory_of_suffix (walk_suffix hup.2 h) hd
            rw [List.reverse_cons] at hnext
            rw [if_neg ‹_›, if_neg (Ne.symm hup.1), if_neg ‹_›, if_pos (by rw [hnext]; rfl)]
            exact ih hup.2 h
          · cases h
    · cases h
    · cases h

end FileTree
end Precompiled.Storage
