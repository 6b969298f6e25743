import Precompiled.Proofs.Storage.Path

/-!
# What a tree shows

A tree is read as a map from locations to what stands there: a file with its content, or a
directory. A change at one location is then one change of the map (`at?_set`), and walking a path
depends on the map only (`walk_cons`).
-/

namespace Precompiled.Storage

inductive Face where
  | file (content : Bytes)
  | directory
  deriving DecidableEq, Repr

namespace Node

def face : Node → Face
  | .file content => .file content
  | .directory _ => .directory

def at? (n : Node) (l : Location) : Option Face := (n.find? l).map face

theorem face_eq_directory {n : Node} : n.face = .directory ↔ ∃ entries, n = .directory entries := by
  cases n <;> simp [face]

@[simp] theorem at?_nil (n : Node) : n.at? [] = some n.face := by
  cases n <;> simp [at?, find?]

@[simp] theorem at?_file_cons (content : Bytes) (name : Name) (l : Location) :
    (Node.file content).at? (name :: l) = none := by
  simp [at?, find?]

theorem find?_append (n : Node) (l rest : Location) :
    n.find? (l ++ rest) = (n.find? l).bind (·.find? rest) := by
  induction l generalizing n with
  | nil => simp [find?]
  | cons name l ih =>
    cases n with
    | file content => simp [find?]
    | directory entries =>
      cases h : Dict.get? entries name with
      | none => simp [find?, h]
      | some inner => simp [find?, h, ih]

theorem at?_directory_cons (entries : List (Name × Node)) (name : Name) (l : Location) :
    (Node.directory entries).at? (name :: l) = (Dict.get? entries name).bind (·.at? l) := by
  cases h : Dict.get? entries name <;> simp [at?, find?, h]

theorem at?_cons_of_ne_directory {n : Node} (h : n.face ≠ .directory) (name : Name) (l : Location) :
    n.at? (name :: l) = none := by
  cases n with
  | file content => simp
  | directory entries => simp [face] at h

theorem set_cons (entries : List (Name × Node)) (name : Name) {l : Location} (hl : l ≠ [])
    (child : Option Node) :
    (Node.directory entries).set (name :: l) child =
      match Dict.get? entries name with
      | some inner => .directory (Dict.put name (inner.set l child) entries)
      | none => .directory entries := by
  cases l with
  | nil => exact absurd rfl hl
  | cons next rest => cases h : Dict.get? entries name <;> simp [set, h]

theorem face_set (n : Node) (l : Location) (child : Option Node) :
    (n.set l child).face = n.face := by
  cases n with
  | file content => cases l <;> simp [set]
  | directory entries =>
    match l, child with
    | [], _ => simp [set]
    | [name], some child => simp [set, face]
    | [name], none => simp [set, face]
    | name :: next :: rest, child =>
      rw [set_cons entries name (by simp)]
      split <;> simp [face]

/-- A change below which there is nothing, before and after, shows at its location and nowhere
else. -/
theorem at?_set {n : Node} {dir : Location} {name : Name} {child : Option Node}
    (hdir : n.at? dir = some .directory) (hold : n.at? (dir ++ [name]) ≠ some .directory)
    (hchild : ∀ below next, child.bind (·.at? (below :: next)) = none) (l : Location) :
    (n.set (dir ++ [name]) child).at? l =
      if l = dir ++ [name] then child.map face else n.at? l := by
  induction dir generalizing n l with
  | nil =>
    rw [at?_nil, Option.some.injEq, face_eq_directory] at hdir
    obtain ⟨entries, rfl⟩ := hdir
    rw [List.nil_append] at hold ⊢
    cases l with
    | nil => simp [face_set]
    | cons x rest =>
      have hset : ((Node.directory entries).set [name] child).at? (x :: rest) =
          (if name = x then child else Dict.get? entries x).bind (·.at? rest) := by
        cases child <;> simp only [set, at?_directory_cons, Dict.get?_put, Dict.get?_erase]
      rw [hset, at?_directory_cons]
      by_cases hx : name = x
      · subst hx
        cases rest with
        | nil => cases child <;> simp
        | cons below next =>
          -- The node that was there is no directory, so there was nothing below the name before.
          have hnone : (Dict.get? entries name).bind (·.at? (below :: next)) = none := by
            rw [at?_directory_cons] at hold
            cases hg : Dict.get? entries name with
            | none => rfl
            | some inner =>
              simp only [hg, Option.bind_some, at?_nil, ne_eq, Option.some.injEq] at hold
              exact at?_cons_of_ne_directory hold below next
          simp [hnone, hchild]
      · simp [hx, Ne.symm hx]
  | cons d ds ih =>
    cases n with
    | file content => simp at hdir
    | directory entries =>
      rw [at?_directory_cons] at hdir
      rw [List.cons_append, at?_directory_cons] at hold
      obtain ⟨inner, hg, hdir⟩ := Option.bind_eq_some_iff.mp hdir
      rw [hg, Option.bind_some] at hold
      rw [List.cons_append, set_cons entries d (by simp), hg]
      cases l with
      | nil => simp [face]
      | cons x rest =>
        rw [at?_directory_cons, at?_directory_cons, Dict.get?_put]
        by_cases hx : d = x
        · subst hx
          simp [hg, ih hdir hold]
        · simp [hx, Ne.symm hx]

end Node

namespace FileTree

variable {t : FileTree}

def at? (t : FileTree) (l : Location) : Option Face := t.root.at? l

@[simp] theorem at?_nil (t : FileTree) : t.at? [] = some .directory := by
  simp [at?, root, Node.face]

theorem find?_eq_none {l : Location} : t.find? l = none ↔ t.at? l = none := by
  simp [at?, Node.at?, find?]

theorem at?_of_find? {l : Location} {n : Node} (h : t.find? l = some n) :
    t.at? l = some n.face := by
  simp only [find?] at h
  simp [at?, Node.at?, h]

theorem find?_of_directory {l : Location} (h : t.at? l = some .directory) :
    ∃ entries, t.find? l = some (.directory entries) := by
  rw [at?, Node.at?, Option.map_eq_some_iff] at h
  obtain ⟨n, hf, hface⟩ := h
  obtain ⟨entries, rfl⟩ := Node.face_eq_directory.mp hface
  exact ⟨entries, hf⟩

theorem root_set (t : FileTree) (l : Location) (child : Option Node) :
    (t.set l child).root = t.root.set l child := by
  have hface : (t.root.set l child).face = .directory := Node.face_set t.root l child
  obtain ⟨entries, he⟩ := Node.face_eq_directory.mp hface
  rw [set, he]
  rfl

theorem at?_set {dir : Location} {name : Name} {child : Option Node}
    (hdir : t.at? dir = some .directory) (hold : t.at? (dir ++ [name]) ≠ some .directory)
    (hchild : ∀ below next, child.bind (·.at? (below :: next)) = none) (l : Location) :
    (t.set (dir ++ [name]) child).at? l =
      if l = dir ++ [name] then child.map Node.face else t.at? l := by
  rw [at?, root_set]
  exact Node.at?_set hdir hold hchild l

theorem at?_append (l rest : Location) : t.at? (l ++ rest) = (t.find? l).bind (·.at? rest) := by
  simp only [at?, Node.at?, find?, Node.find?_append]
  cases t.root.find? l <;> rfl

theorem at?_of_below {l : Location} {name : Name} {rest : Location}
    (h : t.at? (l ++ name :: rest) ≠ none) : t.at? l = some .directory := by
  rw [at?_append] at h
  cases hf : t.find? l with
  | none => simp [hf] at h
  | some n =>
    rw [at?_of_find? hf]
    by_cases hd : n.face = .directory
    · rw [hd]
    · simp [hf, Node.at?_cons_of_ne_directory hd] at h

-- ---------------------------------------------------------------------------
-- Walking
-- ---------------------------------------------------------------------------

theorem walk_cons (place : Location) (name : Name) (rest : List Name) :
    t.walk place (name :: rest) =
      match t.at? place.reverse with
      | some .directory =>
        if name = Path.here then t.walk place rest
        else if name = Path.up then t.walk place.tail rest
        else if Path.nameLimit < name.length then .error .nameTooLong
        else if (t.at? (place.reverse ++ [name])).isSome then t.walk (name :: place) rest
        else .error .notFound
      | some (.file _) => .error .notADirectory
      | none => .error .notFound := by
  rw [walk]
  cases hf : t.find? place.reverse with
  | none => simp [find?_eq_none.mp hf]
  | some n =>
    rw [at?_of_find? hf]
    cases n with
    | file content => rfl
    | directory entries =>
      have hentry : (t.at? (place.reverse ++ [name])).isSome = (Dict.get? entries name).isSome := by
        rw [at?_append, hf, Option.bind_some, Node.at?_directory_cons]
        cases Dict.get? entries name <;> simp
      simp [Node.face, hentry]

@[simp] theorem walk_nil (place : Location) : t.walk place [] = .ok place := rfl

theorem walk_append (place : Location) (first second : List Name) :
    t.walk place (first ++ second) = (do t.walk (← t.walk place first) second) := by
  induction first generalizing place with
  | nil => rfl
  | cons name rest ih =>
    rw [List.cons_append, walk_cons, walk_cons]
    split
    · split
      · exact ih place
      · split
        · exact ih place.tail
        · split
          · rfl
          · split
            · exact ih (name :: place)
            · rfl
    · rfl
    · rfl

theorem walk_start {place place' : Location} {names : List Name}
    (h : t.walk place names = .ok place') (hd : t.at? place'.reverse = some .directory) :
    t.at? place.reverse = some .directory := by
  cases names with
  | nil => rw [walk, Except.ok.injEq] at h; rwa [h]
  | cons name rest =>
    rw [walk_cons] at h
    split at h
    · assumption
    · simp at h
    · simp at h

/-- A walk to a directory goes the same way in every tree that has the same directories, and
more. -/
theorem walk_mono {t' : FileTree}
    (hmono : ∀ l, t.at? l = some .directory → t'.at? l = some .directory)
    {place place' : Location} {names : List Name} (h : t.walk place names = .ok place')
    (hd : t.at? place'.reverse = some .directory) : t'.walk place names = .ok place' := by
  induction names generalizing place with
  | nil => exact h
  | cons name rest ih =>
    have hstart := walk_start h hd
    rw [walk_cons, hstart] at h
    rw [walk_cons, hmono _ hstart]
    simp only at h ⊢
    split at h
    · rw [if_pos ‹_›]; exact ih h
    · split at h
      · rw [if_neg ‹_›, if_pos ‹_›]; exact ih h
      · split at h
        · simp at h
        · split at h
          · have hnext : t'.at? (place.reverse ++ [name]) = some .directory :=
              hmono _ (by simpa using walk_start h hd)
            rw [if_neg ‹_›, if_neg ‹_›, if_neg ‹_›, if_pos (by simp [hnext])]
            exact ih h
          · simp at h

end FileTree
end Precompiled.Storage
