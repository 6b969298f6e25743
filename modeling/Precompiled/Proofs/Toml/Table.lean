import Precompiled.Toml.Table

/-!
# The keys of a table

No key comes twice in a table, however it is filled: what puts a value under a key that is there
replaces the value in its place, or is refused. So a table is told by the pairs in it, and their
order is the order in which the keys came.
-/

namespace Precompiled

-- ---------------------------------------------------------------------------
-- Keys of a dictionary
-- ---------------------------------------------------------------------------

namespace Dict

variable {κ α : Type} {d : Dict κ α} {key : κ} {value : α}

def Distinct (d : Dict κ α) : Prop := (d.map Prod.fst).Nodup

instance [DecidableEq κ] (d : Dict κ α) : Decidable (Distinct d) :=
  inferInstanceAs (Decidable (List.Nodup _))

theorem distinct_cons {entry : κ × α} {rest : Dict κ α} :
    Distinct (entry :: rest) ↔ entry.1 ∉ rest.map Prod.fst ∧ Distinct rest := List.nodup_cons

theorem Distinct.perm {d' : Dict κ α} (h : Distinct d) (hp : d'.Perm d) : Distinct d' :=
  ((hp.map Prod.fst).nodup_iff).mpr h

variable [DecidableEq κ]

theorem get?_eq_none : get? d key = none ↔ key ∉ d.map Prod.fst := by
  induction d with
  | nil => simp [get?_nil]
  | cons entry rest ih =>
    obtain ⟨k, v⟩ := entry
    rw [get?_cons, List.map_cons, List.mem_cons, not_or, ← ih]
    by_cases h : k = key
    · simp [h]
    · simp [h, Ne.symm h]

theorem put_of_not_mem (value : α) (h : key ∉ d.map Prod.fst) :
    put key value d = d ++ [(key, value)] := by
  induction d with
  | nil => rfl
  | cons entry rest ih =>
    obtain ⟨k, v⟩ := entry
    rw [List.map_cons, List.mem_cons, not_or] at h
    simp [put, Ne.symm h.1, ih h.2]

theorem mem_keys_put {other : κ} :
    other ∈ (put key value d).map Prod.fst ↔ other = key ∨ other ∈ d.map Prod.fst := by
  induction d with
  | nil => simp [put]
  | cons entry rest ih =>
    obtain ⟨k, v⟩ := entry
    by_cases h : k = key
    · simp [put, h]
    · rw [put, if_neg h, List.map_cons, List.mem_cons, ih, List.map_cons, List.mem_cons]
      exact or_left_comm

theorem Distinct.put (h : Distinct d) : Distinct (put key value d) := by
  induction d with
  | nil => simp [Dict.put, Distinct]
  | cons entry rest ih =>
    obtain ⟨k, v⟩ := entry
    rw [distinct_cons] at h
    by_cases hk : k = key
    · rw [Dict.put, if_pos hk, distinct_cons]
      exact h
    · rw [Dict.put, if_neg hk, distinct_cons, mem_keys_put, not_or]
      exact ⟨⟨hk, h.1⟩, ih h.2⟩

theorem Distinct.erase (h : Distinct d) : Distinct (erase key d) :=
  h.sublist (List.filter_sublist.map Prod.fst)

end Dict

namespace Toml

open Dict (Distinct)

-- ---------------------------------------------------------------------------
-- Filling tables
-- ---------------------------------------------------------------------------

variable {entries result : Entries}

theorem foldlM_keeps {α β : Type} {step : β → α → Option β} {keeps : β → Prop}
    (hstep : ∀ b a b', step b a = some b' → keeps b → keeps b') {items : List α} {start last : β}
    (h : items.foldlM step start = some last) (hs : keeps start) : keeps last := by
  induction items generalizing start with
  | nil =>
    obtain rfl := Option.some.inj h
    exact hs
  | cons item rest ih =>
    rw [List.foldlM_cons] at h
    obtain ⟨next, hnext, hrest⟩ := Option.bind_eq_some_iff.mp h
    exact ih hrest (hstep start item next hnext hs)

theorem distinct_bind_put {key : String} {inner : Option Entries} {form : Entries → Item}
    (hd : Distinct entries)
    (h : (do return Dict.put key (form (← inner)) entries) = some result) : Distinct result := by
  obtain ⟨made, -, hmade⟩ := Option.bind_eq_some_iff.mp h
  obtain rfl := Option.some.inj hmade
  exact hd.put

theorem distinct_enterAt {key : String} {item : Item} {path : List String}
    (h : enterAt key item path entries = some result) (hd : Distinct entries) :
    Distinct result := by
  cases path with
  | nil =>
    rw [enterAt] at h
    split at h
    · cases h
    · obtain rfl := Option.some.inj h
      exact hd.put
  | cons next rest =>
    rw [enterAt] at h
    split at h
    · exact distinct_bind_put hd h
    · split at h
      · exact distinct_bind_put hd h
      · cases h
    · split at h
      · cases h
      · exact distinct_bind_put hd h
    · cases h

theorem distinct_fill {values : List Entry} (h : fill entries values = some result)
    (hd : Distinct entries) : Distinct result :=
  foldlM_keeps (fun _ _ _ => distinct_enterAt) h hd

theorem distinct_changeAt {change : Entries → Option Entries} {path : List String}
    (hchange : ∀ before after, change before = some after → Distinct before → Distinct after)
    (h : changeAt change path entries = some result) (hd : Distinct entries) :
    Distinct result := by
  cases path with
  | nil => exact hchange entries result h hd
  | cons next rest =>
    rw [changeAt] at h
    split at h
    · exact distinct_bind_put hd h
    · split at h
      · cases h
      · exact distinct_bind_put hd h
    · exact distinct_bind_put hd h
    · cases h

theorem distinct_addTable {key : String} {values : List Entry}
    (h : addTable key values entries = some result) (hd : Distinct entries) :
    Distinct result := by
  rw [addTable] at h
  split at h
  · exact distinct_bind_put hd h
  · exact distinct_bind_put hd.erase h
  · cases h

theorem distinct_addRepeated {key : String} {values : List Entry}
    (h : addRepeated key values entries = some result) (hd : Distinct entries) :
    Distinct result := by
  rw [addRepeated] at h
  split at h
  · exact distinct_bind_put hd h
  · exact distinct_bind_put hd h
  · cases h

theorem distinct_addSection {s : Section} (h : addSection entries s = some result)
    (hd : Distinct entries) : Distinct result := by
  obtain ⟨key, -, h⟩ := Option.bind_eq_some_iff.mp h
  refine distinct_changeAt (fun before after hadd => ?_) h hd
  split at hadd
  · exact distinct_addRepeated hadd
  · exact distinct_addTable hadd

-- ---------------------------------------------------------------------------
-- Tables without tables in them
-- ---------------------------------------------------------------------------

def Entry.ofPair (pair : String × Item) : Entry := { path := [], key := pair.1, item := pair.2 }

theorem fill_append (before : Entries) (hd : Distinct (before ++ entries)) :
    fill before (entries.map .ofPair) = some (before ++ entries) := by
  induction entries generalizing before with
  | nil => rw [List.append_nil]; rfl
  | cons pair rest ih =>
    have hshift : before ++ pair :: rest = (before ++ [pair]) ++ rest := by simp
    have hnew : pair.1 ∉ before.map Prod.fst := by
      rw [Distinct, List.map_append, List.nodup_append] at hd
      exact fun hmem => hd.2.2 _ hmem _ List.mem_cons_self rfl
    have henter : enterAt pair.1 pair.2 [] before = some (before ++ [pair]) := by
      rw [enterAt, Dict.get?_eq_none.mpr hnew, Dict.put_of_not_mem _ hnew]
      rfl
    rw [hshift] at hd ⊢
    rw [← ih _ hd, fill, List.map_cons, List.foldlM_cons]
    simp only [Entry.ofPair, henter]
    rfl

theorem fill_pairs (hd : Distinct entries) : fill [] (entries.map .ofPair) = some entries :=
  fill_append [] hd

end Toml
end Precompiled
