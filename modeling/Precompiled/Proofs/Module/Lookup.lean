import Mathlib.Data.List.Nodup
import Precompiled.Module

/-!
# Looking up by name

A lookup through the table of positions gives the last declaration of a name. Where no name is
declared twice, that is the only one.
-/

namespace Precompiled

-- ---------------------------------------------------------------------------
-- Entries that are put one after the other
-- ---------------------------------------------------------------------------

namespace Dict

variable {κ α : Type} [DecidableEq κ]

theorem get?_append (d d' : Dict κ α) (key : κ) :
    get? (d ++ d') key = (get? d key).or (get? d' key) := by
  unfold get?
  rw [List.find?_append, Option.map_or]

/-- The entry that was put last under a key hides those before it. -/
theorem get?_foldl_put (entries : List (κ × α)) (d : Dict κ α) (key : κ) :
    get? (entries.foldl (fun d e => put e.1 e.2 d) d) key =
      (get? entries.reverse key).or (get? d key) := by
  induction entries generalizing d with
  | nil => rfl
  | cons e rest ih =>
    have hlast : get? (put e.1 e.2 d) key = (get? [e] key).or (get? d key) := by
      rw [get?_put, get?_cons, get?_nil]
      split <;> rfl
    rw [List.foldl_cons, ih, hlast, List.reverse_cons, get?_append, Option.or_assoc]

end Dict

-- ---------------------------------------------------------------------------
-- The table of positions
-- ---------------------------------------------------------------------------

theorem get?_positions (names : List String) (name : String) :
    Dict.get? (positions names) name = Dict.get? names.zipIdx.reverse name := by
  unfold positions
  rw [Dict.get?_foldl_put, Dict.get?_nil, Option.or_none]

variable {α : Type} {xs : List α} {f : α → String} {name : String}

theorem getElem?_get?_positions :
    (Dict.get? (positions (xs.map f)) name).bind (xs[·]?) = xs.reverse.find? (f · = name) := by
  -- an entry carries its own position, so looking the position up again gives the entry
  have hplace : ∀ p ∈ xs.zipIdx.reverse, xs[p.2]? = some p.1 := by
    intro p hp
    exact List.mem_zipIdx_iff_getElem?.mp (List.mem_reverse.mp hp)
  calc (Dict.get? (positions (xs.map f)) name).bind (xs[·]?)
      = (xs.zipIdx.reverse.find? (f ·.1 = name)).bind (xs[·.2]?) := by
        rw [get?_positions, List.zipIdx_map, ← List.map_reverse, Dict.get?, List.find?_map,
          Option.map_map, Option.bind_map]
        rfl
    _ = (xs.zipIdx.reverse.find? (f ·.1 = name)).map Prod.fst := by
        rw [Option.map_eq_bind]
        exact Option.bind_congr fun p hp => hplace p (List.mem_of_find?_eq_some hp)
    _ = ((xs.zipIdx.map Prod.fst).reverse.find? (f · = name)) := by
        rw [← List.map_reverse, List.find?_map]
        rfl
    _ = xs.reverse.find? (f · = name) := by
        rw [List.zipIdx_map_fst]

theorem find?_reverse_of_nodup (h : (xs.map f).Nodup) {x : α} (hx : x ∈ xs) :
    xs.reverse.find? (f · = f x) = some x := by
  cases hfound : xs.reverse.find? (f · = f x) with
  | none => simpa using List.find?_eq_none.mp hfound x (List.mem_reverse.mpr hx)
  | some y =>
    have hy : y ∈ xs := List.mem_reverse.mp (List.mem_of_find?_eq_some hfound)
    have hname : f y = f x := by simpa using List.find?_some hfound
    rw [List.inj_on_of_nodup_map h hy hx hname]

-- ---------------------------------------------------------------------------
-- Modules
-- ---------------------------------------------------------------------------

namespace Module

variable {m : Module}

theorem kernel?_eq_find? (h : m.kernelPositions = positions (m.kernels.map (·.name))) :
    m.kernel? name = m.kernels.reverse.find? (·.name = name) := by
  rw [← getElem?_get?_positions, ← h]
  rfl

theorem isSome_kernel? (h : m.kernelPositions = positions (m.kernels.map (·.name))) :
    (m.kernel? name).isSome ↔ name ∈ m.kernelNames := by
  rw [kernel?_eq_find? h, List.find?_isSome, kernelNames, List.mem_map]
  simp only [List.mem_reverse, decide_eq_true_eq]

theorem field?_eq_find? (h : m.fieldPositions = positions (m.fields.map (·.name))) :
    m.field? name = m.fields.reverse.find? (·.name = name) := by
  rw [← getElem?_get?_positions, ← h]
  rfl

theorem isSome_field? (h : m.fieldPositions = positions (m.fields.map (·.name))) :
    (m.field? name).isSome ↔ name ∈ m.fieldNames := by
  rw [field?_eq_find? h, List.find?_isSome, fieldNames, List.mem_map]
  simp only [List.mem_reverse, decide_eq_true_eq]

end Module
end Precompiled
