import Precompiled.Proofs.Registry.Run

/-!
# Entries that stay

Whatever is registered and taken out, as long as it is not the entry itself, an entry keeps its
backend. This needs no bound on the number of slots: a slot that is filled was free, and the free
slots are empty (`Sound`).
-/

namespace Precompiled.Registry

variable {β : Type} {r : Registry β} {id : BackendId} {b : β}

-- ---------------------------------------------------------------------------
-- The slots stay sound
-- ---------------------------------------------------------------------------

/-- A slot that is filled was the next free one, or is a new one at the end. -/
theorem Sound.register_cases (hr : r.Sound) (b : β) :
    (∃ i rest generation, r.free = i :: rest ∧
      r.slots[i.toNat]? = some ⟨generation, none⟩ ∧
      (r.register b).2 = ⟨r.slots.set i.toNat ⟨generation, some b⟩, rest⟩) ∨
    (r.free = [] ∧ (r.register b).2 = ⟨r.slots ++ [⟨0, some b⟩], []⟩) := by
  cases hf : r.free with
  | cons i rest =>
    obtain ⟨generation, hi⟩ := hr.empty i (by simp [hf])
    exact .inl ⟨i, rest, generation, rfl, hi, by simp [Registry.register, hf, hi]⟩
  | nil => exact .inr ⟨rfl, by simp [Registry.register, hf]⟩

theorem Sound.register (hr : r.Sound) (b : β) : (r.register b).2.Sound := by
  rcases hr.register_cases b with ⟨i, rest, generation, hf, -, he⟩ | ⟨-, he⟩
  · have hd := hr.distinct
    rw [hf, List.nodup_cons] at hd
    rw [he]
    refine ⟨hd.2, fun j hj => ?_⟩
    have hne : i.toNat ≠ j.toNat := fun h => hd.1 (UInt32.toNat_inj.mp h ▸ hj)
    rw [List.getElem?_set_ne hne]
    exact hr.empty j (hf ▸ List.mem_cons_of_mem i hj)
  · rw [he]
    exact ⟨List.nodup_nil, by simp⟩

theorem Sound.unregister (hr : r.Sound) (id : BackendId) : (r.unregister id).2.Sound := by
  rcases unregister_cases r id with ⟨-, he⟩ | ⟨b, -, -, h⟩
  · rwa [he]
  · exact h.sound hr

theorem Account.registry_unregister (a : Account β) (id : BackendId) :
    (a.step (.unregister id)).registry = (a.registry.unregister id).2 := by
  rcases unregister_cases a.registry id with ⟨-, he⟩ | ⟨b, -, hgiven, -⟩
  · rw [step_unregister_none he, he]
  · rw [step_unregister hgiven]

theorem Account.step_sound {a : Account β} (ha : a.registry.Sound) (op : Op β) :
    (a.step op).registry.Sound := by
  cases op with
  | register b => exact ha.register b
  | unregister id =>
    rw [registry_unregister]
    exact ha.unregister id

theorem Account.steps_sound {a : Account β} (ha : a.registry.Sound) (ops : List (Op β)) :
    (ops.foldl Account.step a).registry.Sound := by
  induction ops generalizing a with
  | nil => exact ha
  | cons op rest ih => exact ih (step_sound ha op)

theorem run_sound (ops : List (Op β)) : (run ops).registry.Sound := Account.steps_sound .init ops

-- ---------------------------------------------------------------------------
-- An entry keeps its backend
-- ---------------------------------------------------------------------------

theorem Sound.get?_register (hr : r.Sound) (h : r.get? id = some b) (other : β) :
    (r.register other).2.get? id = some b := by
  rw [get?_eq_some_iff] at h ⊢
  rcases hr.register_cases other with ⟨i, rest, generation, -, hi, he⟩ | ⟨-, he⟩
  · -- The slot to fill is empty, so it is not the one of the entry.
    have hne : i.toNat ≠ id.index.toNat := fun heq => by simp [heq, h] at hi
    rw [he, List.getElem?_set_ne hne, h]
  · obtain ⟨hlt, -⟩ := List.getElem?_eq_some_iff.mp h
    rw [he, List.getElem?_append_left hlt, h]

theorem get?_unregister (h : r.get? id = some b) {other : BackendId} (hne : id ≠ other) :
    (r.unregister other).2.get? id = some b := by
  rcases unregister_cases r other with ⟨-, he⟩ | ⟨b', -, -, hempties⟩
  · rwa [he]
  · rw [hempties.get? id, if_neg hne, h]

end Precompiled.Registry
