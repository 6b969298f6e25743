import Precompiled.Proofs.Registry.Slots
import Precompiled.Registry.Removal

/-!
# Telling of retired slots

The events that taking backends out tells over a run name the slots that the run retires, each of
them once.
-/

namespace Precompiled.Registry

variable {β : Type}

-- ---------------------------------------------------------------------------
-- One operation
-- ---------------------------------------------------------------------------

def told (r : Registry β) : Op β → List Event
  | .register _ => []
  | .unregister id => (r.takeOut id : Attempt Empty _).events

theorem told_of_stale {r : Registry β} {id : BackendId} (h : r.get? id = none) :
    r.told (.unregister id) = [] := by
  simp [told, events_takeOut, retires, contains, h]

namespace Empties

variable {r r' : Registry β} {b : β} {id : BackendId}

theorem told (h : r.Empties id b r') :
    r.told (.unregister id) =
      if id.generation = lastGeneration then [.slotRetired id.index] else [] := by
  have hb : r.get? id = some b := get?_eq_some_iff.mpr h.before
  simp [Registry.told, events_takeOut, retires, contains, hb]

theorem not_mem_retired (h : r.Empties id b r') : id.index.toNat ∉ r.retired := by
  simp [mem_retired, h.before]

end Empties

theorem Account.told_step {a : Account β} (ha : a.registry.Sound) (op : Op β) :
    ∃ indices : List UInt32, a.registry.told op = indices.map .slotRetired ∧
      (a.step op).registry.retired.Perm (indices.map UInt32.toNat ++ a.registry.retired) := by
  -- Neither list of places names one twice, so it is enough to compare what is in them.
  cases op with
  | register b =>
    refine ⟨[], rfl, (List.perm_ext_iff_of_nodup nodup_retired nodup_retired).mpr fun n => ?_⟩
    exact (ha.retired_register b).1
  | unregister id =>
    rw [registry_unregister]
    rcases unregister_cases a.registry id with ⟨hnone, he⟩ | ⟨b, -, -, h⟩
    · exact ⟨[], told_of_stale hnone, by rw [he]; exact .refl _⟩
    · have hretired (n : Nat) := h.retired (n := n) ha
      rw [h.told]
      split <;> rename_i hl
      · refine ⟨[id.index], rfl, (List.perm_ext_iff_of_nodup nodup_retired
          (List.nodup_cons.mpr ⟨h.not_mem_retired, nodup_retired⟩)).mpr fun n => ?_⟩
        simp [hretired, hl, or_comm]
      · refine ⟨[], rfl, (List.perm_ext_iff_of_nodup nodup_retired nodup_retired).mpr fun n => ?_⟩
        simp [hretired, hl]

-- ---------------------------------------------------------------------------
-- Runs
-- ---------------------------------------------------------------------------

def Account.toldAlong (a : Account β) : List (Op β) → List Event
  | [] => []
  | op :: ops => a.registry.told op ++ (a.step op).toldAlong ops

theorem Account.told_steps {a : Account β} (ha : a.registry.Sound) (ops : List (Op β)) :
    ∃ indices : List UInt32, a.toldAlong ops = indices.map .slotRetired ∧
      (ops.foldl step a).registry.retired.Perm
        (indices.map UInt32.toNat ++ a.registry.retired) := by
  induction ops generalizing a with
  | nil => exact ⟨[], rfl, .refl _⟩
  | cons op rest ih =>
    obtain ⟨first, htold, hstep⟩ := told_step ha op
    obtain ⟨later, htold', hrest⟩ := ih (step_sound ha op)
    refine ⟨first ++ later, by rw [toldAlong, htold, htold', List.map_append], ?_⟩
    refine hrest.trans ((hstep.append_left _).trans ?_)
    rw [← List.append_assoc, List.map_append]
    exact List.perm_append_comm.append_right _

/-- The events of a run are about slots that are retired, and each slot that the run retires is told
of once. -/
theorem run_tells_retired (ops : List (Op β)) :
    ∃ indices : List UInt32, Account.toldAlong {} ops = indices.map .slotRetired ∧
      (run ops).registry.retired.Perm (indices.map UInt32.toNat) := by
  obtain ⟨indices, htold, hretired⟩ := Account.told_steps (a := {}) .init ops
  exact ⟨indices, htold, hretired.trans (by simp [retired, places])⟩

theorem told_churn (b : β) : Account.toldAlong {} (churn b UInt32.size) = [.slotRetired 0] := by
  obtain ⟨indices, htold, hretired⟩ := run_tells_retired (churn b UInt32.size)
  rw [retired_churn] at hretired
  have hplaces : indices.map UInt32.toNat = [0] := List.perm_singleton.mp hretired.symm
  obtain ⟨i, rfl, hi⟩ := List.map_eq_singleton_iff.mp hplaces
  obtain rfl : i = 0 := UInt32.toNat_inj.mp hi
  exact htold

end Precompiled.Registry
