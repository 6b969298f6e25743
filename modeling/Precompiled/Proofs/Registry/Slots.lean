import Mathlib.Data.List.Induction
import Mathlib.Data.List.Perm.Subperm
import Precompiled.Proofs.Registry.Entries

/-!
# What becomes of the slots

Every slot holds a backend, is free, or is retired: empty in its last generation, and so for good.
A slot is added only when none is free, so a registry without retired slots has as many slots as it
ever had backends at once.
-/

namespace Precompiled.Registry

variable {β : Type} {r r' : Registry β} {n : Nat}

-- ---------------------------------------------------------------------------
-- Counting slots
-- ---------------------------------------------------------------------------

def places (r : Registry β) (p : Slot β → Nat → Bool) : List Nat :=
  (r.slots.zipIdx.filter fun (slot, n) => p slot n).map (·.2)

/-- The slots that are empty and not free. -/
def retired (r : Registry β) : List Nat :=
  r.places fun slot n => slot.occupant.isNone && n ∉ r.free.map UInt32.toNat

theorem mem_places {p : Slot β → Nat → Bool} :
    n ∈ r.places p ↔ ∃ slot, r.slots[n]? = some slot ∧ p slot n := by
  simp only [places, List.mem_map, List.mem_filter]
  constructor
  · rintro ⟨⟨slot, n⟩, ⟨hmem, hp⟩, rfl⟩
    exact ⟨slot, List.mk_mem_zipIdx_iff_getElem?.mp hmem, hp⟩
  · rintro ⟨slot, hslot, hp⟩
    exact ⟨(slot, n), ⟨List.mk_mem_zipIdx_iff_getElem?.mpr hslot, hp⟩, rfl⟩

theorem nodup_places (p : Slot β → Nat → Bool) : (r.places p).Nodup := by
  have hall : (r.slots.zipIdx.map (·.2)).Nodup := by
    rw [List.zipIdx_map_snd]
    exact List.nodup_range'
  exact hall.sublist (List.filter_sublist.map _)

theorem nodup_retired : r.retired.Nodup := nodup_places _

theorem length_places (p q : Slot β → Nat → Bool) :
    (r.places p).length = (r.places fun slot n => p slot n && q slot n).length +
      (r.places fun slot n => p slot n && !q slot n).length := by
  simp only [places, List.length_map]
  rw [List.length_eq_countP_add_countP fun (slot, n) => q slot n]
  simp [← List.countP_eq_length_filter, List.countP_filter, Bool.and_comm]

theorem length_places_all : (r.places fun _ _ => true).length = r.slots.length := by
  rw [places, List.length_map, List.filter_eq_self.mpr (by simp), List.length_zipIdx]

theorem length_places_occupied : (r.places fun slot _ => slot.occupant.isSome).length = r.size := by
  rw [size, ← List.zipIdx_map_fst 0 r.slots, List.countP_map]
  simp [places, List.countP_eq_length_filter, Function.comp_def]

theorem mem_retired :
    n ∈ r.retired ↔
      ∃ generation, r.slots[n]? = some ⟨generation, none⟩ ∧ n ∉ r.free.map UInt32.toNat := by
  simp only [retired, mem_places, Bool.and_eq_true, Option.isNone_iff_eq_none, decide_eq_true_eq]
  constructor
  · rintro ⟨⟨generation, _⟩, hslot, rfl, hfree⟩
    exact ⟨generation, hslot, hfree⟩
  · rintro ⟨generation, hslot, hfree⟩
    exact ⟨⟨generation, none⟩, hslot, rfl, hfree⟩

theorem Sound.length_free (hr : r.Sound) :
    (r.places fun slot n => slot.occupant.isNone && n ∈ r.free.map UInt32.toNat).length =
      r.free.length := by
  have hdistinct : (r.free.map UInt32.toNat).Nodup :=
    List.pairwise_map.mpr (hr.distinct.imp fun hne he => hne (UInt32.toNat_inj.mp he))
  rw [← List.length_map UInt32.toNat]
  refine ((List.perm_ext_iff_of_nodup (nodup_places _) hdistinct).mpr fun n => ?_).length_eq
  simp only [mem_places, Bool.and_eq_true, decide_eq_true_eq]
  constructor
  · rintro ⟨_, -, -, hfree⟩
    exact hfree
  · intro hfree
    obtain ⟨i, hi, rfl⟩ := List.mem_map.mp hfree
    obtain ⟨generation, hslot⟩ := hr.empty i hi
    exact ⟨_, hslot, rfl, hfree⟩

theorem Sound.length_slots (hr : r.Sound) :
    r.slots.length = r.size + r.free.length + r.retired.length := by
  have hlive := length_places (r := r) (fun _ _ => true) fun slot _ => slot.occupant.isSome
  have hempty := length_places (r := r) (fun slot _ => slot.occupant.isNone)
    fun _ n => n ∈ r.free.map UInt32.toNat
  have hfree := hr.length_free
  simp only [Bool.true_and, Option.not_isSome, length_places_all, length_places_occupied] at hlive
  simp only [← decide_not] at hempty
  simp only [retired]
  omega

-- ---------------------------------------------------------------------------
-- One operation
-- ---------------------------------------------------------------------------

/-- The slots are sound, and the empty ones that are not free are in their last generation. -/
structure Tidy (r : Registry β) : Prop extends Sound r where
  last : ∀ n ∈ r.retired, r.slots[n]? = some ⟨lastGeneration, none⟩

theorem Tidy.init : Tidy ({} : Registry β) := ⟨.init, by simp [retired, places]⟩

theorem Sound.retired_register (hr : r.Sound) (b : β) :
    (n ∈ (r.register b).2.retired ↔ n ∈ r.retired) ∧
      (n ∈ r.retired → (r.register b).2.slots[n]? = r.slots[n]?) := by
  simp only [mem_retired]
  rcases hr.register_cases b with ⟨i, rest, generation, hf, hi, he⟩ | ⟨hf, he⟩
  · obtain ⟨hlt, -⟩ := List.getElem?_eq_some_iff.mp hi
    rw [he, hf]
    -- The slot that is filled was free, so it is retired neither before nor after.
    by_cases hn : i.toNat = n
    · subst hn
      simp [hlt]
    · simp [List.getElem?_set_ne hn, Ne.symm hn]
  · rw [he, hf]
    rcases Nat.lt_trichotomy n r.slots.length with hlt | rfl | hlt
    · simp [List.getElem?_append_left hlt]
    · simp
    · simp [List.getElem?_eq_none (Nat.le_of_lt hlt), List.getElem?_append_right (Nat.le_of_lt hlt),
        List.getElem?_eq_none (l := [_]) (Nat.le_sub_of_add_le' hlt)]

theorem Empties.retired {id : BackendId} {b : β} (h : r.Empties id b r') (hr : r.Sound) :
    n ∈ r'.retired ↔ n ∈ r.retired ∨ n = id.index.toNat ∧ id.generation = lastGeneration := by
  simp only [mem_retired]
  by_cases hn : n = id.index.toNat
  · subst hn
    have hi := h.not_mem_free hr
    rcases h.after with ⟨hl, hf, hs⟩ | ⟨hlt, hf, hs⟩
    · simp [h.before, hs, hf, hl, hi, UInt32.toNat_inj]
    · have hne : id.generation ≠ lastGeneration := fun he => absurd (he ▸ hlt) (by decide)
      simp [h.before, hf, hne]
  · rw [h.others n hn]
    rcases h.after with ⟨-, hf, -⟩ | ⟨-, hf, -⟩ <;> simp [hf, hn]

theorem Tidy.register (hr : r.Tidy) (b : β) : (r.register b).2.Tidy := by
  refine ⟨hr.toSound.register b, fun n hn => ?_⟩
  obtain ⟨hiff, hkeep⟩ := hr.toSound.retired_register (n := n) b
  rw [hkeep (hiff.mp hn)]
  exact hr.last n (hiff.mp hn)

theorem Empties.tidy {id : BackendId} {b : β} (h : r.Empties id b r') (hr : r.Tidy) : r'.Tidy := by
  refine ⟨h.sound hr.toSound, fun n hn => ?_⟩
  rcases (h.retired hr.toSound).mp hn with hold | ⟨rfl, hl⟩
  · have hne : n ≠ id.index.toNat := by
      rintro rfl
      have hlast := hr.last _ hold
      simp [h.before] at hlast
    rw [h.others n hne]
    exact hr.last n hold
  · rcases h.after with ⟨-, -, hs⟩ | ⟨hlt, -, -⟩
    · rw [hs, hl]
    · exact absurd (hl ▸ hlt) (by decide)

namespace Account

variable {a : Account β}

theorem step_tidy (ha : a.registry.Tidy) (op : Op β) : (a.step op).registry.Tidy := by
  cases op with
  | register b => exact ha.register b
  | unregister id =>
    rw [registry_unregister]
    rcases unregister_cases a.registry id with ⟨-, he⟩ | ⟨b, -, -, h⟩
    · rwa [he]
    · exact h.tidy ha

theorem retired_step (ha : a.registry.Sound) (op : Op β) :
    a.registry.retired ⊆ (a.step op).registry.retired := by
  intro n hn
  cases op with
  | register b => exact (ha.retired_register b).1.mpr hn
  | unregister id =>
    rw [registry_unregister]
    rcases unregister_cases a.registry id with ⟨-, he⟩ | ⟨b, -, -, h⟩
    · rwa [he]
    · exact (h.retired ha).mpr (.inl hn)

theorem retired_steps (ha : a.registry.Sound) (ops : List (Op β)) :
    a.registry.retired ⊆ (ops.foldl step a).registry.retired := by
  induction ops generalizing a with
  | nil => exact fun _ h => h
  | cons op rest ih => exact fun _ h => ih (step_sound ha op) (retired_step ha op h)

/-- A slot is added only when none is free. -/
theorem length_step (a : Account β) (op : Op β) :
    (a.step op).registry.slots.length = a.registry.slots.length ∨
      (a.step op).registry.free = [] := by
  cases op with
  | register b =>
    rw [step_register]
    simp only [Registry.register]
    split <;> simp
  | unregister id =>
    rw [registry_unregister, Registry.unregister]
    split
    · exact .inl rfl
    · split <;> simp

end Account

-- ---------------------------------------------------------------------------
-- Runs
-- ---------------------------------------------------------------------------

theorem run_step (ops : List (Op β)) (op : Op β) : run (ops ++ [op]) = (run ops).step op :=
  run_append ops [op]

theorem run_tidy (ops : List (Op β)) : (run ops).registry.Tidy := by
  induction ops using List.reverseRecOn with
  | nil => exact .init
  | append_singleton ops op ih =>
    rw [run_step]
    exact Account.step_tidy ih op

/-- At some time of a run there were so many backends that, with the slots retired by its end, there
is none too many. -/
theorem length_le_size_add_retired (ops : List (Op β)) :
    ∃ before, before <+: ops ∧
      (run ops).registry.slots.length ≤
        (run before).registry.size + (run ops).registry.retired.length := by
  induction ops using List.reverseRecOn with
  | nil => exact ⟨[], List.prefix_rfl, Nat.zero_le _⟩
  | append_singleton ops op ih =>
    rcases Account.length_step (run ops) op with hlen | hfree
    · obtain ⟨before, hbefore, hle⟩ := ih
      refine ⟨before, hbefore.trans (List.prefix_append ops [op]), ?_⟩
      have hsub := Account.retired_step (run_sound ops) op
      have hret := (nodup_retired.subperm hsub).length_le
      rw [run_step, hlen]
      omega
    · -- The slot that is new holds a backend, and so does every other that is not retired.
      refine ⟨ops ++ [op], List.prefix_rfl, ?_⟩
      have hcount := (run_sound (ops ++ [op])).length_slots
      rw [run_step] at hcount ⊢
      rw [hcount, hfree]
      exact Nat.le_refl _

/-- The largest number of backends that were in at once during a run. -/
structure Peak (ops : List (Op β)) (n : Nat) : Prop where
  reached : ∃ before, before <+: ops ∧ (run before).registry.size = n
  bound : ∀ before, before <+: ops → (run before).registry.size ≤ n

theorem size_le_length {before ops : List (Op β)} (h : before <+: ops) :
    (run before).registry.size ≤ (run ops).registry.slots.length := by
  obtain ⟨later, rfl⟩ := h
  rw [run_append]
  exact Nat.le_trans List.countP_le_length (length_le_steps _ later)

theorem peak_of_retired {ops : List (Op β)} (h : (run ops).registry.retired = []) :
    Peak ops (run ops).registry.slots.length := by
  obtain ⟨before, hbefore, hle⟩ := length_le_size_add_retired ops
  rw [h] at hle
  exact ⟨⟨before, hbefore, Nat.le_antisymm (size_le_length hbefore) hle⟩, fun _ => size_le_length⟩

/-- After every run, whatever ids were taken out: the free slots are named once and are empty; an
empty slot that is not free is in its last generation and stays as it is, whatever is done later;
and each slot holds a backend, is free or is retired. If none is retired, there are as many slots as
there were ever backends at once. -/
theorem run_accounts_for_slots (ops : List (Op β)) :
    let r := (run ops).registry
    r.free.Nodup ∧
    (∀ i ∈ r.free, ∃ generation, r.slots[i.toNat]? = some ⟨generation, none⟩) ∧
    (∀ n slot, r.slots[n]? = some slot → slot.occupant = none → n ∉ r.free.map UInt32.toNat →
      slot.generation = lastGeneration ∧
        ∀ later, (run (ops ++ later)).registry.slots[n]? = some ⟨lastGeneration, none⟩) ∧
    r.slots.length = r.size + r.free.length + r.retired.length ∧
    (r.retired = [] → Peak ops r.slots.length) := by
  intro r
  have hr : r.Tidy := run_tidy ops
  refine ⟨hr.distinct, hr.empty, fun n slot hslot hnone hfree => ?_, hr.length_slots,
    peak_of_retired⟩
  obtain ⟨generation, _⟩ := slot
  obtain rfl := hnone
  have hmem : n ∈ r.retired := mem_retired.mpr ⟨generation, hslot, hfree⟩
  refine ⟨by simpa [hslot] using hr.last n hmem, fun later => ?_⟩
  have hlater : n ∈ (run (ops ++ later)).registry.retired := by
    rw [run_append]
    exact Account.retired_steps hr.toSound later hmem
  exact (run_tidy (ops ++ later)).last n hlater

def churn (b : β) : Nat → List (Op β)
  | 0 => []
  | n + 1 => churn b n ++ [.register b] ++ [.unregister ⟨0, UInt32.ofNat n⟩]

theorem run_churn (b : β) {n : Nat} (h : n < UInt32.size) :
    (run (churn b n ++ [.register b])).registry = ⟨[⟨UInt32.ofNat n, some b⟩], []⟩ := by
  induction n with
  | zero => rfl
  | succ n ih =>
    have hlast : UInt32.ofNat n ≠ lastGeneration := by
      intro he
      have hn := congrArg UInt32.toNat he
      rw [UInt32.toNat_ofNat_of_lt' (Nat.lt_of_succ_lt h)] at hn
      exact absurd (hn ▸ h) (by decide)
    rw [run_step, Account.step_register, churn, run_step, Account.registry_unregister,
      ih (Nat.lt_of_succ_lt h)]
    simp [Registry.unregister, Registry.register, Registry.get?, hlast]

theorem retired_churn (b : β) :
    (run (churn b UInt32.size)).registry = ⟨[⟨lastGeneration, none⟩], []⟩ := by
  obtain ⟨n, hn, hlast⟩ : ∃ n, UInt32.size = n + 1 ∧ UInt32.ofNat n = lastGeneration :=
    ⟨4294967295, rfl, rfl⟩
  rw [hn, churn, run_step, Account.registry_unregister, run_churn b (by omega), hlast]
  simp [Registry.unregister, Registry.get?]

/-- The first slot is retired once it has been through all generations, and stays so; and a run that
registers three backends, one of them after another was taken out, needs two slots. -/
theorem run_accounts_for_slots_of_churn :
    (∀ later, (run (churn 7 UInt32.size ++ later)).registry.slots[0]? =
      some ⟨lastGeneration, none⟩) ∧
    Peak [.register 7, .register 8, .unregister ⟨0, 0⟩, .unregister ⟨5, 9⟩, .register 9] 2 := by
  have hrun := retired_churn 7
  have hslot : (run (churn 7 UInt32.size)).registry.slots[0]? = some ⟨lastGeneration, none⟩ := by
    rw [hrun]
    rfl
  have hfree : 0 ∉ (run (churn 7 UInt32.size)).registry.free.map UInt32.toNat := by
    rw [hrun]
    exact List.not_mem_nil
  exact ⟨((run_accounts_for_slots (churn 7 UInt32.size)).2.2.1 0 _ hslot rfl hfree).2,
    (run_accounts_for_slots _).2.2.2.2 (by decide)⟩

end Precompiled.Registry
