import Precompiled.Registry

/-!
# Runs of a registry

A run registers backends and takes ids out, whatever ids these are. Its account keeps, beside the
registry, the ids that were given and those whose backend was handed back. The registry is read as
a map from ids to backends: registering adds one entry under an id that was never given, taking an
id out removes its entry, and no other entry is touched (`get?_register`, `get?_unregister`).

The slots stay `Sound` and every id given stays `Spent`: no later registration gives it.
-/

namespace Precompiled.Registry

variable {β : Type}

-- ---------------------------------------------------------------------------
-- Operations and runs
-- ---------------------------------------------------------------------------

inductive Op (β : Type) where
  | register (b : β)
  | unregister (id : BackendId)

/-- A registry with what has been done to it, latest first. -/
structure Account (β : Type) where
  registry : Registry β := {}
  given : List BackendId := []
  returned : List BackendId := []

def Account.step (a : Account β) : Op β → Account β
  | .register b =>
    let (id, r) := a.registry.register b
    { a with registry := r, given := id :: a.given }
  | .unregister id =>
    match a.registry.unregister id with
    | (some _, r) => { a with registry := r, returned := id :: a.returned }
    | (none, r) => { a with registry := r }

def Account.outstanding (a : Account β) : List BackendId := a.given.filter (· ∉ a.returned)

def run (ops : List (Op β)) : Account β := ops.foldl Account.step {}

theorem run_append (first second : List (Op β)) :
    run (first ++ second) = second.foldl Account.step (run first) := List.foldl_append

/-- Whether every slot has an index that an id can hold. -/
def Fits (r : Registry β) : Prop := r.slots.length ≤ UInt32.size

instance (r : Registry β) : Decidable r.Fits := inferInstanceAs (Decidable (_ ≤ _))

-- ---------------------------------------------------------------------------
-- The slots
-- ---------------------------------------------------------------------------

/-- The free slots are there, empty and named once. -/
structure Sound (r : Registry β) : Prop where
  distinct : r.free.Nodup
  empty : ∀ i ∈ r.free, ∃ generation, r.slots[i.toNat]? = some ⟨generation, none⟩

/-- Every later registration gives another id: the slot has gone past the id's generation, or is
not free in it. -/
def Spent (r : Registry β) (id : BackendId) : Prop :=
  ∃ slot, r.slots[id.index.toNat]? = some slot ∧
    (id.generation < slot.generation ∨ id.generation = slot.generation ∧ id.index ∉ r.free)

theorem get?_of_slot {r : Registry β} {id : BackendId} {slot : Slot β}
    (h : r.slots[id.index.toNat]? = some slot) :
    r.get? id = if slot.generation = id.generation then slot.occupant else none := by
  simp [get?, h]

theorem get?_of_no_slot {r : Registry β} {id : BackendId}
    (h : r.slots[id.index.toNat]? = none) : r.get? id = none := by
  simp [get?, h]

theorem get?_congr {r r' : Registry β} {id : BackendId}
    (h : r'.slots[id.index.toNat]? = r.slots[id.index.toNat]?) : r'.get? id = r.get? id := by
  simp [get?, h]

theorem get?_eq_some_iff {r : Registry β} {id : BackendId} {b : β} :
    r.get? id = some b ↔ r.slots[id.index.toNat]? = some ⟨id.generation, some b⟩ := by
  cases h : r.slots[id.index.toNat]? with
  | none => simp [get?_of_no_slot h]
  | some slot =>
    obtain ⟨generation, occupant⟩ := slot
    by_cases hg : generation = id.generation <;> simp [get?_of_slot h, hg]

attribute [ext] BackendId

theorem index_ne {a b : BackendId} (h : a.index ≠ b.index) :
    a.index.toNat ≠ b.index.toNat := fun he => h (UInt32.toNat_inj.mp he)

theorem Sound.init : Sound ({} : Registry β) := ⟨List.nodup_nil, by simp⟩

-- ---------------------------------------------------------------------------
-- Registering
-- ---------------------------------------------------------------------------

/-- What registering does: the slot of the new id is filled in the id's generation and no other
slot is touched. The slot was not there, or it was the next free one. -/
structure Fills (r : Registry β) (b : β) (id : BackendId) (r' : Registry β) : Prop where
  filled : r'.slots[id.index.toNat]? = some ⟨id.generation, some b⟩
  others : ∀ j, j ≠ id.index.toNat → r'.slots[j]? = r.slots[j]?
  before : (r.slots[id.index.toNat]? = none ∧ r.free = [] ∧ r'.free = []) ∨
    (r.slots[id.index.toNat]? = some ⟨id.generation, none⟩ ∧ r.free = id.index :: r'.free)
  size : r'.size = r.size + 1

theorem Sound.register_fills {r : Registry β} (hr : r.Sound) {b : β}
    (fits : (r.register b).2.Fits) : r.Fills b (r.register b).1 (r.register b).2 := by
  cases hf : r.free with
  | cons i rest =>
    obtain ⟨generation, hi⟩ := hr.empty i (by simp [hf])
    obtain ⟨hlt, hget⟩ := List.getElem?_eq_some_iff.mp hi
    have he : r.register b =
        (⟨i, generation⟩, ⟨r.slots.set i.toNat ⟨generation, some b⟩, rest⟩) := by
      simp [register, hf, hi]
    rw [he]
    refine ⟨by simp [hlt], ?_, .inr ⟨hi, hf⟩, by simp [size, List.countP_set hlt, hget]⟩
    intro j hj
    exact List.getElem?_set_ne hj.symm
  | nil =>
    have he :
        r.register b = (⟨UInt32.ofNat r.slots.length, 0⟩, ⟨r.slots ++ [⟨0, some b⟩], []⟩) := by
      simp [register, hf]
    rw [he] at fits ⊢
    -- The bound on the slots keeps the place of the new one from wrapping to another.
    have hn : (UInt32.ofNat r.slots.length).toNat = r.slots.length :=
      UInt32.toNat_ofNat_of_lt' (by
        simp only [Fits, List.length_append, List.length_singleton] at fits
        omega)
    refine ⟨by simp only [hn]; simp, ?_, .inl ⟨by simp only [hn]; simp, hf, rfl⟩,
      by simp [size, List.countP_append]⟩
    intro j hj
    simp only [hn] at hj
    simp only [List.getElem?_append, List.getElem?_singleton]
    split
    · rfl
    · rw [if_neg (by omega), List.getElem?_eq_none (by omega)]

theorem length_le_register (r : Registry β) (b : β) :
    r.slots.length ≤ (r.register b).2.slots.length := by
  unfold register
  split <;> simp

namespace Fills

variable {r r' : Registry β} {b : β} {id : BackendId}

theorem get?_before (h : r.Fills b id r') {other : BackendId} (hx : other.index = id.index) :
    r.get? other = none := by
  have hb := h.before
  rw [← hx] at hb
  rcases hb with ⟨hn, -⟩ | ⟨he, -⟩
  · exact get?_of_no_slot hn
  · simp [get?_of_slot he]

theorem get? (h : r.Fills b id r') (other : BackendId) :
    r'.get? other = if other = id then some b else r.get? other := by
  by_cases hx : other.index = id.index
  · have hf := h.filled
    rw [← hx] at hf
    rw [h.get?_before hx, get?_of_slot hf]
    by_cases hg : id.generation = other.generation
    · simp [hg, BackendId.ext_iff, hx]
    · simp [hg, Ne.symm hg, BackendId.ext_iff]
  · rw [if_neg (by simp [BackendId.ext_iff, hx]), get?_congr (h.others _ (index_ne hx))]

theorem not_spent (h : r.Fills b id r') : ¬ r.Spent id := by
  rintro ⟨slot, hslot, hs⟩
  rcases h.before with ⟨hn, -⟩ | ⟨he, hf⟩
  · simp [hn] at hslot
  · rw [he, Option.some.injEq] at hslot
    subst hslot
    rcases hs with hs | ⟨-, hs⟩
    · exact absurd hs (UInt32.lt_irrefl _)
    · exact hs (by simp [hf])

theorem free_subset (h : r.Fills b id r') : r'.free ⊆ r.free := by
  rcases h.before with ⟨-, hf, hf'⟩ | ⟨-, hf⟩
  · simp [hf, hf']
  · simp [hf]

theorem not_mem_free (h : r.Fills b id r') (hr : r.Sound) : id.index ∉ r'.free := by
  rcases h.before with ⟨-, -, hf'⟩ | ⟨-, hf⟩
  · simp [hf']
  · have hd := hr.distinct
    rw [hf, List.nodup_cons] at hd
    exact hd.1

theorem sound (h : r.Fills b id r') (hr : r.Sound) : r'.Sound := by
  constructor
  · rcases h.before with ⟨-, -, hf'⟩ | ⟨-, hf⟩
    · simp [hf']
    · have hd := hr.distinct
      rw [hf, List.nodup_cons] at hd
      exact hd.2
  · intro j hj
    have hne : j.toNat ≠ id.index.toNat := fun he =>
      h.not_mem_free hr (UInt32.toNat_inj.mp he ▸ hj)
    rw [h.others _ hne]
    exact hr.empty j (h.free_subset hj)

theorem spent_self (h : r.Fills b id r') (hr : r.Sound) : r'.Spent id :=
  ⟨_, h.filled, .inr ⟨rfl, h.not_mem_free hr⟩⟩

theorem spent (h : r.Fills b id r') {other : BackendId} (hs : r.Spent other) : r'.Spent other := by
  obtain ⟨slot, hslot, hs⟩ := hs
  have hf : other.index ∉ r.free → other.index ∉ r'.free := fun hn hm => hn (h.free_subset hm)
  by_cases hx : other.index = id.index
  · rcases h.before with ⟨hn, -⟩ | ⟨he, -⟩
    · simp [hx, hn] at hslot
    · rw [hx, he, Option.some.injEq] at hslot
      subst hslot
      exact ⟨⟨id.generation, some b⟩, hx ▸ h.filled, hs.imp (fun hg => hg) (And.imp_right hf)⟩
  · exact ⟨slot, by rw [h.others _ (index_ne hx), hslot],
      hs.imp (fun hg => hg) (And.imp_right hf)⟩

end Fills

-- ---------------------------------------------------------------------------
-- Taking out
-- ---------------------------------------------------------------------------

/-- What taking out a backend does: its slot is emptied, and it is free in the next generation if
there is one. -/
structure Empties (r : Registry β) (id : BackendId) (b : β) (r' : Registry β) : Prop where
  before : r.slots[id.index.toNat]? = some ⟨id.generation, some b⟩
  others : ∀ j, j ≠ id.index.toNat → r'.slots[j]? = r.slots[j]?
  after :
    (id.generation = lastGeneration ∧ r'.free = r.free ∧
      r'.slots[id.index.toNat]? = some ⟨id.generation, none⟩) ∨
    (id.generation < id.generation + 1 ∧ r'.free = id.index :: r.free ∧
      r'.slots[id.index.toNat]? = some ⟨id.generation + 1, none⟩)
  size : r'.size + 1 = r.size

theorem lt_add_one_of_ne_last {generation : UInt32} (h : generation ≠ lastGeneration) :
    generation < generation + 1 := by
  have hn : generation.toNat ≠ 4294967295 := fun he => h (UInt32.toNat_inj.mp he)
  rw [UInt32.lt_iff_toNat_lt, UInt32.toNat_add]
  have := generation.toNat_lt
  simp only [UInt32.reduceToNat]
  omega

/-- Taking out changes nothing if the id names no backend, and hands back the one that it names. -/
theorem unregister_cases (r : Registry β) (id : BackendId) :
    (r.get? id = none ∧ r.unregister id = (none, r)) ∨
    (∃ b, r.get? id = some b ∧ (r.unregister id).1 = some b ∧
      r.Empties id b (r.unregister id).2) := by
  cases hg : r.get? id with
  | none => exact .inl ⟨rfl, unregister_of_get?_eq_none hg⟩
  | some b =>
    refine .inr ⟨b, rfl, ?_⟩
    have hb := get?_eq_some_iff.mp hg
    obtain ⟨hlt, hget⟩ := List.getElem?_eq_some_iff.mp hb
    have hpos : 0 < r.size := by
      simp only [size, List.countP_pos_iff]
      exact ⟨_, List.mem_of_getElem hget, by simp⟩
    by_cases hl : id.generation = lastGeneration
    · have he : r.unregister id =
          (some b, { r with slots := r.slots.set id.index.toNat ⟨id.generation, none⟩ }) := by
        simp [unregister, hg, hl]
      rw [he]
      refine ⟨rfl, hb, fun j hj => List.getElem?_set_ne hj.symm, .inl ⟨hl, rfl, by simp [hlt]⟩, ?_⟩
      simp only [size] at hpos ⊢
      simp [List.countP_set hlt, hget]
      omega
    · have he : r.unregister id = (some b,
          ⟨r.slots.set id.index.toNat ⟨id.generation + 1, none⟩, id.index :: r.free⟩) := by
        simp [unregister, hg, hl]
      rw [he]
      refine ⟨rfl, hb, fun j hj => List.getElem?_set_ne hj.symm,
        .inr ⟨lt_add_one_of_ne_last hl, rfl, by simp [hlt]⟩, ?_⟩
      simp only [size] at hpos ⊢
      simp [List.countP_set hlt, hget]
      omega

namespace Empties

variable {r r' : Registry β} {b : β} {id : BackendId}

theorem get?_of_index (h : r.Empties id b r') {other : BackendId} (hx : other.index = id.index) :
    r'.get? other = none := by
  rcases h.after with ⟨-, -, hs⟩ | ⟨-, -, hs⟩ <;> rw [← hx] at hs <;> simp [get?_of_slot hs]

theorem get? (h : r.Empties id b r') (other : BackendId) :
    r'.get? other = if other = id then none else r.get? other := by
  by_cases hx : other.index = id.index
  · have hb := h.before
    rw [← hx] at hb
    rw [h.get?_of_index hx, get?_of_slot hb]
    by_cases hg : id.generation = other.generation
    · simp [hg, BackendId.ext_iff, hx]
    · simp [hg]
  · rw [if_neg (by simp [BackendId.ext_iff, hx]), get?_congr (h.others _ (index_ne hx))]

theorem not_mem_free (h : r.Empties id b r') (hr : r.Sound) : id.index ∉ r.free := by
  intro hi
  obtain ⟨generation, he⟩ := hr.empty _ hi
  simp [h.before] at he

theorem sound (h : r.Empties id b r') (hr : r.Sound) : r'.Sound := by
  have hi := h.not_mem_free hr
  have hempty : ∀ j ∈ r.free, ∃ generation, r'.slots[j.toNat]? = some ⟨generation, none⟩ := by
    intro j hj
    have hne : j.toNat ≠ id.index.toNat := fun he => hi (UInt32.toNat_inj.mp he ▸ hj)
    rw [h.others _ hne]
    exact hr.empty j hj
  rcases h.after with ⟨-, hf, -⟩ | ⟨-, hf, hs⟩
  · exact ⟨hf ▸ hr.distinct, hf ▸ hempty⟩
  · refine ⟨hf ▸ List.nodup_cons.mpr ⟨hi, hr.distinct⟩, fun j hj => ?_⟩
    rw [hf, List.mem_cons] at hj
    rcases hj with rfl | hj
    · exact ⟨_, hs⟩
    · exact hempty j hj

theorem spent (h : r.Empties id b r') {other : BackendId} (hs : r.Spent other) :
    r'.Spent other := by
  obtain ⟨slot, hslot, hs⟩ := hs
  by_cases hx : other.index = id.index
  · rw [hx, h.before, Option.some.injEq] at hslot
    subst hslot
    rcases h.after with ⟨-, hf, ha⟩ | ⟨hlt, hf, ha⟩
    · exact ⟨_, hx ▸ ha, by rwa [hf]⟩
    · refine ⟨_, hx ▸ ha, .inl ?_⟩
      rcases hs with hs | ⟨hs, -⟩
      · exact UInt32.lt_trans hs hlt
      · exact hs ▸ hlt
  · refine ⟨slot, by rw [h.others _ (index_ne hx), hslot], ?_⟩
    rcases h.after with ⟨-, hf, -⟩ | ⟨-, hf, -⟩
    · rwa [hf]
    · exact hs.imp (fun hg => hg) (And.imp_right fun hn => by simp [hf, hx, hn])

end Empties

-- ---------------------------------------------------------------------------
-- Steps and runs
-- ---------------------------------------------------------------------------

/-- What a run keeps: the account agrees with the slots. The ids that name a backend are those that
were given and not returned. -/
structure Account.Agrees (a : Account β) : Prop where
  sound : a.registry.Sound
  spent : ∀ id ∈ a.given, a.registry.Spent id
  distinct : a.given.Nodup
  known : a.returned ⊆ a.given
  live : ∀ id, (a.registry.get? id).isSome ↔ id ∈ a.outstanding
  size : a.registry.size = a.outstanding.length

theorem Account.agrees_init : Account.Agrees ({} : Account β) :=
  ⟨.init, by simp, List.nodup_nil, by simp, by simp [Registry.get?, outstanding], rfl⟩

theorem length_le_step (a : Account β) (op : Op β) :
    a.registry.slots.length ≤ (a.step op).registry.slots.length := by
  cases op with
  | register b => exact length_le_register _ b
  | unregister id =>
    simp only [Account.step, unregister]
    split <;> rename_i h
    all_goals
      split at h
      · cases h; try exact Nat.le_refl _
      · split at h <;> cases h <;> simp

theorem length_le_steps (a : Account β) (ops : List (Op β)) :
    a.registry.slots.length ≤ (ops.foldl Account.step a).registry.slots.length := by
  induction ops generalizing a with
  | nil => exact Nat.le_refl _
  | cons op rest ih => exact Nat.le_trans (length_le_step a op) (ih _)

theorem Fits.of_steps {a : Account β} {ops : List (Op β)}
    (h : (ops.foldl Account.step a).registry.Fits) : a.registry.Fits :=
  Nat.le_trans (length_le_steps a ops) h

theorem Account.step_register (a : Account β) (b : β) :
    a.step (.register b) =
      ⟨(a.registry.register b).2, (a.registry.register b).1 :: a.given, a.returned⟩ := rfl

theorem Account.step_unregister {a : Account β} {id : BackendId} {b : β}
    (h : (a.registry.unregister id).1 = some b) :
    a.step (.unregister id) = ⟨(a.registry.unregister id).2, a.given, id :: a.returned⟩ := by
  simp only [step]
  split <;> rename_i hu
  · rw [hu]
  · simp [hu] at h

theorem Account.step_unregister_none {a : Account β} {id : BackendId}
    (h : a.registry.unregister id = (none, a.registry)) : a.step (.unregister id) = a := by
  simp [step, h]

theorem Account.Agrees.register {a : Account β} (ha : a.Agrees) {b : β}
    (fits : (a.registry.register b).2.Fits) : (a.step (.register b)).Agrees := by
  have h := ha.sound.register_fills fits
  rw [Account.step_register]
  generalize (a.registry.register b).1 = id, (a.registry.register b).2 = r' at h
  have hnew : id ∉ a.given := fun hm => h.not_spent (ha.spent _ hm)
  have hout : Account.outstanding ⟨r', id :: a.given, a.returned⟩ = id :: a.outstanding := by
    have hold : id ∉ a.returned := fun hm => hnew (ha.known hm)
    simp [Account.outstanding, hold]
  constructor
  · exact h.sound ha.sound
  · intro other ho
    rcases List.mem_cons.mp ho with rfl | ho
    · exact h.spent_self ha.sound
    · exact h.spent (ha.spent other ho)
  · exact List.nodup_cons.mpr ⟨hnew, ha.distinct⟩
  · exact fun other ho => List.mem_cons_of_mem _ (ha.known ho)
  · intro other
    rw [hout, h.get? other, List.mem_cons, ← ha.live other]
    by_cases hx : other = id <;> simp [hx]
  · rw [hout, List.length_cons, ← ha.size, h.size]

theorem Account.Agrees.unregister {a : Account β} (ha : a.Agrees) (id : BackendId) :
    (a.step (.unregister id)).Agrees := by
  rcases unregister_cases a.registry id with ⟨-, he⟩ | ⟨b, hb, hgiven, h⟩
  · rwa [Account.step_unregister_none he]
  rw [Account.step_unregister hgiven]
  generalize (a.registry.unregister id).2 = r' at h
  have hmem : id ∈ a.outstanding := (ha.live id).mp (by simp [hb])
  have hdis : a.outstanding.Nodup := ha.distinct.filter _
  have hout : Account.outstanding ⟨r', a.given, id :: a.returned⟩ = a.outstanding.erase id := by
    rw [hdis.erase_eq_filter, Account.outstanding, Account.outstanding, List.filter_filter]
    refine List.filter_congr fun other _ => ?_
    by_cases hx : other = id <;> simp [hx]
  constructor
  · exact h.sound ha.sound
  · exact fun other ho => h.spent (ha.spent other ho)
  · exact ha.distinct
  · exact List.cons_subset.mpr ⟨(List.mem_filter.mp hmem).1, ha.known⟩
  · intro other
    rw [hout, h.get? other, hdis.mem_erase_iff, ← ha.live other]
    by_cases hx : other = id <;> simp [hx]
  · have := h.size
    rw [hout, List.length_erase_of_mem hmem, ← ha.size]
    simp only
    omega

theorem Account.Agrees.step {a : Account β} (ha : a.Agrees) (op : Op β)
    (fits : (a.step op).registry.Fits) : (a.step op).Agrees := by
  cases op with
  | register b => exact ha.register fits
  | unregister id => exact ha.unregister id

theorem Account.Agrees.steps {a : Account β} (ha : a.Agrees) {ops : List (Op β)}
    (fits : (ops.foldl Account.step a).registry.Fits) : (ops.foldl Account.step a).Agrees := by
  induction ops generalizing a with
  | nil => exact ha
  | cons op rest ih => exact ih (ha.step op (Fits.of_steps fits)) fits

theorem run_agrees {ops : List (Op β)} (fits : (run ops).registry.Fits) : (run ops).Agrees :=
  Account.agrees_init.steps fits

end Precompiled.Registry
