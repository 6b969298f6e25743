import Precompiled.Bind
import Precompiled.Proofs.Attempt
import Precompiled.Proofs.Registry.Run

/-!
# An id names one backend, once

Over every run in which each slot has an index that an id can hold: an id that registering gives
was never given before, names its backend until it is taken out, and names nothing from then on.
Slots that come to their last generation are part of this: they are never filled again.
-/

namespace Precompiled.Registry

variable {β : Type}

/-- All that can be asked about an id is answered by one backend. -/
structure Serves (r : Registry β) (id : BackendId) (b : β) : Prop where
  contains : r.contains id = true
  found : r.get? id = some b
  asked : ∀ (γ : Type) (ask : β → γ), (r.get? id).map ask = some (ask b)
  taken : (r.unregister id).1 = some b

/-- Nothing is there under an id, and a module bound against it, in whatever registry, is not
live. -/
structure Disowns (r : Registry β) (id : BackendId) : Prop where
  contains : r.contains id = false
  found : r.get? id = none
  taken : r.unregister id = (none, r)
  stale : ∀ (home : Registry Backend) (o : LoadOptions) (metadata : Metadata) (m : Module),
    (home.bind id o metadata).outcome = .ok m → m.isLive r = false

-- ---------------------------------------------------------------------------
-- From the map of ids to what is asked
-- ---------------------------------------------------------------------------

theorem serves_of_get? {r : Registry β} {id : BackendId} {b : β} (h : r.get? id = some b) :
    r.Serves id b := by
  refine ⟨by simp [Registry.contains, h], h, fun _ ask => by simp [h], ?_⟩
  rcases unregister_cases r id with ⟨hn, -⟩ | ⟨b', hb, hgiven, -⟩
  · simp [hn] at h
  · rw [hgiven, ← hb, h]

theorem bind_backend {r : Registry Backend} {id : BackendId} {o : LoadOptions}
    {metadata : Metadata} {m : Module} (h : (r.bind id o metadata).outcome = .ok m) :
    m.backend = id := by
  unfold Registry.bind at h
  split at h
  · simp only [Backend.bind, Attempt.outcome_bind, bind_ok, Attempt.outcome_pure,
      Except.ok.injEq] at h
    obtain ⟨_, -, _, -, _, -, _, -, rfl⟩ := h
    rfl
  · simp at h

theorem disowns_of_get? {r : Registry β} {id : BackendId} (h : r.get? id = none) :
    r.Disowns id := by
  refine ⟨by simp [Registry.contains, h], h, unregister_of_get?_eq_none h, ?_⟩
  intro home o metadata m hm
  simp [Module.isLive, Registry.contains, bind_backend hm, h]

-- ---------------------------------------------------------------------------
-- Along a run
-- ---------------------------------------------------------------------------

theorem Account.Agrees.get?_step {a : Account β} (ha : a.Agrees) {id : BackendId} {b : β}
    (hb : a.registry.get? id = some b) {op : Op β} (hop : op ≠ .unregister id)
    (fits : (a.step op).registry.Fits) : (a.step op).registry.get? id = some b := by
  cases op with
  | register b' =>
    have h := ha.sound.register_fills fits
    have hne : id ≠ (a.registry.register b').1 := fun he => by
      have hmem := (ha.live id).mp (by simp [hb])
      exact h.not_spent (he ▸ ha.spent id (List.mem_filter.mp hmem).1)
    rw [Account.step_register, h.get? id, if_neg hne, hb]
  | unregister id' =>
    rcases unregister_cases a.registry id' with ⟨-, he⟩ | ⟨b', -, hgiven, h⟩
    · rwa [Account.step_unregister_none he]
    · have hne : id ≠ id' := fun he => hop (he ▸ rfl)
      rw [Account.step_unregister hgiven, h.get? id, if_neg hne, hb]

theorem Account.Agrees.get?_steps {a : Account β} (ha : a.Agrees) {id : BackendId} {b : β}
    (hb : a.registry.get? id = some b) {ops : List (Op β)} (hops : Op.unregister id ∉ ops)
    (fits : (ops.foldl Account.step a).registry.Fits) :
    (ops.foldl Account.step a).registry.get? id = some b := by
  induction ops generalizing a with
  | nil => exact hb
  | cons op rest ih =>
    rw [List.mem_cons, not_or] at hops
    have hfits : (a.step op).registry.Fits := Fits.of_steps fits
    exact ih (ha.step op hfits) (ha.get?_step hb (Ne.symm hops.1) hfits) hops.2 fits

theorem returned_step (a : Account β) (op : Op β) : a.returned ⊆ (a.step op).returned := by
  cases op with
  | register b => exact fun _ h => h
  | unregister id =>
    rcases unregister_cases a.registry id with ⟨-, he⟩ | ⟨b, -, hgiven, -⟩
    · rw [Account.step_unregister_none he]
      exact fun _ h => h
    · rw [Account.step_unregister hgiven]
      exact List.subset_cons_self _ _

theorem returned_steps (a : Account β) (ops : List (Op β)) :
    a.returned ⊆ (ops.foldl Account.step a).returned := by
  induction ops generalizing a with
  | nil => exact fun _ h => h
  | cons op rest ih => exact fun _ h => ih _ (returned_step a op h)

theorem Account.Agrees.get?_of_returned {a : Account β} (ha : a.Agrees) {id : BackendId}
    (h : id ∈ a.returned) : a.registry.get? id = none := by
  have hn : id ∉ a.outstanding := by simp [outstanding, h]
  simpa using mt (ha.live id).mp hn

-- ---------------------------------------------------------------------------
-- The life of an id
-- ---------------------------------------------------------------------------

/-- A backend that is registered after any run gets an id that the run never gave. The id serves
that backend whatever else is done, until it is taken out; it is disowned whatever is done then.
Taking out an id that names nothing changes nothing, and the size is the number of ids that were
given and not returned. -/
theorem run_tracks_ids :
    (∀ (before : List (Op β)) (b : β), (run (before ++ [.register b])).registry.Fits →
      ∀ id, id = ((run before).registry.register b).1 →
      id ∉ (run before).given ∧
      ∀ between, Op.unregister id ∉ between →
        (run (before ++ .register b :: between)).registry.Fits →
        (run (before ++ .register b :: between)).registry.Serves id b ∧
        ∀ later, (run (before ++ .register b :: between ++ .unregister id :: later)).registry.Fits →
          (run (before ++ .register b :: between ++ .unregister id :: later)).registry.Disowns id) ∧
    (∀ (ops : List (Op β)) (id : BackendId), ((run ops).registry.unregister id).1 = none →
      ((run ops).registry.unregister id).2 = (run ops).registry) ∧
    (∀ ops : List (Op β), (run ops).registry.Fits →
      (run ops).registry.size = (run ops).outstanding.length) := by
  refine ⟨?_, ?_, fun ops fits => (run_agrees fits).size⟩
  · intro before b fits id hid
    rw [run_append] at fits
    have ha : (run before).Agrees := run_agrees (Fits.of_steps fits)
    have h := ha.sound.register_fills (b := b) fits
    rw [← hid] at h
    refine ⟨fun hm => h.not_spent (ha.spent id hm), fun between hbetween fits => ?_⟩
    rw [run_append, List.foldl_cons] at fits ⊢
    -- The backend keeps its entry up to the removal, and the id is returned from then on.
    have hreg : ((run before).step (.register b)).Agrees := ha.step _ (Fits.of_steps fits)
    have hnew : ((run before).step (.register b)).registry.get? id = some b := by
      rw [Account.step_register, h.get? id, if_pos rfl]
    have hb := hreg.get?_steps hnew hbetween fits
    refine ⟨serves_of_get? hb, fun later fits => ?_⟩
    have hall := run_agrees fits
    rw [run_append, run_append, List.foldl_cons, List.foldl_cons,
      Account.step_unregister (serves_of_get? hb).taken] at hall ⊢
    exact disowns_of_get? (hall.get?_of_returned (returned_steps _ _ (by simp)))
  · intro ops id hn
    rcases unregister_cases (run ops).registry id with ⟨-, he⟩ | ⟨b, -, hgiven, -⟩
    · rw [he]
    · simp [hgiven] at hn

/-- A slot that is filled again gives another id; the old id does not name the new backend, and the
new one serves and is disowned in its turn. -/
theorem run_tracks_ids_of_refilled_slot :
    let before : List (Op String) := [.register "old", .unregister ⟨0, 0⟩]
    let serving := before ++ .register "new" :: [.unregister ⟨0, 0⟩, .register "other"]
    let gone := serving ++ .unregister ⟨0, 1⟩ :: [.register "last"]
    ⟨0, 1⟩ ∉ (run before).given ∧ (run serving).registry.Serves ⟨0, 1⟩ "new" ∧
      (run gone).registry.Disowns ⟨0, 1⟩ ∧
      (run gone).registry.size = (run gone).outstanding.length := by
  intro before serving gone
  obtain ⟨fresh, h⟩ := run_tracks_ids.1 before "new" (by decide) ⟨0, 1⟩ (by decide)
  obtain ⟨serves, h⟩ := h [.unregister ⟨0, 0⟩, .register "other"] (by simp) (by decide)
  exact ⟨fresh, serves, h [.register "last"] (by decide), run_tracks_ids.2.2 gone (by decide)⟩

end Precompiled.Registry
