import Precompiled.Attempt

/-!
# Outcomes

The outcome of work that is put together, from the outcomes of its parts. What was told plays no
part in it, so a chain of attempts succeeds or fails like a chain of plain results.
-/

namespace Precompiled

-- ---------------------------------------------------------------------------
-- Results
-- ---------------------------------------------------------------------------

section
variable {ε δ α β γ : Type}

theorem bind_ok {x : Except ε α} {f : α → Except ε β} {b : β} :
    x >>= f = .ok b ↔ ∃ a, x = .ok a ∧ f a = .ok b := by
  cases x <;> simp [bind, Except.bind]

theorem bind_error {x : Except ε α} {f : α → Except ε β} {e : ε} :
    x >>= f = .error e ↔ x = .error e ∨ ∃ a, x = .ok a ∧ f a = .error e := by
  cases x <;> simp [bind, Except.bind]

theorem pure_ok {a b : α} : (pure a : Except ε α) = .ok b ↔ a = b := by
  simp [pure, Except.pure]

theorem bind_isOk {x : Except ε α} {f : α → Except ε β} :
    (∃ b, x >>= f = .ok b) ↔ ∃ a, x = .ok a ∧ ∃ b, f a = .ok b := by
  cases x <;> simp [bind, Except.bind]

theorem pure_isOk (a : α) : ∃ b, (pure a : Except ε α) = .ok b := ⟨a, rfl⟩

theorem mapError_ok {x : Except ε α} {f : ε → δ} {a : α} :
    x.mapError f = .ok a ↔ x = .ok a := by
  cases x with
  | ok value =>
    constructor <;> intro h
    · exact congrArg Except.ok (Except.ok.inj h)
    · exact congrArg Except.ok (Except.ok.inj h)
  | error e => exact ⟨nofun, nofun⟩

theorem mapError_error {x : Except ε α} {f : ε → δ} {e : δ} :
    x.mapError f = .error e ↔ ∃ e', x = .error e' ∧ f e' = e := by
  cases x with
  | ok value => exact ⟨nofun, fun ⟨e', h, _⟩ => nomatch h⟩
  | error e₀ =>
    constructor
    · intro h
      exact ⟨e₀, rfl, Except.error.inj h⟩
    · rintro ⟨e', h, rfl⟩
      cases h
      rfl

theorem mapM_map {write : α → β} {read : β → Except ε α} {xs : List α}
    (h : ∀ x ∈ xs, read (write x) = .ok x) : (xs.map write).mapM read = .ok xs := by
  induction xs with
  | nil => rfl
  | cons x rest ih =>
    rw [List.forall_mem_cons] at h
    rw [List.map_cons, List.mapM_cons, h.1, ih h.2]
    rfl

theorem mapM_zipIdx {write : α → β} {read : β × Nat → Except ε α} {xs : List α}
    (h : ∀ x ∈ xs, ∀ i, read (write x, i) = .ok x) (start : Nat) :
    ((xs.map write).zipIdx start).mapM read = .ok xs := by
  induction xs generalizing start with
  | nil => rfl
  | cons x rest ih =>
    rw [List.forall_mem_cons] at h
    rw [List.map_cons, List.zipIdx_cons, List.mapM_cons, h.1, ih h.2]
    rfl

theorem map_of_mapM {read : α → Except ε β} {write : β → γ} {view : α → γ}
    (h : ∀ x y, read x = .ok y → write y = view x) {xs : List α} {ys : List β}
    (hm : xs.mapM read = .ok ys) : ys.map write = xs.map view := by
  induction xs generalizing ys with
  | nil =>
    rw [List.mapM_nil, pure_ok] at hm
    subst hm
    rfl
  | cons x rest ih =>
    rw [List.mapM_cons, bind_ok] at hm
    obtain ⟨y, hy, hm⟩ := hm
    obtain ⟨others, ho, hm⟩ := bind_ok.mp hm
    rw [pure_ok] at hm
    subst hm
    rw [List.map_cons, List.map_cons, h x y hy, ih ho]

theorem forall_of_mapM {read : α → Except ε β} {p : β → Prop} (h : ∀ x y, read x = .ok y → p y)
    {xs : List α} {ys : List β} (hm : xs.mapM read = .ok ys) : ∀ y ∈ ys, p y := by
  induction xs generalizing ys with
  | nil =>
    rw [List.mapM_nil, pure_ok] at hm
    subst hm
    simp
  | cons x rest ih =>
    rw [List.mapM_cons, bind_ok] at hm
    obtain ⟨y, hy, hm⟩ := hm
    obtain ⟨others, ho, hm⟩ := bind_ok.mp hm
    rw [pure_ok] at hm
    subst hm
    exact List.forall_mem_cons.mpr ⟨h x y hy, ih ho⟩

theorem mapM_isOk {read : α → Except ε β} {p : α → Prop} (h : ∀ x, (∃ y, read x = .ok y) ↔ p x)
    {xs : List α} : (∃ ys, xs.mapM read = .ok ys) ↔ ∀ x ∈ xs, p x := by
  induction xs with
  | nil => simp [pure_ok]
  | cons x rest ih =>
    rw [List.forall_mem_cons, ← ih, ← h x, List.mapM_cons]
    simp only [bind_ok, pure_ok]
    constructor
    · rintro ⟨_, y, hy, others, ho, -⟩
      exact ⟨⟨y, hy⟩, others, ho⟩
    · rintro ⟨⟨y, hy⟩, others, ho⟩
      exact ⟨y :: others, y, hy, others, ho, rfl⟩

theorem mapM_error {read : α → Except ε β} {p : α → Prop} [DecidablePred p]
    (h : ∀ x, (∃ y, read x = .ok y) ↔ p x) {xs : List α} {e : ε} :
    xs.mapM read = .error e ↔ ∃ x, xs.find? (¬ p ·) = some x ∧ read x = .error e := by
  induction xs with
  | nil => simp [pure, Except.pure]
  | cons x rest ih =>
    rw [List.mapM_cons, bind_error]
    cases hx : read x with
    | error e' =>
      have hp : ¬ p x := fun hp => by simpa [hx] using (h x).mpr hp
      simp [hp, hx]
    | ok y =>
      have hp : p x := (h x).mp ⟨y, hx⟩
      simp [hp, bind_error, ih, pure, Except.pure]

theorem foldlM_mem {step : β → α → Except ε β} {xs : List α} {b b' : β} {x : α}
    (h : xs.foldlM step b = .ok b') (hx : x ∈ xs) : ∃ c c', step c x = .ok c' := by
  induction xs generalizing b with
  | nil => simp at hx
  | cons y rest ih =>
    rw [List.foldlM_cons, bind_ok] at h
    obtain ⟨mid, hstep, hrest⟩ := h
    rcases List.mem_cons.mp hx with rfl | hx
    · exact ⟨b, mid, hstep⟩
    · exact ih hrest hx

end

-- ---------------------------------------------------------------------------
-- Attempts
-- ---------------------------------------------------------------------------

namespace Attempt

variable {ε δ α β : Type}

@[simp] theorem outcome_bind (a : Attempt ε α) (next : α → Attempt ε β) :
    (a >>= next).outcome = a.outcome >>= fun value => (next value).outcome := by
  cases h : a.outcome with
  | ok value => rw [bind_def, andThen_ok next h]; rfl
  | error e => rw [bind_def, andThen_error next h]; rfl

@[simp] theorem outcome_pure (value : α) : (pure value : Attempt ε α).outcome = .ok value := rfl

@[simp] theorem outcome_tell (e : Event) : (tell e : Attempt ε Unit).outcome = .ok () := rfl

@[simp] theorem outcome_fail (e : ε) : (fail e : Attempt ε α).outcome = .error e := rfl

@[simp] theorem outcome_lift (x : Except ε α) : (liftM x : Attempt ε α).outcome = x := rfl

@[simp] theorem outcome_mapError (f : ε → δ) (a : Attempt ε α) :
    (a.mapError f).outcome = a.outcome.mapError f := rfl

end Attempt
end Precompiled
