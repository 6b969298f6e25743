import Precompiled.Event

/-!
# Attempts

Work that tells events and may fail. What was told before a failure stays told.
-/

namespace Precompiled

structure Attempt (ε α : Type) where
  events : List Event
  outcome : Except ε α

namespace Attempt

variable {ε δ α β : Type}

def andThen (a : Attempt ε α) (next : α → Attempt ε β) : Attempt ε β :=
  match a.outcome with
  | .ok value => ⟨a.events ++ (next value).events, (next value).outcome⟩
  | .error e => ⟨a.events, .error e⟩

instance : Monad (Attempt ε) where
  pure value := ⟨[], .ok value⟩
  bind := andThen

def tell (e : Event) : Attempt ε Unit := ⟨[e], .ok ()⟩

def fail (e : ε) : Attempt ε α := ⟨[], .error e⟩

def ofExcept (outcome : Except ε α) : Attempt ε α := ⟨[], outcome⟩

instance : MonadLift (Except ε) (Attempt ε) := ⟨ofExcept⟩

def mapError (f : ε → δ) (a : Attempt ε α) : Attempt δ α := ⟨a.events, a.outcome.mapError f⟩

theorem pure_def (value : α) : (pure value : Attempt ε α) = ⟨[], .ok value⟩ := rfl

theorem bind_def (a : Attempt ε α) (next : α → Attempt ε β) : a >>= next = a.andThen next := rfl

theorem andThen_ok {a : Attempt ε α} {value : α} (next : α → Attempt ε β)
    (h : a.outcome = .ok value) :
    a.andThen next = ⟨a.events ++ (next value).events, (next value).outcome⟩ := by
  simp [andThen, h]

theorem andThen_error {a : Attempt ε α} {e : ε} (next : α → Attempt ε β)
    (h : a.outcome = .error e) : a.andThen next = ⟨a.events, .error e⟩ := by
  simp [andThen, h]

end Attempt
end Precompiled
