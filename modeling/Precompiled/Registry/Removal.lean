import Precompiled.Attempt

/-!
# Taking backends out

Taking a backend out of a registry never fails. It tells an event when it leaves a slot that is
never filled again.
-/

namespace Precompiled.Registry

variable {β ε : Type}

def takeOut (r : Registry β) (id : BackendId) : Attempt ε (Option β × Registry β) := do
  if r.retires id then Attempt.tell (.slotRetired id.index)
  return r.unregister id

theorem outcome_takeOut (r : Registry β) (id : BackendId) :
    (r.takeOut id : Attempt ε _).outcome = .ok (r.unregister id) := by
  unfold takeOut
  split <;> rfl

theorem events_takeOut (r : Registry β) (id : BackendId) :
    (r.takeOut id : Attempt ε _).events =
      if r.retires id then [.slotRetired id.index] else [] := by
  unfold takeOut
  split <;> rfl

end Precompiled.Registry
