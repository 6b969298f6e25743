/-!
# Dictionaries

Keys with values, in the order in which the keys came. Putting a value under a key that is there
replaces the value in its place.
-/

namespace Precompiled

abbrev Dict (κ α : Type) := List (κ × α)

namespace Dict

variable {κ α : Type} [DecidableEq κ]

def get? (d : Dict κ α) (key : κ) : Option α := (d.find? (·.1 = key)).map Prod.snd

def put (key : κ) (value : α) : Dict κ α → Dict κ α
  | [] => [(key, value)]
  | (k, v) :: rest => if k = key then (k, value) :: rest else (k, v) :: put key value rest

def erase (key : κ) (d : Dict κ α) : Dict κ α := d.filter (·.1 ≠ key)

theorem get?_nil (key : κ) : get? ([] : Dict κ α) key = none := rfl

theorem get?_cons (k key : κ) (v : α) (d : Dict κ α) :
    get? ((k, v) :: d) key = if k = key then some v else get? d key := by
  by_cases h : k = key <;> simp [get?, h]

theorem get?_put (key other : κ) (value : α) (d : Dict κ α) :
    get? (put key value d) other = if key = other then some value else get? d other := by
  induction d with
  | nil => simp [put, get?_cons]
  | cons entry rest ih =>
    obtain ⟨k, v⟩ := entry
    by_cases h : k = key
    · subst h
      by_cases ho : k = other <;> simp [put, get?_cons, ho]
    · by_cases ho : k = other
      · subst ho
        simp [put, get?_cons, h, Ne.symm h]
      · simp [put, get?_cons, h, ho, ih]

theorem get?_erase (key other : κ) (d : Dict κ α) :
    get? (erase key d) other = if key = other then none else get? d other := by
  induction d with
  | nil => simp [erase, get?_nil]
  | cons entry rest ih =>
    obtain ⟨k, v⟩ := entry
    unfold erase at ih ⊢
    by_cases h : k = key
    · subst h
      by_cases ho : k = other <;> simp_all [get?_cons]
    · by_cases ho : k = other
      · subst ho
        simp [get?_cons, h, Ne.symm h]
      · simpa [get?_cons, h, ho] using ih

end Dict
end Precompiled
