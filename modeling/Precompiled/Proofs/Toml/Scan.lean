import Mathlib.Data.List.TakeDrop
import Precompiled.Toml.Scan

/-!
# Laws of scanning

What the readers and their combinations do at the front of a text: what they take off, and when they
find nothing. A reading that is repeated is told by the chain of its single readings.
-/

namespace Precompiled.Toml.Scan

variable {α β : Type} {p q : Scan α} {text rest : List Char}

-- ---------------------------------------------------------------------------
-- Combinations
-- ---------------------------------------------------------------------------

@[simp] theorem pure_apply (a : α) : (pure a : Scan α) text = some (a, text) := rfl

@[simp] theorem failure_apply : (failure : Scan α) text = none := rfl

@[simp] theorem bind_apply (f : α → Scan β) :
    (p >>= f) text = (p text).bind fun found => f found.1 found.2 := rfl

@[simp] theorem map_apply (f : α → β) :
    (f <$> p) text = (p text).map fun found => (f found.1, found.2) := by
  cases h : p text <;> simp [Functor.map, StateT.map, h]

@[simp] theorem discard_apply :
    (discard p : Scan Unit) text = (p text).map fun found => ((), found.2) := by
  cases h : p text <;> simp [Functor.discard, Functor.mapConst, StateT.map, h]

@[simp] theorem orElse_apply : (p <|> q) text = (p text).or (q text) := by
  cases h : p text <;> simp [HOrElse.hOrElse, OrElse.orElse, Alternative.orElse, StateT.orElse, h]

@[simp] theorem attempt_apply :
    attempt p text = some (((p text).map Prod.fst), ((p text).map Prod.snd).getD text) := by
  cases h : p text <;> simp [attempt, h]

@[simp] theorem ahead_apply : ahead p text = (p text).map fun _ => ((), text) := rfl

theorem bind_of_none {f : α → Scan β} (h : p text = none) : (p >>= f) text = none := by
  rw [bind_apply, h, Option.bind_none]

theorem bind_of_some {f : α → Scan β} {a : α} (h : p text = some (a, rest)) :
    (p >>= f) text = f a rest := by
  rw [bind_apply, h, Option.bind_some]

theorem orElse_of_none (h : p text = none) : (p <|> q) text = q text := by
  rw [orElse_apply, h, Option.none_or]

theorem orElse_of_some {a : α} (h : p text = some (a, rest)) :
    (p <|> q) text = some (a, rest) := by
  rw [orElse_apply, h, Option.some_or]

-- ---------------------------------------------------------------------------
-- Characters
-- ---------------------------------------------------------------------------

variable {kind : Char → Bool} {c d : Char} {chars : List Char}

/-- No character of a kind comes next. -/
def Stops (kind : Char → Bool) (text : List Char) : Prop := ∀ c ∈ text.head?, kind c = false

theorem stops_nil : Stops kind [] := nofun

theorem stops_cons : Stops kind (c :: rest) ↔ kind c = false := by simp [Stops]

theorem stops_of_mem {marks : List Char} (hc : c ∈ marks) (hk : marks.any kind = false) :
    Stops kind (c :: text) :=
  stops_cons.mpr (Bool.eq_false_iff.mpr (List.any_eq_false.mp hk c hc))

theorem Stops.mono {other : Char → Bool} (h : Stops kind text)
    (hk : ∀ c, other c → kind c) : Stops other text := by
  intro c hc
  cases hother : other c with
  | false => rfl
  | true => exact absurd (h c hc) (by simp [hk c hother])

@[simp] theorem satisfy_nil : satisfy kind [] = none := rfl

@[simp] theorem satisfy_cons :
    satisfy kind (c :: rest) = if kind c then some (c, rest) else none := rfl

theorem satisfy_of_stops (h : Stops kind text) : satisfy kind text = none := by
  cases text with
  | nil => rfl
  | cons c rest => simp [stops_cons.mp h]

@[simp] theorem char_nil : char c [] = none := rfl

@[simp] theorem char_cons : char c (d :: rest) = if d = c then some ((), rest) else none := by
  by_cases h : d = c <;> simp [char, h]

theorem char_self : char c (c :: rest) = some ((), rest) := by simp

theorem char_of_stops (h : Stops (· = c) text) : char c text = none := by
  simp [char, satisfy_of_stops h]

@[simp] theorem word_nil : word [] text = some ((), text) := rfl

@[simp] theorem word_cons :
    word (c :: chars) text = (char c text).bind fun found => word chars found.2 := rfl

theorem word_of_stops (h : Stops (· = c) text) : word (c :: chars) text = none := by
  rw [word_cons, char_of_stops h, Option.bind_none]

-- ---------------------------------------------------------------------------
-- Rows of characters
-- ---------------------------------------------------------------------------

theorem run_append (h : ∀ c ∈ chars, kind c) (hs : Stops kind rest) :
    run kind (chars ++ rest) = some (chars, rest) := by
  have hrest : rest.takeWhile kind = [] ∧ rest.dropWhile kind = rest := by
    cases rest with
    | nil => exact ⟨rfl, rfl⟩
    | cons c rest => simp [stops_cons.mp hs]
  rw [run, List.span_eq_takeWhile_dropWhile, List.takeWhile_append_of_pos h,
    List.dropWhile_append_of_pos h, hrest.1, hrest.2, List.append_nil]

theorem runOfSome_append (hne : chars ≠ []) (h : ∀ c ∈ chars, kind c) (hs : Stops kind rest) :
    runOfSome kind (chars ++ rest) = some (chars, rest) := by
  cases chars with
  | nil => exact absurd rfl hne
  | cons c chars =>
    rw [List.forall_mem_cons] at h
    simp [runOfSome, h.1, run_append h.2 hs]

theorem runOfSome_of_stops (h : Stops kind text) : runOfSome kind text = none :=
  bind_of_none (satisfy_of_stops h)

theorem count_some {n : Nat} (h : count kind n text = some (chars, rest)) :
    text = chars ++ rest ∧ chars.length = n ∧ ∀ c ∈ chars, kind c := by
  induction n generalizing text chars with
  | zero =>
    obtain ⟨rfl, rfl⟩ := Prod.mk.inj (Option.some.inj h)
    exact ⟨rfl, rfl, nofun⟩
  | succ n ih =>
    cases text with
    | nil => cases h
    | cons c text =>
      rw [count, bind_apply, satisfy_cons] at h
      split at h
      · rename_i hc
        rw [Option.bind_some, bind_apply] at h
        obtain ⟨⟨more, left⟩, hmore, heq⟩ := Option.bind_eq_some_iff.mp h
        obtain ⟨rfl, rfl⟩ := Prod.mk.inj (Option.some.inj heq)
        obtain ⟨rfl, hlength, hall⟩ := ih hmore
        exact ⟨rfl, congrArg (· + 1) hlength, List.forall_mem_cons.mpr ⟨hc, hall⟩⟩
      · cases h

-- ---------------------------------------------------------------------------
-- Repetitions
-- ---------------------------------------------------------------------------

/-- A reader finds one thing after another, each time taking something off, and then finds no
more. -/
inductive Chain (p : Scan α) : List Char → List α → List Char → Prop
  | stop {text : List Char} : p text = none → Chain p text [] text
  | next {text between rest : List Char} {a : α} {found : List α} : p text = some (a, between) →
      between.length < text.length → Chain p between found rest → Chain p text (a :: found) rest

variable {found : List α}

theorem Chain.length_le (h : Chain p text found rest) : found.length ≤ text.length := by
  induction h with
  | stop _ => exact Nat.zero_le _
  | next _ hlt _ ih => exact Nat.le_trans (Nat.succ_le_succ ih) hlt

theorem manyAfter_of_chain {before : List α} {bound : List Char} (h : Chain p text found rest)
    (hb : found.length ≤ bound.length) :
    manyAfter p before bound text = (before.reverse ++ found, rest) := by
  induction h generalizing before bound with
  | stop hnone =>
    cases bound with
    | nil => simp [manyAfter]
    | cons b bound => simp [manyAfter, hnone]
  | next hsome _ _ ih =>
    cases bound with
    | nil => cases hb
    | cons b bound => simp [manyAfter, hsome, ih (Nat.le_of_succ_le_succ hb)]

theorem many_of_chain (h : Chain p text found rest) : many p text = some (found, rest) := by
  rw [many, manyAfter_of_chain h h.length_le]
  rfl

theorem many_of_none (h : p text = none) : many p text = some ([], text) :=
  many_of_chain (.stop h)

theorem separated_of_one {a : α} {separator : Scan Unit} (h : p text = some (a, rest))
    (hs : separator rest = none) : separated p separator text = some ([a], rest) := by
  simp [separated, h, many_of_none (bind_of_none hs)]

end Precompiled.Toml.Scan
