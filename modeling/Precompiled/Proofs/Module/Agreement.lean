import Mathlib.Data.List.Induction
import Precompiled.Proofs.Bind.Outcome
import Precompiled.Proofs.Metadata.Soundness
import Precompiled.Proofs.Module.Lookup

/-!
# Tables and scans

Metadata is scanned from its first declaration on, while a module finds the last one through its
tables of positions. Both are stated by the position that is found, so that the two agree exactly
if the first and the last declaration of every repeated name are equal (`agree_iff`).
-/

namespace Precompiled

-- ---------------------------------------------------------------------------
-- First and last positions
-- ---------------------------------------------------------------------------

def FirstAt (names : List String) (name : String) (i : Nat) : Prop :=
  names[i]? = some name ∧ ∀ j, j < i → names[j]? ≠ some name

def LastAt (names : List String) (name : String) (i : Nat) : Prop :=
  names[i]? = some name ∧ ∀ j, i < j → names[j]? ≠ some name

variable {names : List String} {name : String} {i : Nat}

theorem LastAt.unique {j : Nat} (hi : LastAt names name i) (hj : LastAt names name j) : i = j :=
  Nat.le_antisymm (Nat.le_of_not_lt fun h => hj.2 i h hi.1)
    (Nat.le_of_not_lt fun h => hi.2 j h hj.1)

theorem lastAt_of_nodup (hn : names.Nodup) (h : names[i]? = some name) : LastAt names name i := by
  have hi := (List.getElem?_eq_some_iff.mp h).1
  exact ⟨h, fun j hlt hj =>
    Nat.ne_of_lt hlt ((List.getElem?_inj hi hn).mp (h.trans hj.symm))⟩

theorem lastAt_concat {last : String} :
    LastAt (names ++ [last]) name i ↔
      if last = name then i = names.length else LastAt names name i := by
  have hold (j : Nat) (hj : j < names.length) : (names ++ [last])[j]? = names[j]? :=
    List.getElem?_append_left hj
  have hlast : (names ++ [last])[names.length]? = some last := List.getElem?_concat_length
  have hend (j : Nat) (hj : names.length < j) : (names ++ [last])[j]? = none :=
    List.getElem?_eq_none (by simp; omega)
  have hend' (j : Nat) (hj : names.length ≤ j) : names[j]? = none := List.getElem?_eq_none hj
  split
  · rename_i he
    subst he
    have hat : LastAt (names ++ [last]) last names.length :=
      ⟨hlast, fun j hj => by simp [hend j hj]⟩
    exact ⟨fun h => h.unique hat, fun h => h ▸ hat⟩
  · rename_i hne
    have hget (j : Nat) : (names ++ [last])[j]? = some name ↔ names[j]? = some name := by
      rcases Nat.lt_trichotomy j names.length with hj | rfl | hj
      · rw [hold j hj]
      · simp [hne]
      · simp [hend j hj, hend' j (Nat.le_of_lt hj)]
    simp only [LastAt, ne_eq, hget]

theorem positions_concat (last : String) :
    positions (names ++ [last]) = Dict.put last names.length (positions names) := by
  rw [positions, List.zipIdx_append, List.foldl_append]
  simp [positions]

theorem get?_positions_eq_some :
    Dict.get? (positions names) name = some i ↔ LastAt names name i := by
  induction names using List.reverseRecOn with
  | nil => simp [positions, Dict.get?_nil, LastAt]
  | append_singleton names last ih =>
    rw [positions_concat, Dict.get?_put, lastAt_concat]
    split
    · rw [Option.some.injEq, eq_comm]
    · exact ih

-- ---------------------------------------------------------------------------
-- Lookups by position
-- ---------------------------------------------------------------------------

section
variable {α β : Type} {xs : List α} {f : α → String} {find find' : String → Option α}

structure FindsFirst (names : List String) (xs : List α) (find : String → Option α) : Prop where
  isSome : ∀ name, (find name).isSome ↔ name ∈ names
  found : ∀ name x, find name = some x ↔ ∃ i, FirstAt names name i ∧ xs[i]? = some x

structure FindsLast (names : List String) (xs : List α) (find : String → Option α) : Prop where
  isSome : ∀ name, (find name).isSome ↔ name ∈ names
  found : ∀ name x, find name = some x ↔ ∃ i, LastAt names name i ∧ xs[i]? = some x

/-- The first and the last entry of every repeated name are equal. -/
def EndsAgree (names : List String) (xs : List α) : Prop :=
  ∀ name i j, FirstAt names name i → LastAt names name j → i ≠ j → xs[i]? = xs[j]?

theorem findsFirst_find? : FindsFirst (xs.map f) xs fun name => xs.find? (f · = name) where
  isSome name := by
    rw [List.find?_isSome, List.mem_map]
    simp only [decide_eq_true_eq]
  found name x := by
    have hname (i : Nat) : (xs.map f)[i]? = some name ↔ ∃ y, xs[i]? = some y ∧ f y = name := by
      rw [List.getElem?_map, Option.map_eq_some_iff]
    simp only [List.find?_eq_some_iff_getElem, FirstAt, ne_eq, hname, decide_eq_true_eq,
      Bool.not_eq_true', decide_eq_false_iff_not]
    constructor
    · rintro ⟨hx, i, hi, rfl, hbefore⟩
      refine ⟨i, ⟨⟨_, List.getElem?_eq_getElem hi, hx⟩, fun j hj => ?_⟩,
        List.getElem?_eq_getElem hi⟩
      rintro ⟨y, hy, hfy⟩
      obtain ⟨hlt, rfl⟩ := List.getElem?_eq_some_iff.mp hy
      exact hbefore j hj hfy
    · rintro ⟨i, ⟨⟨y, hy, hfy⟩, hbefore⟩, hx⟩
      obtain rfl := Option.some.inj (hy.symm.trans hx)
      obtain ⟨hi, rfl⟩ := List.getElem?_eq_some_iff.mp hx
      exact ⟨hfy, i, hi, rfl, fun j hj hfj =>
        hbefore j hj ⟨_, List.getElem?_eq_getElem (Nat.lt_trans hj hi), hfj⟩⟩

section
variable {table : Dict String Nat}

theorem findsLast_positions (ht : table = positions (xs.map f))
    (hfind : ∀ name, find name = (Dict.get? table name).bind (xs[·]?)) :
    FindsLast (xs.map f) xs find where
  isSome name := by
    rw [hfind, ht, getElem?_get?_positions, List.find?_isSome, List.mem_map]
    simp only [List.mem_reverse, decide_eq_true_eq]
  found name x := by
    simp only [hfind, ht, Option.bind_eq_some_iff, get?_positions_eq_some]

theorem position_lt (ht : table = positions (xs.map f)) (h : Dict.get? table name = some i) :
    i < xs.length := by
  rw [ht, get?_positions_eq_some] at h
  simpa using (List.getElem?_eq_some_iff.mp h.1).1

theorem position_of_nodup (ht : table = positions (xs.map f)) (hn : (xs.map f).Nodup) {x : α}
    (hx : xs[i]? = some x) : Dict.get? table (f x) = some i := by
  rw [ht, get?_positions_eq_some]
  exact lastAt_of_nodup hn (by rw [List.getElem?_map, hx]; rfl)

end

theorem FindsLast.map (h : FindsLast names xs find) (g : α → β) :
    FindsLast names (xs.map g) fun name => (find name).map g where
  isSome name := by rw [Option.isSome_map, h.isSome]
  found name y := by
    simp only [Option.map_eq_some_iff, h.found, List.getElem?_map]
    constructor
    · rintro ⟨x, ⟨i, hi, hx⟩, rfl⟩
      exact ⟨i, hi, x, hx, rfl⟩
    · rintro ⟨i, hi, x, hx, rfl⟩
      exact ⟨x, ⟨i, hi, hx⟩, rfl⟩

theorem agree_iff (hf : FindsFirst (xs.map f) xs find) (hl : FindsLast (xs.map f) xs find') :
    (∀ name, find' name = find name) ↔ EndsAgree (xs.map f) xs := by
  have hentry {name : String} {i : Nat} (h : (xs.map f)[i]? = some name) :
      ∃ x, xs[i]? = some x := by
    rw [List.getElem?_map, Option.map_eq_some_iff] at h
    exact h.imp fun x hx => hx.1
  constructor
  · intro hagree name i j hi hj _
    obtain ⟨x, hx⟩ := hentry hi.1
    obtain ⟨y, hy⟩ := hentry hj.1
    have hfirst : find name = some x := (hf.found name x).mpr ⟨i, hi, hx⟩
    have hlast : find' name = some y := (hl.found name y).mpr ⟨j, hj, hy⟩
    rw [hx, hy, ← hfirst, ← hlast, hagree]
  · intro hends name
    -- A name has a first position exactly if it has a last one.
    cases hfirst : find name with
    | none =>
      rw [← Option.not_isSome_iff_eq_none, hl.isSome, ← hf.isSome, hfirst]
      simp
    | some x =>
      obtain ⟨y, hlast⟩ : ∃ y, find' name = some y := by
        rw [← Option.isSome_iff_exists, hl.isSome, ← hf.isSome, hfirst]
        rfl
      obtain ⟨i, hi, hx⟩ := (hf.found name x).mp hfirst
      obtain ⟨j, hj, hy⟩ := (hl.found name y).mp hlast
      by_cases hij : i = j
      · subst hij
        rw [hlast, ← hy, hx]
      · rw [hlast, ← hy, ← hends name i j hi hj hij, hx]

theorem endsAgree_of_nodup (h : names.Nodup) : EndsAgree names xs :=
  fun _ _ _ hi hj hne => absurd ((lastAt_of_nodup h hi.1).unique hj) hne

end

-- ---------------------------------------------------------------------------
-- Modules
-- ---------------------------------------------------------------------------

section
variable {α β : Type}

/-- How things that were declared are found, and the handles that were made of them, one for
each. -/
structure Lookup (names : List String) (declared : List α) (scan : String → Option α)
    (handles : List β) (table : Dict String Nat) (find : String → Option β) : Prop where
  first : FindsFirst names declared scan
  last : FindsLast names handles find
  inBounds : ∀ name i, Dict.get? table name = some i → i < handles.length

end

namespace Module

/-- The module gives under every name what a scan of the metadata gives. -/
def Agrees (module : Module) (m : Metadata) : Prop :=
  (∀ name, (module.kernel? name).map BoundKernel.kernel = m.kernel? name) ∧
    ∀ name, module.field? name = m.field? name

structure FindsEach (module : Module) : Prop where
  kernels : ∀ i k, module.kernels[i]? = some k →
    Dict.get? module.kernelPositions k.name = some i ∧ module.kernel? k.name = some k
  fields : ∀ i f, module.fields[i]? = some f →
    Dict.get? module.fieldPositions f.name = some i ∧ module.field? f.name = some f

end Module

namespace Backend.Binds

variable {b : Backend} {id : BackendId} {m : Metadata} {module : Module}

theorem lookup_kernels (h : b.Binds id m module) :
    Lookup (m.kernels.map (·.name)) m.kernels m.kernel? module.kernels module.kernelPositions
      module.kernel? where
  first := findsFirst_find?
  last := by
    have hnames : module.kernels.map (·.name) = m.kernels.map (·.name) := h.kernelNames
    rw [← hnames]
    exact findsLast_positions h.kernelPositions fun _ => rfl
  inBounds _ _ := position_lt h.kernelPositions

theorem lookup_fields (h : b.Binds id m module) :
    Lookup (m.fields.map (·.name)) m.fields m.field? module.fields module.fieldPositions
      module.field? where
  first := findsFirst_find?
  last := by
    rw [← h.fields]
    exact findsLast_positions h.fieldPositions fun _ => rfl
  inBounds _ _ := position_lt h.fieldPositions

theorem agrees_iff (h : b.Binds id m module) :
    module.Agrees m ↔ EndsAgree (m.kernels.map (·.name)) m.kernels ∧
      EndsAgree (m.fields.map (·.name)) m.fields := by
  have hkernels := h.lookup_kernels.last.map BoundKernel.kernel
  rw [h.kernels] at hkernels
  have hfields := h.lookup_fields.last
  rw [h.fields] at hfields
  exact and_congr (agree_iff findsFirst_find? hkernels) (agree_iff findsFirst_find? hfields)

theorem findsEach (h : b.Binds id m module) (hm : m.Sound) : module.FindsEach where
  kernels i k hk := by
    have hn : module.kernelNames.Nodup := h.kernelNames ▸ hm.kernelsDistinct
    have hi := position_of_nodup h.kernelPositions hn hk
    exact ⟨hi, by rw [Module.kernel?, hi]; exact hk⟩
  fields i f hf := by
    have hn : module.fieldNames.Nodup := h.fieldNames ▸ hm.fieldsDistinct
    have hi := position_of_nodup h.fieldPositions hn hf
    exact ⟨hi, by rw [Module.field?, hi]; exact hf⟩

end Backend.Binds

namespace Registry

/-- Whatever metadata is bound, the module finds the last declaration of each name, always within
its lists, and the scan of the metadata finds the first. They agree on every name exactly if the
first and the last declaration of each repeated name are equal. Sound metadata repeats no name, so
they agree on it, and each handle is found under its own name. -/
theorem bind_lookup {r : Registry Backend} {id : BackendId} {o : LoadOptions} {m : Metadata}
    {module : Module} (h : (r.bind id o m).outcome = .ok module) :
    (module.kernels.map BoundKernel.kernel = m.kernels ∧ module.fields = m.fields) ∧
    Lookup (m.kernels.map (·.name)) m.kernels m.kernel? module.kernels module.kernelPositions
      module.kernel? ∧
    Lookup (m.fields.map (·.name)) m.fields m.field? module.fields module.fieldPositions
      module.field? ∧
    (module.Agrees m ↔ EndsAgree (m.kernels.map (·.name)) m.kernels ∧
      EndsAgree (m.fields.map (·.name)) m.fields) ∧
    (m.check = .ok () → module.Agrees m ∧ module.FindsEach) := by
  obtain ⟨b, -, -, hbinds⟩ := bind_ok_iff.mp h
  refine ⟨⟨hbinds.kernels, hbinds.fields⟩, hbinds.lookup_kernels, hbinds.lookup_fields,
    hbinds.agrees_iff, fun hcheck => ?_⟩
  have hm := Metadata.check_ok.mp hcheck
  exact ⟨hbinds.agrees_iff.mpr ⟨endsAgree_of_nodup hm.kernelsDistinct,
    endsAgree_of_nodup hm.fieldsDistinct⟩, hbinds.findsEach hm⟩

/-- Two kernels of one name that differ in their arguments are told apart by the lookups. A field
that is declared twice in the same way is not, and neither is anything in sound metadata. -/
theorem bind_lookup_of_repeated :
    let id : BackendId := ⟨0, 0⟩
    let add : Kernel := { name := "add", symbol := "k_add", args := [.i32, .i32] }
    let neg : Kernel := { name := "add", symbol := "k_add", args := [.i32] }
    let x : Field := { name := "x", type := .f32, shape := [4] }
    let y : Field := { name := "y", type := .i32 }
    let repeated : Metadata := { version := 1, kernels := [add, neg], fields := [x, y, x] }
    let sound : Metadata := { version := 1, kernels := [add], fields := [x, y] }
    (∃ module, (ofAdder.bind id {} repeated).outcome = .ok module ∧ ¬ module.Agrees repeated ∧
      EndsAgree (repeated.fields.map (·.name)) repeated.fields) ∧
    (∃ module, (ofAdder.bind id {} sound).outcome = .ok module ∧ module.Agrees sound ∧
      module.FindsEach) := by
  intro id add neg x y repeated sound
  have hb : ofAdder.get? id = some adder := rfl
  obtain ⟨module, hmodule⟩ :=
    exists_bind.mpr ⟨adder, hb, (⟨nofun, by decide, by decide⟩ :
      adder.Suits (LoadOptions.requireDeclared {}) repeated)⟩
  obtain ⟨module', hmodule'⟩ :=
    exists_bind.mpr ⟨adder, hb, (⟨nofun, by decide, by decide⟩ :
      adder.Suits (LoadOptions.requireDeclared {}) sound)⟩
  obtain ⟨-, -, -, hagrees, -⟩ := bind_lookup hmodule
  obtain ⟨-, -, -, -, hsound⟩ := bind_lookup hmodule'
  refine ⟨⟨module, hmodule, fun h => ?_, ?_⟩, module', hmodule', hsound rfl⟩
  · have hlast : LastAt (repeated.kernels.map (·.name)) "add" 1 :=
      ⟨rfl, fun j hj => by rw [List.getElem?_eq_none hj]; simp⟩
    have hends := (hagrees.mp h).1 "add" 0 1 ⟨rfl, nofun⟩ hlast (by decide)
    exact absurd hends (by decide)
  · intro name i j hi hj _
    have hall : ∀ i j : Fin 3, (repeated.fields.map (·.name))[i.val]? =
        (repeated.fields.map (·.name))[j.val]? →
        repeated.fields[i.val]? = repeated.fields[j.val]? := by decide
    exact hall ⟨i, (List.getElem?_eq_some_iff.mp hi.1).1⟩ ⟨j, (List.getElem?_eq_some_iff.mp hj.1).1⟩
      (hi.1.trans hj.1.symm)

end Registry
end Precompiled
