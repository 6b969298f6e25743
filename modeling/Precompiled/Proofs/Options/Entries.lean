import Precompiled.Options.Document
import Precompiled.Proofs.Attempt
import Precompiled.Proofs.Metadata.Faults
import Precompiled.Proofs.Toml.Table

/-!
# The options that entries come to

Which values suit the keys of options, and what options a table comes to: under each key the value
that the table has for it, and the default where it has none. Only the pairs of keys and values
matter, not their order.
-/

namespace Precompiled.LoadOptions

open Dict (Distinct)
open Toml (Item)

-- ---------------------------------------------------------------------------
-- Keys and values
-- ---------------------------------------------------------------------------

def versionKeys : List String := ["min_format_version", "max_format_version"]

def switchKeys : List String := ["verify_checksum", "require_declared_fields"]

def versionItem (version : UInt32) : Item := .integer version.toNat

/-- A key of an option with a value of its kind; the versions have 32 bits. -/
inductive Suits : String → Item → Prop
  | version {key} (version : UInt32) : key ∈ versionKeys → Suits key (versionItem version)
  | switch {key} (value : Bool) : key ∈ switchKeys → Suits key (.boolean value)

inductive Refuses : String → Item → Unreadable → Prop
  | unknown {key item} : key ∉ keys → Refuses key item (.unknownKey key)
  | noInteger {key item} : key ∈ versionKeys → (∀ value, item ≠ .integer value) →
      Refuses key item (.mismatch key)
  | noSwitch {key item} : key ∈ switchKeys → (∀ value, item ≠ .boolean value) →
      Refuses key item (.mismatch key)
  | outOfRange {key} {value : Int} : key ∈ versionKeys → (value < 0 ∨ UInt32.size ≤ value) →
      Refuses key (.integer value) (.outOfRange key value)

inductive Sets (o : LoadOptions) : String → Item → LoadOptions → Prop
  | min (version : UInt32) : Sets o "min_format_version" (versionItem version)
      { o with versions := { o.versions with min := version } }
  | max (version : UInt32) : Sets o "max_format_version" (versionItem version)
      { o with versions := { o.versions with max := version } }
  | verify (value : Bool) : Sets o "verify_checksum" (.boolean value) { o with verify := value }
  | requireDeclared (value : Bool) : Sets o "require_declared_fields" (.boolean value)
      { o with requireDeclared := value }

variable {α : Type} {key : String} {item : Item} {fault : Unreadable} {o o' start : LoadOptions}

theorem readVersion_ok {version : UInt32} :
    readVersion key item = .ok version ↔ item = versionItem version := by
  cases item with
  | integer value =>
    rw [readVersion, versionItem, Item.integer.injEq]
    split
    · rename_i hvalue
      have hlt : value.toNat < UInt32.size := by omega
      rw [Except.ok.injEq]
      constructor
      · rintro rfl
        rw [UInt32.toNat_ofNat_of_lt' hlt, Int.toNat_of_nonneg hvalue.1]
      · rintro rfl
        rw [Int.toNat_natCast, UInt32.ofNat_toNat]
    · rename_i hvalue
      refine iff_of_false nofun ?_
      rintro rfl
      have hlt := version.toNat_lt_size
      omega
  | _ => exact ⟨nofun, nofun⟩

theorem readVersion_error :
    readVersion key item = .error fault ↔
      (∀ value, item ≠ .integer value) ∧ fault = .mismatch key ∨
      ∃ value : Int, item = .integer value ∧ (value < 0 ∨ UInt32.size ≤ value) ∧
        fault = .outOfRange key value := by
  cases item with
  | integer value =>
    rw [readVersion]
    split
    · rename_i hvalue
      refine iff_of_false nofun ?_
      rintro (⟨hno, -⟩ | ⟨value', heq, hout, -⟩)
      · exact hno value rfl
      · obtain rfl := Item.integer.inj heq
        omega
    · rename_i hvalue
      constructor
      · intro h
        exact .inr ⟨value, rfl, by omega, (Except.error.inj h).symm⟩
      · rintro (⟨hno, -⟩ | ⟨value', heq, -, rfl⟩)
        · exact absurd rfl (hno value)
        · rw [Item.integer.inj heq]
  | _ => simp [readVersion, eq_comm]

theorem readSwitch_ok {value : Bool} :
    readSwitch key item = .ok value ↔ item = .boolean value := by
  cases item <;> simp [readSwitch]

theorem readSwitch_error :
    readSwitch key item = .error fault ↔
      (∀ value, item ≠ .boolean value) ∧ fault = .mismatch key := by
  cases item <;> simp [readSwitch, eq_comm]

theorem take_ok : o.take key item = .ok o' ↔ Sets o key item o' := by
  constructor
  · intro h
    unfold take at h
    split at h
    · obtain ⟨version, hversion, hset⟩ := bind_ok.mp h
      obtain rfl := Except.ok.inj hset
      obtain rfl := readVersion_ok.mp hversion
      exact .min version
    · obtain ⟨version, hversion, hset⟩ := bind_ok.mp h
      obtain rfl := Except.ok.inj hset
      obtain rfl := readVersion_ok.mp hversion
      exact .max version
    · obtain ⟨value, hvalue, hset⟩ := bind_ok.mp h
      obtain rfl := Except.ok.inj hset
      obtain rfl := readSwitch_ok.mp hvalue
      exact .verify value
    · obtain ⟨value, hvalue, hset⟩ := bind_ok.mp h
      obtain rfl := Except.ok.inj hset
      obtain rfl := readSwitch_ok.mp hvalue
      exact .requireDeclared value
    · cases h
  · intro h
    cases h with
    | min version => exact bind_ok.mpr ⟨version, readVersion_ok.mpr rfl, rfl⟩
    | max version => exact bind_ok.mpr ⟨version, readVersion_ok.mpr rfl, rfl⟩
    | verify value => exact bind_ok.mpr ⟨value, readSwitch_ok.mpr rfl, rfl⟩
    | requireDeclared value => exact bind_ok.mpr ⟨value, readSwitch_ok.mpr rfl, rfl⟩

theorem refuses_of_readVersion (hk : key ∈ versionKeys)
    (h : readVersion key item = .error fault) : Refuses key item fault := by
  rcases readVersion_error.mp h with ⟨hno, rfl⟩ | ⟨value, rfl, hout, rfl⟩
  · exact .noInteger hk hno
  · exact .outOfRange hk hout

theorem refuses_of_readSwitch (hk : key ∈ switchKeys)
    (h : readSwitch key item = .error fault) : Refuses key item fault := by
  obtain ⟨hno, rfl⟩ := readSwitch_error.mp h
  exact .noSwitch hk hno

theorem take_error_of_version (hk : key ∈ versionKeys)
    (h : readVersion key item = .error fault) : o.take key item = .error fault := by
  simp only [versionKeys, List.mem_cons, List.not_mem_nil, or_false] at hk
  rcases hk with rfl | rfl
  · exact bind_error.mpr (.inl h)
  · exact bind_error.mpr (.inl h)

theorem take_error_of_switch (hk : key ∈ switchKeys)
    (h : readSwitch key item = .error fault) : o.take key item = .error fault := by
  simp only [switchKeys, List.mem_cons, List.not_mem_nil, or_false] at hk
  rcases hk with rfl | rfl
  · exact bind_error.mpr (.inl h)
  · exact bind_error.mpr (.inl h)

theorem take_error : o.take key item = .error fault ↔ Refuses key item fault := by
  have hread {β : Type} {x : Except Unreadable β} {f : β → LoadOptions} :
      (x >>= fun value => pure (f value)) = .error fault ↔ x = .error fault := by
    simp [bind_error, pure, Except.pure]
  constructor
  · intro h
    unfold take at h
    split at h
    · exact refuses_of_readVersion (by decide) (hread.mp h)
    · exact refuses_of_readVersion (by decide) (hread.mp h)
    · exact refuses_of_readSwitch (by decide) (hread.mp h)
    · exact refuses_of_readSwitch (by decide) (hread.mp h)
    · obtain rfl := Except.error.inj h
      refine .unknown ?_
      simp_all [keys]
  · intro h
    cases h with
    | unknown hk =>
      unfold take
      split
      · exact absurd (by decide) hk
      · exact absurd (by decide) hk
      · exact absurd (by decide) hk
      · exact absurd (by decide) hk
      · rfl
    | noInteger hk hno => exact take_error_of_version hk (readVersion_error.mpr (.inl ⟨hno, rfl⟩))
    | outOfRange hk hout =>
      exact take_error_of_version hk (readVersion_error.mpr (.inr ⟨_, rfl, hout, rfl⟩))
    | noSwitch hk hno => exact take_error_of_switch hk (readSwitch_error.mpr ⟨hno, rfl⟩)

theorem suits_iff : Suits key item ↔ ∃ o', Sets o key item o' := by
  constructor
  · intro h
    cases h with
    | version version hk =>
      simp only [versionKeys, List.mem_cons, List.not_mem_nil, or_false] at hk
      rcases hk with rfl | rfl
      · exact ⟨_, .min version⟩
      · exact ⟨_, .max version⟩
    | switch value hk =>
      simp only [switchKeys, List.mem_cons, List.not_mem_nil, or_false] at hk
      rcases hk with rfl | rfl
      · exact ⟨_, .verify value⟩
      · exact ⟨_, .requireDeclared value⟩
  · rintro ⟨o', h⟩
    cases h with
    | min version => exact .version version (by decide)
    | max version => exact .version version (by decide)
    | verify value => exact .switch value (by decide)
    | requireDeclared value => exact .switch value (by decide)

theorem not_suits_iff : ¬ Suits key item ↔ ∃ fault, Refuses key item fault := by
  rw [suits_iff (o := {})]
  cases h : take {} key item with
  | ok o' =>
    refine iff_of_false (not_not_intro ⟨o', take_ok.mp h⟩) ?_
    rintro ⟨fault, hfault⟩
    cases h.symm.trans (take_error.mpr hfault)
  | error fault =>
    refine iff_of_true ?_ ⟨fault, take_error.mp h⟩
    rintro ⟨o', ho'⟩
    cases h.symm.trans (take_ok.mpr ho')

-- ---------------------------------------------------------------------------
-- Entries
-- ---------------------------------------------------------------------------

/-- The value under a key is this one, or there is none and this is the default. -/
def Holds (entries : Toml.Entries) (key : String) (form : α → Item) (default value : α) : Prop :=
  (key, form value) ∈ entries ∨ key ∉ entries.map Prod.fst ∧ value = default

/-- Options as the entries say: under each key the value that there is for it, and what the options
were to begin with where there is none. There are no other keys. -/
structure Describes (entries : Toml.Entries) (start o : LoadOptions) : Prop where
  known : ∀ entry ∈ entries, entry.1 ∈ keys
  min : Holds entries "min_format_version" versionItem start.versions.min o.versions.min
  max : Holds entries "max_format_version" versionItem start.versions.max o.versions.max
  verify : Holds entries "verify_checksum" .boolean start.verify o.verify
  requireDeclared :
    Holds entries "require_declared_fields" .boolean start.requireDeclared o.requireDeclared

variable {entries other rest : Toml.Entries} {form : α → Item} {default value : α}

theorem holds_of_not_mem (h : key ∉ entries.map Prod.fst) :
    Holds entries key form default value ↔ value = default := by
  have hmem : (key, form value) ∉ entries := fun hmem => h (List.mem_map_of_mem hmem)
  simp [Holds, hmem, h]

theorem holds_nil : Holds [] key form default value ↔ value = default :=
  holds_of_not_mem List.not_mem_nil

theorem holds_cons_self (h : key ∉ rest.map Prod.fst) :
    Holds ((key, item) :: rest) key form default value ↔ item = form value := by
  have hmem : (key, form value) ∉ rest := fun hmem => h (List.mem_map_of_mem hmem)
  simp [Holds, hmem, eq_comm]

theorem holds_cons_of_ne {other : String} (h : other ≠ key) :
    Holds ((other, item) :: rest) key form default value ↔ Holds rest key form default value := by
  simp [Holds, Ne.symm h]

theorem holds_one {other : String} :
    Holds [(other, item)] key form default value ↔
      if other = key then item = form value else value = default := by
  split
  · rename_i heq
    obtain rfl := heq
    exact holds_cons_self List.not_mem_nil
  · rename_i hne
    exact (holds_cons_of_ne hne).trans holds_nil

theorem describes_nil : Describes [] start o ↔ o = start := by
  constructor
  · intro h
    have hmin := holds_nil.mp h.min
    have hmax := holds_nil.mp h.max
    have hverify := holds_nil.mp h.verify
    have hrequire := holds_nil.mp h.requireDeclared
    obtain ⟨⟨min, max⟩, verify, require⟩ := o
    simp only at hmin hmax hverify hrequire
    rw [hmin, hmax, hverify, hrequire]
  · rintro rfl
    exact ⟨nofun, holds_nil.mpr rfl, holds_nil.mpr rfl, holds_nil.mpr rfl, holds_nil.mpr rfl⟩

theorem holds_cons {entry : String × Item} (hk : entry.1 ∉ rest.map Prod.fst) :
    Holds (entry :: rest) key form default value ↔
      ∃ between, Holds [entry] key form default between ∧ Holds rest key form between value := by
  obtain ⟨first, item⟩ := entry
  by_cases heq : first = key
  · obtain rfl := heq
    simp only [holds_cons_self hk, holds_one, holds_of_not_mem hk, if_true, exists_eq_right']
  · simp only [holds_cons_of_ne heq, holds_nil, exists_eq_left]

/-- To take an entry over is to make the options as this entry alone says. -/
theorem sets_iff : Sets start key item o ↔ Describes [(key, item)] start o := by
  constructor
  · intro h
    cases h <;> constructor <;> simp [holds_one, keys]
  · rintro ⟨hknown, hmin, hmax, hverify, hrequire⟩
    have hkey : key ∈ keys := hknown _ List.mem_cons_self
    obtain ⟨⟨min, max⟩, verify, require⟩ := o
    simp only [keys, List.mem_cons, List.not_mem_nil, or_false] at hkey
    rcases hkey with rfl | rfl | rfl | rfl
    all_goals
      simp only [holds_one, String.reduceEq, if_true, if_false] at hmin hmax hverify hrequire
      subst hmin hmax hverify hrequire
    · exact .min _
    · exact .max _
    · exact .verify _
    · exact .requireDeclared _

theorem describes_cons (hk : key ∉ rest.map Prod.fst) :
    Describes ((key, item) :: rest) start o ↔
      ∃ next, Sets start key item next ∧ Describes rest next o := by
  constructor
  · rintro ⟨hknown, hmin, hmax, hverify, hrequire⟩
    obtain ⟨hkey, hrest⟩ := List.forall_mem_cons.mp hknown
    obtain ⟨min, hmin, hmin'⟩ := (holds_cons hk).mp hmin
    obtain ⟨max, hmax, hmax'⟩ := (holds_cons hk).mp hmax
    obtain ⟨verify, hverify, hverify'⟩ := (holds_cons hk).mp hverify
    obtain ⟨require, hrequire, hrequire'⟩ := (holds_cons hk).mp hrequire
    exact ⟨⟨⟨min, max⟩, verify, require⟩,
      sets_iff.mpr ⟨List.forall_mem_singleton.mpr hkey, hmin, hmax, hverify, hrequire⟩,
      hrest, hmin', hmax', hverify', hrequire'⟩
  · rintro ⟨next, hset, h⟩
    have hfirst := sets_iff.mp hset
    exact ⟨List.forall_mem_cons.mpr ⟨hfirst.known _ List.mem_cons_self, h.known⟩,
      (holds_cons hk).mpr ⟨_, hfirst.min, h.min⟩, (holds_cons hk).mpr ⟨_, hfirst.max, h.max⟩,
      (holds_cons hk).mpr ⟨_, hfirst.verify, h.verify⟩,
      (holds_cons hk).mpr ⟨_, hfirst.requireDeclared, h.requireDeclared⟩⟩

theorem foldlM_take_ok (hd : Distinct entries) :
    entries.foldlM (fun o (key, item) => o.take key item) start = .ok o ↔
      Describes entries start o := by
  induction entries generalizing start with
  | nil => rw [List.foldlM_nil, pure_ok, describes_nil, eq_comm]
  | cons entry rest ih =>
    obtain ⟨key, item⟩ := entry
    obtain ⟨hk, hrest⟩ := Dict.distinct_cons.mp hd
    simp only [List.foldlM_cons, bind_ok, take_ok, ih hrest, describes_cons hk]

theorem foldlM_take_error :
    entries.foldlM (fun o (key, item) => o.take key item) start = .error fault ↔
      FirstFault (fun _ entry => Refuses entry.1 entry.2) entries fault := by
  induction entries generalizing start with
  | nil => exact iff_of_false nofun firstFault_nil
  | cons entry rest ih =>
    obtain ⟨key, item⟩ := entry
    rw [List.foldlM_cons, bind_error, firstFault_cons, take_error]
    refine or_congr_right ?_
    constructor
    · rintro ⟨next, hnext, herror⟩
      refine ⟨fun fault hfault => ?_, ih.mp herror⟩
      cases hnext.symm.trans (take_error.mpr hfault)
    · rintro ⟨hclean, hfault⟩
      cases hnext : take start key item with
      | ok next => exact ⟨next, hnext, ih.mpr hfault⟩
      | error fault => exact absurd (take_error.mp hnext) (hclean fault)

theorem ofEntries_ok (hd : Distinct entries) : ofEntries entries = .ok o ↔ Describes entries {} o :=
  foldlM_take_ok hd

theorem ofEntries_error :
    ofEntries entries = .error fault ↔
      FirstFault (fun _ entry => Refuses entry.1 entry.2) entries fault :=
  foldlM_take_error

theorem describes_iff_suits (hd : Distinct entries) :
    (∃ o, Describes entries start o) ↔ ∀ entry ∈ entries, Suits entry.1 entry.2 := by
  induction entries generalizing start with
  | nil => exact iff_of_true ⟨start, describes_nil.mpr rfl⟩ nofun
  | cons entry rest ih =>
    obtain ⟨key, item⟩ := entry
    obtain ⟨hk, hrest⟩ := Dict.distinct_cons.mp hd
    simp only [describes_cons hk, List.forall_mem_cons]
    rw [suits_iff (o := start)]
    constructor
    · rintro ⟨o, next, hset, h⟩
      exact ⟨⟨next, hset⟩, (ih hrest).mp ⟨o, h⟩⟩
    · rintro ⟨⟨next, hset⟩, hsuits⟩
      obtain ⟨o, h⟩ : ∃ o, Describes rest next o := (ih hrest).mpr hsuits
      exact ⟨o, next, hset, h⟩

theorem Describes.perm (h : Describes entries start o) (hp : other.Perm entries) :
    Describes other start o := by
  have hholds {β : Type} {key : String} {form : β → Item} {default value : β}
      (h : Holds entries key form default value) : Holds other key form default value := by
    unfold Holds at h ⊢
    rwa [hp.mem_iff, (hp.map Prod.fst).mem_iff]
  exact ⟨fun entry he => h.known entry (hp.mem_iff.mp he), hholds h.min, hholds h.max,
    hholds h.verify, hholds h.requireDeclared⟩

end Precompiled.LoadOptions
