import Mathlib.Logic.Function.Basic
import Mathlib.Logic.Relation
import Precompiled.Proofs.Bind.Locality
import Precompiled.Proofs.Load.Soundness
import Precompiled.Proofs.Registry.Entries

/-!
# What binds and loads depend on

A bind depends on the backend of its id only through what the metadata names, and so does a load of
that metadata. Around it a host may go on: it may register and take out other backends, change these
in any way, and change the backend of the id beside the metadata (`World.StepBeside`). One such step
leaves the backend of the id registered and in agreement with what it was, and so does a run of
them.
-/

namespace Precompiled

open Storage (Files Path)

variable {files : Files} {r r' : Registry Backend} {b b' : Backend} {o : LoadOptions} {path : Path}
  {id id' : BackendId} {m : Metadata}

-- ---------------------------------------------------------------------------
-- Two backends
-- ---------------------------------------------------------------------------

theorem Registry.bind_of_get? (h : r.get? id = some b) : r.bind id o m = b.bind id o m := by
  rw [Registry.bind, h]

theorem Registry.bind_under (hb : r.get? id = some b) (hb' : r'.get? id' = some b')
    (h : b.AgreesOn b' m) :
    (r'.bind id' o m).events = (r.bind id o m).events ∧
      (r'.bind id' o m).outcome = (r.bind id o m).outcome.map (·.under id') := by
  rw [bind_of_get? hb, bind_of_get? hb']
  exact h.bind_under

theorem load_under (hb : r.get? id = some b) (hb' : r'.get? id' = some b')
    (h : ∀ m, (o.reader.read files path).outcome = .ok m → b.AgreesOn b' m) :
    (load files r' o path id').outcome = (load files r o path id).outcome.map (·.under id') := by
  rw [outcome_load, outcome_load]
  cases o.check with
  | error fault => rfl
  | ok u =>
    cases hread : (o.reader.read files path).outcome with
    | error e => rfl
    | ok m =>
      change (r'.bind id' o m).outcome.mapError LoadError.bind =
        ((r.bind id o m).outcome.mapError LoadError.bind).map (·.under id')
      rw [(Registry.bind_under hb hb' (h m hread)).2]
      cases (r.bind id o m).outcome with
      | error e => rfl
      | ok module => rfl

theorem load_congr (h : ∀ m, (o.reader.read files path).outcome = .ok m →
    r'.bind id o m = r.bind id o m) : load files r' o path id = load files r o path id := by
  rw [load, load]
  congr 1
  rw [Load.run, Load.run]
  cases o.check with
  | error fault => rfl
  | ok u =>
    cases hread : (o.reader.read files path).outcome with
    | error e => simp only [Load.reading_error hread]
    | ok m => simp only [Load.reading_ok hread, h m hread]

-- ---------------------------------------------------------------------------
-- Around a bind
-- ---------------------------------------------------------------------------

/-- A registry of keys, and the backends that the keys stand for now. -/
structure World (κ : Type) where
  registry : Registry κ
  backends : κ → Hosted

namespace World

variable {κ : Type} {w w' : World κ} {key : κ} {was : Backend}

def view (w : World κ) : Registry Backend := w.registry.map fun key => (w.backends key).backend

theorem get?_view (h : w.registry.get? id = some key) :
    w.view.get? id = some (w.backends key).backend := by
  rw [view, Registry.get?_map, h, Option.map_some]

/-- The id names the key, and the backend of the key is as it was, as far as the metadata names
things in it. -/
structure Holds (id : BackendId) (key : κ) (m : Metadata) (was : Backend) (w : World κ) : Prop where
  sound : w.registry.Sound
  found : w.registry.get? id = some key
  agrees : was.AgreesOn (w.backends key).backend m

theorem Holds.init (hs : w.registry.Sound) (h : w.registry.get? id = some key) :
    Holds id key m (w.backends key).backend w :=
  ⟨hs, h, .refl _ m⟩

variable [DecidableEq κ]

/-- What may happen beside an id, its key and some metadata. -/
inductive StepBeside (id : BackendId) (key : κ) (m : Metadata) : World κ → World κ → Prop
  | register {w other} :
      StepBeside id key m w { w with registry := (w.registry.register other).2 }
  | unregister {w other} : id ≠ other →
      StepBeside id key m w { w with registry := (w.registry.unregister other).2 }
  | change {w now} : (w.backends key).ChangesBeside m now →
      StepBeside id key m w { w with backends := Function.update w.backends key now }
  | changeOther {w other now} : key ≠ other →
      StepBeside id key m w { w with backends := Function.update w.backends other now }

theorem Holds.step (h : Holds id key m was w) (hstep : StepBeside id key m w w') :
    Holds id key m was w' := by
  cases hstep with
  | register => exact ⟨h.sound.register _, h.sound.get?_register h.found _, h.agrees⟩
  | unregister hne => exact ⟨h.sound.unregister _, Registry.get?_unregister h.found hne, h.agrees⟩
  | change hchange =>
    refine ⟨h.sound, h.found, ?_⟩
    simp only [Function.update_self]
    exact h.agrees.trans hchange.agreesOn
  | changeOther hne =>
    refine ⟨h.sound, h.found, ?_⟩
    simp only [Function.update_of_ne hne]
    exact h.agrees

theorem Holds.steps (h : Holds id key m was w)
    (hsteps : Relation.ReflTransGen (StepBeside id key m) w w') : Holds id key m was w' := by
  induction hsteps with
  | refl => exact h
  | tail _ hstep ih => exact ih.step hstep

theorem bind_steps (hs : w.registry.Sound) (h : w.registry.get? id = some key)
    (hsteps : Relation.ReflTransGen (StepBeside id key m) w w') :
    w'.view.bind id o m = w.view.bind id o m := by
  have hheld := (Holds.init (m := m) hs h).steps hsteps
  rw [Registry.bind_of_get? (get?_view h), Registry.bind_of_get? (get?_view hheld.found),
    hheld.agrees.bind_eq]

end World

-- ---------------------------------------------------------------------------
-- The bind and the load
-- ---------------------------------------------------------------------------

/-- Two backends, of whatever kind and in whatever registry, that answer alike what a bind asks of
them give the same events and the same result, error or module, up to the id in the module. So do
loads of metadata on which they agree. Nothing that happens beside an id and the metadata changes
what is told or what comes of it. -/
theorem load_local :
    (∀ (r r' : Registry Backend) (id id' : BackendId) (b b' : Backend) (o : LoadOptions)
      (m : Metadata), r.get? id = some b → r'.get? id' = some b' → b.AgreesOn b' m →
      (r'.bind id' o m).events = (r.bind id o m).events ∧
      (r'.bind id' o m).outcome = (r.bind id o m).outcome.map (·.under id')) ∧
    (∀ (files : Files) (path : Path) (r r' : Registry Backend) (id id' : BackendId)
      (b b' : Backend) (o : LoadOptions), r.get? id = some b → r'.get? id' = some b' →
      (∀ m, (o.reader.read files path).outcome = .ok m → b.AgreesOn b' m) →
      (load files r' o path id').outcome = (load files r o path id).outcome.map (·.under id')) ∧
    (∀ (κ : Type) [DecidableEq κ] (ops : List (Registry.Op κ)) (backends : κ → Hosted)
      (id : BackendId) (key : κ) (m : Metadata) (w w' : World κ),
      w = ⟨(Registry.run ops).registry, backends⟩ → w.registry.get? id = some key →
      Relation.ReflTransGen (World.StepBeside id key m) w w' → ∀ o : LoadOptions,
      w'.view.bind id o m = w.view.bind id o m ∧
      ∀ (files : Files) (path : Path),
        (∀ read, (o.reader.read files path).outcome = .ok read → read = m) →
        load files w'.view o path id = load files w.view o path id) := by
  refine ⟨fun r r' id id' b b' o m hb hb' h => Registry.bind_under hb hb' h,
    fun files path r r' id id' b b' o hb hb' h => load_under hb hb' h, ?_⟩
  rintro κ _ ops backends id key m w w' rfl hkey hsteps o
  have hbind := World.bind_steps (o := o) (Registry.run_sound ops) hkey hsteps
  refine ⟨hbind, fun files path hread => load_congr fun read h => ?_⟩
  rw [hread read h, hbind]

def LibraryBackend.adder : LibraryBackend :=
  let exports (symbol : String) : Option EntryPoint :=
    if symbol = "k_add" then EntryPoint.at? 0x10 else none
  LibraryBackend.declare
    { name := "host", arch := "x86_64", libraries := [{ path := "libadd.so", exports }] }
    { name := "x", type := .f32, shape := [4] }

/-- The table of `Registry.adder` and a library give the same module, and a table to which another
symbol was added, beside a backend that was taken out, gives the module that it gave before. -/
theorem load_local_of_library :
    let table : SymbolTable := { name := "host", arch := some "x86_64" }
    let field : Field := { name := "x", type := .f32, shape := [4] }
    let adder := (table.define "k_add" ⟨0x10, by decide⟩).declare field
    let ops : List (Registry.Op Bool) := [.register false, .register true]
    let backends (key : Bool) : Hosted :=
      if key then .library LibraryBackend.adder else .table adder
    let w : World Bool := ⟨(Registry.run ops).registry, backends⟩
    let now : Hosted := .table (adder.define "k_other" ⟨0x20, by decide⟩)
    let w' : World Bool :=
      ⟨(w.registry.unregister ⟨1, 0⟩).2, Function.update w.backends false now⟩
    ∃ module, (load looseTree.files w.view {} "art" ⟨0, 0⟩).outcome = .ok module ∧
      (load looseTree.files w.view {} "art" ⟨1, 0⟩).outcome = .ok (module.under ⟨1, 0⟩) ∧
      (w.view.bind ⟨1, 0⟩ {} .adder).outcome =
        (w.view.bind ⟨0, 0⟩ {} .adder).outcome.map (·.under ⟨1, 0⟩) ∧
      load looseTree.files w'.view {} "art" ⟨0, 0⟩ =
        load looseTree.files w.view {} "art" ⟨0, 0⟩ := by
  intro table field adder ops backends w now w'
  have hread : (({} : LoadOptions).reader.read looseTree.files "art").outcome = .ok .adder :=
    read_looseTree (by decide)
  have hread' (m : Metadata)
      (h : (({} : LoadOptions).reader.read looseTree.files "art").outcome = .ok m) :
      m = .adder := by
    rw [hread, Except.ok.injEq] at h
    exact h.symm
  have hb : w.view.get? ⟨0, 0⟩ = some adder.backend := rfl
  have hb' : w.view.get? ⟨1, 0⟩ = some LibraryBackend.adder.backend := rfl
  have hagrees : adder.backend.AgreesOn LibraryBackend.adder.backend .adder :=
    ⟨rfl, rfl, by decide, by decide⟩
  have hsuits : adder.backend.Suits false .adder := ⟨nofun, by decide, by decide⟩
  obtain ⟨module, hbind⟩ :=
    (Registry.exists_bind (o := {})).mpr ⟨adder.backend, hb, hsuits⟩
  have hload := load_ok_iff.mpr ⟨rfl, .adder, hread, hbind⟩
  obtain ⟨hbinds, hloads, hworlds⟩ := load_local
  have hlibrary := hloads looseTree.files "art" w.view w.view ⟨0, 0⟩ ⟨1, 0⟩ _ _ {} hb hb'
    fun m hm => by rw [hread' m hm]; exact hagrees
  rw [hload] at hlibrary
  have hfirst : World.StepBeside ⟨0, 0⟩ false .adder w
      ⟨(w.registry.unregister ⟨1, 0⟩).2, w.backends⟩ := .unregister (by decide)
  have hsecond : World.StepBeside ⟨0, 0⟩ false .adder
      ⟨(w.registry.unregister ⟨1, 0⟩).2, w.backends⟩ w' := .change (.define (by decide))
  have hworld := hworlds Bool ops backends ⟨0, 0⟩ false .adder w w' rfl rfl
    (.tail (.single hfirst) hsecond) {}
  exact ⟨module, hload, hlibrary, (hbinds _ _ _ _ _ _ {} _ hb hb' hagrees).2,
    hworld.2 looseTree.files "art" hread'⟩

end Precompiled
