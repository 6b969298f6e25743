import Precompiled.Proofs.Load.Soundness

/-!
# The stages of a load

A load takes one of four courses (`Load.Course`): its options are not valid, the artifact cannot be
read, the metadata cannot be bound, or there is a module. Reading and binding tell only details, so
the transitions that the load tells are those of its course, and its last event is the only one that
is more than a detail.
-/

namespace Precompiled

open Storage (Files Path)

def Event.transition? : Event → Option (Path × Stage × Stage)
  | .stageReached path last next => some (path, last, next)
  | _ => none

/-- A detail of the work, which tells neither of a stage nor of how a load ends. -/
def Event.Detail (e : Event) : Prop := e.transition? = none ∧ e.level = .debug

namespace Attempt

variable {ε δ α β : Type} {a : Attempt ε α}

def transitions (a : Attempt ε α) : List (Path × Stage × Stage) :=
  a.events.filterMap Event.transition?

def Quiet (a : Attempt ε α) : Prop := ∀ e ∈ a.events, e.Detail

theorem Quiet.filterMap_events (h : a.Quiet) : a.events.filterMap Event.transition? = [] :=
  List.filterMap_eq_nil_iff.mpr fun e he => (h e he).1

theorem quiet_pure (value : α) : (pure value : Attempt ε α).Quiet := nofun

theorem quiet_fail (e : ε) : (fail e : Attempt ε α).Quiet := nofun

theorem quiet_lift (x : Except ε α) : (liftM x : Attempt ε α).Quiet := nofun

theorem quiet_tell {e : Event} (h : e.Detail) : (tell e : Attempt ε Unit).Quiet := by
  intro other he
  rwa [List.mem_singleton.mp he]

theorem Quiet.bind {next : α → Attempt ε β} (h : a.Quiet) (hnext : ∀ value, (next value).Quiet) :
    (a >>= next).Quiet := by
  rw [bind_def]
  cases ha : a.outcome with
  | ok value =>
    rw [andThen_ok next ha]
    intro e he
    rcases List.mem_append.mp he with he | he
    · exact h e he
    · exact hnext value e he
  | error e =>
    rw [andThen_error next ha]
    exact h

end Attempt

open Attempt (Quiet quiet_pure quiet_fail quiet_lift quiet_tell)

-- ---------------------------------------------------------------------------
-- Reading and binding
-- ---------------------------------------------------------------------------

theorem Artifact.Reader.read_quiet (r : Reader) (files : Files) (dir : Path) :
    (r.read files dir).Quiet := by
  have hdetail (m : Metadata) :
      (Event.metadataRead dir m.kernels.length m.fields.length).Detail := ⟨rfl, rfl⟩
  unfold read
  refine (quiet_lift _).bind fun _ => (quiet_lift _).bind fun _ => ?_
  refine (quiet_tell ⟨rfl, rfl⟩).bind fun _ => (quiet_lift _).bind fun _ => ?_
  -- Whether the check value is compared makes no difference to what is told.
  split
  · refine (quiet_lift _).bind fun _ => (quiet_lift _).bind fun m => ?_
    exact (quiet_tell (hdetail m)).bind fun _ => quiet_pure _
  · exact (quiet_lift _).bind fun m => (quiet_tell (hdetail m)).bind fun _ => quiet_pure _

theorem Backend.bindKernel_quiet (b : Backend) (k : Kernel) : (b.bindKernel k).Quiet := by
  unfold bindKernel
  split
  · exact quiet_fail _
  · exact (quiet_tell ⟨rfl, rfl⟩).bind fun _ => quiet_pure _

theorem Backend.bindKernels_quiet (b : Backend) (ks : List Kernel) : (b.bindKernels ks).Quiet := by
  induction ks with
  | nil => exact quiet_pure _
  | cons k rest ih =>
    exact (b.bindKernel_quiet k).bind fun _ => ih.bind fun _ => quiet_pure _

theorem Backend.bind_quiet (b : Backend) (id : BackendId) (o : LoadOptions) (m : Metadata) :
    (b.bind id o m).Quiet := by
  unfold Backend.bind
  refine (quiet_lift _).bind fun _ => (b.bindKernels_quiet _).bind fun _ => ?_
  exact (quiet_lift _).bind fun _ => (quiet_tell ⟨rfl, rfl⟩).bind fun _ => quiet_pure _

theorem Registry.bind_quiet (r : Registry Backend) (id : BackendId) (o : LoadOptions)
    (m : Metadata) : (r.bind id o m).Quiet := by
  unfold Registry.bind
  split
  · exact Backend.bind_quiet _ _ _ _
  · exact quiet_fail _

-- ---------------------------------------------------------------------------
-- The work of a load
-- ---------------------------------------------------------------------------

variable {files : Files} {r : Registry Backend} {o : LoadOptions} {path : Path} {id : BackendId}
  {m : Metadata}

namespace Load

theorem events_reading :
    (reading files o path).events =
      .stageReached path .unloaded .reading :: (o.reader.read files path).events := rfl

theorem run_of_invalid {fault : LoadOptions.Invalid} (h : o.check = .error fault) :
    run files r o path id = ⟨.unloaded, .fail (.options (.invalid fault))⟩ := by
  rw [run, h]

theorem run_of_unread {e : Artifact.Error} (ho : o.check = .ok ())
    (h : (o.reader.read files path).outcome = .error e) :
    run files r o path id =
      ⟨.reading, ⟨.stageReached path .unloaded .reading :: (o.reader.read files path).events,
        .error (.artifact e)⟩⟩ := by
  rw [run, ho]
  simp only [reading_error h, events_reading]

theorem run_of_read (ho : o.check = .ok ()) (h : (o.reader.read files path).outcome = .ok m) :
    run files r o path id =
      ⟨.binding, ⟨.stageReached path .unloaded .reading :: (o.reader.read files path).events ++
        .stageReached path .reading .binding :: (r.bind id o m).events,
        (r.bind id o m).outcome.mapError .bind⟩⟩ := by
  rw [run, ho]
  simp only [reading_ok h, events_reading]
  rfl

theorem transitions_of_unread {e : Artifact.Error} (ho : o.check = .ok ())
    (h : (o.reader.read files path).outcome = .error e) :
    (run files r o path id).attempt.transitions = [(path, .unloaded, .reading)] := by
  rw [run_of_unread ho h, Attempt.transitions, List.filterMap_cons,
    (o.reader.read_quiet files path).filterMap_events]
  rfl

theorem transitions_of_read (ho : o.check = .ok ())
    (h : (o.reader.read files path).outcome = .ok m) :
    (run files r o path id).attempt.transitions =
      [(path, .unloaded, .reading), (path, .reading, .binding)] := by
  rw [run_of_read ho h, Attempt.transitions, List.filterMap_append, List.filterMap_cons,
    List.filterMap_cons, (o.reader.read_quiet files path).filterMap_events,
    (r.bind_quiet id o m).filterMap_events]
  rfl

def lastStage : Except LoadError Module → Stage
  | .ok _ => .bound
  | .error _ => .failed

def lastEvent (path : Path) (id : BackendId) : Except LoadError Module → Event
  | .ok m => .loaded path m.kernels.length m.fields.length id
  | .error e => .loadFailed path e.message

theorem events_load :
    (load files r o path id).events = (run files r o path id).attempt.events ++
      [.stageReached path (run files r o path id).stage (lastStage (load files r o path id).outcome),
        lastEvent path id (load files r o path id).outcome] := by
  rw [load, outcome_conclude]
  generalize run files r o path id = work
  unfold Run.conclude
  split <;> simp [*, lastStage, lastEvent]

theorem transitions_load :
    (load files r o path id).transitions = (run files r o path id).attempt.transitions ++
      [(path, (run files r o path id).stage, lastStage (load files r o path id).outcome)] := by
  rw [Attempt.transitions, events_load, List.filterMap_append]
  cases (load files r o path id).outcome <;> rfl

-- ---------------------------------------------------------------------------
-- Courses
-- ---------------------------------------------------------------------------

/-- The course of a load: the stages that it enters, and its outcome. -/
inductive Course (files : Files) (r : Registry Backend) (o : LoadOptions) (path : Path)
    (id : BackendId) : List Stage → Except LoadError Module → Prop
  | invalid {fault} : o.check = .error fault →
      Course files r o path id [.unloaded, .failed] (.error (.options (.invalid fault)))
  | unread {e} : o.check = .ok () → (o.reader.read files path).outcome = .error e →
      Course files r o path id [.unloaded, .reading, .failed] (.error (.artifact e))
  | unbound {m e} : o.check = .ok () → (o.reader.read files path).outcome = .ok m →
      (r.bind id o m).outcome = .error e →
      Course files r o path id [.unloaded, .reading, .binding, .failed] (.error (.bind e))
  | bound {m module} : o.check = .ok () → (o.reader.read files path).outcome = .ok m →
      (r.bind id o m).outcome = .ok module →
      Course files r o path id [.unloaded, .reading, .binding, .bound] (.ok module)

def transitionsOf (path : Path) (stages : List Stage) : List (Path × Stage × Stage) :=
  (stages.zip stages.tail).map fun (last, next) => (path, last, next)

variable {stages : List Stage} {result : Except LoadError Module}

theorem exists_course (files : Files) (r : Registry Backend) (o : LoadOptions) (path : Path)
    (id : BackendId) : ∃ stages outcome, Course files r o path id stages outcome := by
  cases ho : o.check with
  | error fault => exact ⟨_, _, .invalid ho⟩
  | ok u =>
    cases hread : (o.reader.read files path).outcome with
    | error e => exact ⟨_, _, .unread ho hread⟩
    | ok m =>
      cases hbind : (r.bind id o m).outcome with
      | error e => exact ⟨_, _, .unbound ho hread hbind⟩
      | ok module => exact ⟨_, _, .bound ho hread hbind⟩

theorem Course.outcome (h : Course files r o path id stages result) :
    (load files r o path id).outcome = result := by
  cases h with
  | invalid ho =>
    rw [outcome_load, ho]
    rfl
  | unread ho hread => exact load_error_of_read ho hread
  | unbound ho hread hbind | bound ho hread hbind =>
    rw [outcome_load_of_read ho hread, hbind]
    rfl

theorem Course.transitions (h : Course files r o path id stages result) :
    (load files r o path id).transitions = transitionsOf path stages := by
  rw [transitions_load, h.outcome]
  cases h with
  | invalid ho =>
    rw [run_of_invalid ho]
    rfl
  | unread ho hread =>
    rw [transitions_of_unread ho hread, run_of_unread ho hread]
    rfl
  | unbound ho hread | bound ho hread =>
    rw [transitions_of_read ho hread, run_of_read ho hread]
    rfl

theorem Course.details (h : Course files r o path id stages result) :
    ∀ e ∈ (run files r o path id).attempt.events, e.level = .debug := by
  have hread : ∀ e ∈ (o.reader.read files path).events, e.level = .debug :=
    fun e he => (o.reader.read_quiet files path e he).2
  have hbind (m : Metadata) : ∀ e ∈ (r.bind id o m).events, e.level = .debug :=
    fun e he => (r.bind_quiet id o m e he).2
  cases h with
  | invalid ho =>
    rw [run_of_invalid ho]
    exact nofun
  | unread ho hfault =>
    rw [run_of_unread ho hfault]
    exact List.forall_mem_cons.mpr ⟨rfl, hread⟩
  | unbound ho hm | bound ho hm =>
    rw [run_of_read ho hm]
    exact List.forall_mem_append.mpr
      ⟨List.forall_mem_cons.mpr ⟨rfl, hread⟩, List.forall_mem_cons.mpr ⟨rfl, hbind _⟩⟩

theorem Course.nodup (h : Course files r o path id stages result) : stages.Nodup := by
  cases h <;> decide

theorem Course.terminal (h : Course files r o path id stages result) :
    ∀ stage ∈ stages.dropLast, stage.isTerminal = false := by
  cases h <;> decide

theorem Course.bound_iff (h : Course files r o path id stages result) :
    transitionsOf path stages = transitionsOf path [.unloaded, .reading, .binding, .bound] ↔
      ∃ module, result = .ok module := by
  cases h <;> simp [transitionsOf]

end Load

-- ---------------------------------------------------------------------------
-- The load
-- ---------------------------------------------------------------------------

open Load (transitionsOf)

/-- Options that are not valid are the error of a load, whatever there is to read and to bind;
otherwise the fault of reading is, whatever is registered; otherwise the load comes to what the bind
of the metadata comes to. Each of these has its own transitions, and those that end in the bound
stage are told exactly if there is a module. No stage is entered twice and none after one that ends
a load. The last event is the only one that is more than a detail: it tells of the module, or why
there is none. -/
theorem load_stages (files : Files) (r : Registry Backend) (o : LoadOptions) (path : Path)
    (id : BackendId) :
    let a := load files r o path id
    (∀ fault, o.check = .error fault →
      a.outcome = .error (.options (.invalid fault)) ∧
      a.transitions = transitionsOf path [.unloaded, .failed]) ∧
    (∀ e, o.check = .ok () → (o.reader.read files path).outcome = .error e →
      a.outcome = .error (.artifact e) ∧
      a.transitions = transitionsOf path [.unloaded, .reading, .failed]) ∧
    (∀ m, o.check = .ok () → (o.reader.read files path).outcome = .ok m →
      a.outcome = (r.bind id o m).outcome.mapError .bind ∧
      ∀ e, (r.bind id o m).outcome = .error e →
        a.transitions = transitionsOf path [.unloaded, .reading, .binding, .failed]) ∧
    (a.transitions = transitionsOf path [.unloaded, .reading, .binding, .bound] ↔
      ∃ module, a.outcome = .ok module) ∧
    (∃ stages, a.transitions = transitionsOf path stages ∧ stages.Nodup ∧
      ∀ stage ∈ stages.dropLast, stage.isTerminal = false) ∧
    ∃ earlier last, a.events = earlier ++ [last] ∧ (∀ e ∈ earlier, e.level = .debug) ∧
      (∀ module, a.outcome = .ok module → last.level = .info ∧
        last = .loaded path module.kernels.length module.fields.length id) ∧
      (∀ e, a.outcome = .error e → last.level = .warn ∧ last = .loadFailed path e.message) := by
  intro a
  obtain ⟨stages, result, hcourse⟩ := Load.exists_course files r o path id
  have houtcome : a.outcome = result := hcourse.outcome
  have htransitions : a.transitions = transitionsOf path stages := hcourse.transitions
  refine ⟨?_, ?_, ?_, ?_, ⟨stages, htransitions, hcourse.nodup, hcourse.terminal⟩, ?_⟩
  · intro fault ho
    have hinvalid : Load.Course files r o path id _ _ := .invalid ho
    exact ⟨hinvalid.outcome, hinvalid.transitions⟩
  · intro e ho hread
    have hunread : Load.Course files r o path id _ _ := .unread ho hread
    exact ⟨hunread.outcome, hunread.transitions⟩
  · intro m ho hread
    refine ⟨outcome_load_of_read ho hread, fun e hbind => ?_⟩
    exact (Load.Course.unbound ho hread hbind).transitions
  · rw [htransitions, houtcome]
    exact hcourse.bound_iff
  · refine ⟨_, Load.lastEvent path id a.outcome,
      Load.events_load.trans (List.append_cons _ _ _), ?_, fun module hm => ?_, fun e he => ?_⟩
    · exact List.forall_mem_append.mpr ⟨hcourse.details, by simp [Event.level]⟩
    · rw [hm]
      exact ⟨rfl, rfl⟩
    · rw [he]
      exact ⟨rfl, rfl⟩

/-- One load of each course. -/
theorem load_stages_of_loose :
    let inverted : LoadOptions := { versions := ⟨5, 1⟩ }
    let id : BackendId := ⟨0, 0⟩
    let nowhere : Storage.FileTree := {}
    (load looseTree.files .ofAdder inverted "art" id).transitions =
        transitionsOf "art" [.unloaded, .failed] ∧
      (load nowhere.files .ofAdder {} "art" id).transitions =
        transitionsOf "art" [.unloaded, .reading, .failed] ∧
      (load looseTree.files {} {} "art" id).transitions =
        transitionsOf "art" [.unloaded, .reading, .binding, .failed] ∧
      (load looseTree.files .ofAdder {} "art" id).transitions =
        transitionsOf "art" [.unloaded, .reading, .binding, .bound] := by
  intro inverted id nowhere
  have hread : (({} : LoadOptions).reader.read looseTree.files "art").outcome = .ok .adder :=
    read_looseTree (by decide)
  have hb : Registry.ofAdder.get? id = some Registry.adder := rfl
  obtain ⟨module, hbind⟩ := (Registry.exists_bind (o := {})).mpr
    ⟨Registry.adder, hb, (⟨nofun, by decide, by decide⟩ : Registry.adder.Suits false .adder)⟩
  obtain ⟨hinvalid, -⟩ := load_stages looseTree.files .ofAdder inverted "art" id
  obtain ⟨-, hunread, -⟩ := load_stages nowhere.files .ofAdder {} "art" id
  obtain ⟨-, -, hunbound, -⟩ := load_stages looseTree.files {} {} "art" id
  obtain ⟨-, -, -, hbound, -⟩ := load_stages looseTree.files .ofAdder {} "art" id
  exact ⟨(hinvalid _ rfl).2, (hunread _ rfl rfl).2, (hunbound .adder rfl hread).2 _ rfl,
    hbound.mpr ⟨module, load_ok_iff.mpr ⟨rfl, .adder, hread, hbind⟩⟩⟩

end Precompiled
