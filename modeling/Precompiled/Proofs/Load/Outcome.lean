import Precompiled.Load
import Precompiled.Proofs.Artifact.Stages
import Precompiled.Proofs.Bind.Outcome

/-!
# What a load comes to

A load checks its options, reads and binds. The first of the three that fails gives the error.
-/

namespace Precompiled

open Artifact (Reader supportedVersions)
open Storage (Files Path)

theorem LoadOptions.check_ok {o : LoadOptions} {u : Unit} :
    o.check = .ok u ↔ supportedVersions.min ≤ o.versions.min ∧ o.versions.min ≤ o.versions.max ∧
      o.versions.max ≤ supportedVersions.max := by
  simp only [check]
  split
  · simp [UInt32.not_le.mpr ‹_›]
  split
  · rename_i hout
    rw [← UInt32.not_le, ← UInt32.not_le] at hout
    simp only [reduceCtorEq, false_iff]
    rintro ⟨hmin, -, hmax⟩
    exact hout.elim (· hmin) (· hmax)
  · rename_i hordered hout
    rw [not_or, UInt32.not_lt, UInt32.not_lt] at hout
    simp [hout, UInt32.not_lt.mp hordered]

variable {files : Files} {r : Registry Backend} {o : LoadOptions} {path : Path} {id : BackendId}

namespace Load

theorem outcome_reading :
    (reading files o path).outcome = (o.reader.read files path).outcome.mapError .artifact := by
  simp only [reading, reach, Attempt.outcome_bind, Attempt.outcome_tell, Attempt.outcome_mapError]
  rfl

theorem reading_ok {m : Metadata} (h : (o.reader.read files path).outcome = .ok m) :
    (reading files o path).outcome = .ok m := by
  rw [outcome_reading, h]
  rfl

theorem reading_error {e : Artifact.Error} (h : (o.reader.read files path).outcome = .error e) :
    (reading files o path).outcome = .error (.artifact e) := by
  rw [outcome_reading, h]
  rfl

theorem outcome_conclude (run : Run) :
    (run.conclude path id).outcome = run.attempt.outcome := by
  unfold Run.conclude
  split <;> simp [*]

end Load

theorem outcome_load :
    (load files r o path id).outcome = (do
      o.check.mapError fun fault => .options (.invalid fault)
      let m ← (o.reader.read files path).outcome.mapError .artifact
      (r.bind id o m).outcome.mapError .bind) := by
  rw [load, Load.outcome_conclude, Load.run]
  cases ho : o.check with
  | error fault => rfl
  | ok u =>
    simp only [Load.outcome_reading]
    cases hr : (o.reader.read files path).outcome with
    | error e => rfl
    | ok m => rfl

theorem outcome_load_of_read {m : Metadata} (ho : o.check = .ok ())
    (hread : (o.reader.read files path).outcome = .ok m) :
    (load files r o path id).outcome = (r.bind id o m).outcome.mapError .bind := by
  rw [outcome_load, ho, hread]
  rfl

theorem load_error_of_read {e : Artifact.Error} (ho : o.check = .ok ())
    (hread : (o.reader.read files path).outcome = .error e) :
    (load files r o path id).outcome = .error (.artifact e) := by
  rw [outcome_load, ho, hread]
  rfl

theorem load_ok_iff {module : Module} :
    (load files r o path id).outcome = .ok module ↔
      o.check = .ok () ∧ ∃ m, (o.reader.read files path).outcome = .ok m ∧
        (r.bind id o m).outcome = .ok module := by
  simp only [outcome_load, bind_ok, mapError_ok]
  constructor
  · rintro ⟨⟨⟩, ho, m, hm, hb⟩
    exact ⟨ho, m, hm, hb⟩
  · rintro ⟨ho, m, hm, hb⟩
    exact ⟨(), ho, m, hm, hb⟩

end Precompiled
