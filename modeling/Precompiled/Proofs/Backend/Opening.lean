import Precompiled.Backend.Host
import Precompiled.Proofs.Bind.Locality

/-!
# Opening more libraries

Libraries are searched in the order in which they were opened, and a library that is opened goes to
the end. So what a symbol stands for does not change any more once a library has it, whatever is
opened later, whether or not the machine or the library itself has changed in the meantime; and a
module that could be bound can be bound to the same kernels and fields.
-/

namespace Precompiled

open Storage (Path)

/-- A call that opens a library: the path, and the machine as it is at the time of the call. -/
structure Opening where
  host : Host
  path : Path

/-- The library that a call opens, if it can be opened. -/
def Opening.library? (call : Opening) : Option Library :=
  (Library.openAt call.host call.path).toOption

namespace LibraryBackend

/-- The backend after a call. One that fails leaves the backend as it is. -/
def after (b : LibraryBackend) (call : Opening) : LibraryBackend :=
  match (b.openLibrary call.host call.path).outcome with
  | .ok opened => opened
  | .error _ => b

def afterAll (b : LibraryBackend) (calls : List Opening) : LibraryBackend := calls.foldl after b

def extend (b : LibraryBackend) (more : List Library) : LibraryBackend :=
  { b with libraries := b.libraries ++ more }

/-- The first of some libraries that has a symbol has it at an entry point. -/
def FirstGives (libraries : List Library) (symbol : String) (entry : EntryPoint) : Prop :=
  ∃ before l after, libraries = before ++ l :: after ∧ l.resolve symbol = some entry ∧
    ∀ earlier ∈ before, earlier.resolve symbol = none

variable {b : LibraryBackend} {call : Opening} {calls : List Opening} {symbol : String}
  {entry : EntryPoint}

-- ---------------------------------------------------------------------------
-- One call
-- ---------------------------------------------------------------------------

theorem openLibrary_ok {host : Host} {path : Path} {opened : LibraryBackend} :
    (b.openLibrary host path).outcome = .ok opened ↔
      ∃ l, Library.openAt host path = .ok l ∧ opened = b.extend [l] := by
  simp only [openLibrary, Attempt.outcome_bind, Attempt.outcome_lift, Attempt.outcome_tell,
    Attempt.outcome_pure, bind_ok, Except.ok.injEq]
  constructor
  · rintro ⟨l, hl, -, -, rfl⟩
    exact ⟨l, hl, rfl⟩
  · rintro ⟨l, hl, rfl⟩
    exact ⟨l, hl, (), trivial, rfl⟩

theorem openLibrary_error {host : Host} {path : Path} {e : Library.Error} :
    (b.openLibrary host path).outcome = .error e ↔ Library.openAt host path = .error e := by
  simp [openLibrary, bind_error]

theorem after_of_error {e : Library.Error}
    (h : (b.openLibrary call.host call.path).outcome = .error e) : b.after call = b := by
  rw [after, h]

theorem after_of_ok {opened : LibraryBackend}
    (h : (b.openLibrary call.host call.path).outcome = .ok opened) : b.after call = opened := by
  rw [after, h]

theorem extend_nil (b : LibraryBackend) : b.extend [] = b := by
  rw [extend, List.append_nil]

theorem extend_extend (b : LibraryBackend) (more others : List Library) :
    (b.extend more).extend others = b.extend (more ++ others) := by
  simp only [extend, List.append_assoc]

theorem after_eq_extend (b : LibraryBackend) (call : Opening) :
    b.after call = b.extend call.library?.toList := by
  cases h : Library.openAt call.host call.path with
  | error e =>
    rw [after_of_error (openLibrary_error.mpr h), Opening.library?, h]
    exact (extend_nil b).symm
  | ok l =>
    rw [after_of_ok (openLibrary_ok.mpr ⟨l, h, rfl⟩), Opening.library?, h]
    rfl

-- ---------------------------------------------------------------------------
-- Many calls
-- ---------------------------------------------------------------------------

theorem afterAll_eq_extend (b : LibraryBackend) (calls : List Opening) :
    b.afterAll calls = b.extend (calls.filterMap Opening.library?) := by
  induction calls generalizing b with
  | nil => exact (extend_nil b).symm
  | cons call rest ih =>
    have hcons : (call :: rest).filterMap Opening.library? =
        call.library?.toList ++ rest.filterMap Opening.library? := by
      cases h : call.library? <;> simp [h]
    rw [afterAll, List.foldl_cons, ← afterAll, ih, after_eq_extend, extend_extend, hcons]

theorem resolve_eq_some : b.resolve symbol = some entry ↔ FirstGives b.libraries symbol entry := by
  rw [resolve, List.findSome?_eq_some_iff]
  rfl

theorem resolve_extend (h : b.resolve symbol = some entry) (more : List Library) :
    (b.extend more).resolve symbol = some entry := by
  rw [extend, resolve_append, h, Option.some_or]

theorem agreesOn_extend {requireDeclared : Bool} {m : Metadata}
    (h : b.backend.Suits requireDeclared m) (more : List Library) :
    b.backend.AgreesOn (b.extend more).backend m := by
  refine ⟨rfl, rfl, fun k hk => ?_, fun f _ => rfl⟩
  obtain ⟨entry, hentry⟩ := Option.isSome_iff_exists.mp (h.kernels k hk)
  have hlater : (b.extend more).backend.resolve k.symbol = some entry := resolve_extend hentry more
  rw [hlater, hentry]

theorem isName_eq_false (h : '\x00' ∈ symbol.toList) : Library.isName symbol = false := by
  simp [Library.isName, h]

-- ---------------------------------------------------------------------------
-- What stays
-- ---------------------------------------------------------------------------

variable {id id' : BackendId} {o : LoadOptions} {m : Metadata} {module : Module}

theorem bind_extend {r r' : Registry Backend} {more : List Library}
    (hb : r.get? id = some b.backend) (hb' : r'.get? id' = some (b.extend more).backend)
    (h : (r.bind id o m).outcome = .ok module) :
    (r'.bind id' o m).outcome = .ok (module.under id') := by
  rw [Registry.bind, hb] at h
  have hagrees := agreesOn_extend (Backend.bind_ok_iff.mp h).1 more
  rw [Registry.bind, hb']
  have hmap := congrArg (Except.map (·.under id')) h
  exact hagrees.bind_under.2.trans hmap

/-- A call that cannot open its library leaves the backend as it is, and one that can adds the
library at the end. After any calls, on any machines, the libraries are those from before and then
the ones that were opened, in order, and nothing else has changed. A symbol that an entry point was
found for still has it, from the first library that has the symbol. So metadata that a module was
bound from gives the same module, with the same kernels and fields, against the backend with the
libraries opened. A symbol with a NUL in it is never found. -/
theorem opening_keeps (b : LibraryBackend) (calls : List Opening) :
    (∀ call : Opening,
      (∀ e, (b.openLibrary call.host call.path).outcome = .error e → b.after call = b) ∧
      (∀ opened, (b.openLibrary call.host call.path).outcome = .ok opened →
        b.after call = opened ∧ ∃ l, Library.openAt call.host call.path = .ok l ∧
          opened.libraries = b.libraries ++ [l])) ∧
    b.afterAll calls =
      { b with libraries := b.libraries ++ calls.filterMap Opening.library? } ∧
    (∀ symbol entry, b.resolve symbol = some entry →
      (b.afterAll calls).resolve symbol = some entry ∧
        FirstGives (b.afterAll calls).libraries symbol entry) ∧
    (∀ (r r' : Registry Backend) (id id' : BackendId) (o : LoadOptions) (m : Metadata)
      (module : Module), r.get? id = some b.backend →
      r'.get? id' = some (b.afterAll calls).backend → (r.bind id o m).outcome = .ok module →
      (r'.bind id' o m).outcome = .ok (module.under id')) ∧
    (∀ symbol, '\x00' ∈ symbol.toList → (b.afterAll calls).resolve symbol = none) := by
  have hall := afterAll_eq_extend b calls
  refine ⟨fun call => ⟨fun e h => after_of_error h, fun opened h => ⟨after_of_ok h, ?_⟩⟩, hall,
    fun symbol entry h => ?_, fun r r' id id' o m module hb hb' h => ?_, fun symbol h =>
    resolve_eq_none_of_nul _ (isName_eq_false h)⟩
  · obtain ⟨l, hl, rfl⟩ := openLibrary_ok.mp h
    exact ⟨l, hl, rfl⟩
  · have hlater : (b.afterAll calls).resolve symbol = some entry := by
      rw [hall]
      exact resolve_extend h _
    exact ⟨hlater, resolve_eq_some.mp hlater⟩
  · rw [hall] at hb'
    exact bind_extend hb hb' h

/-- A machine on which every library has every symbol, at one entry point. -/
def crowded : Host :=
  { Host.standard with library := fun _ => .ok fun _ => some ⟨0x20, by decide⟩ }

/-- Of four calls three fail. The library of the other has the symbols of the process at another
place, and a kernel that is bound to one of them keeps its entry point all the same. -/
theorem opening_keeps_of_crowded :
    let b := ofProcess .standard "host"
    let calls : List Opening :=
      [⟨.standard, "missing.so"⟩, ⟨crowded, ⟨[0x61, 0x00]⟩⟩, ⟨crowded, "late.so"⟩,
        ⟨crowded, ⟨[0xFF]⟩⟩]
    let entry : EntryPoint := ⟨0x7F0000002000, by decide⟩
    let copy : Kernel := { name := "copy", symbol := "memcpy", args := [.u64] }
    let m : Metadata := { version := 1, kernels := [copy] }
    let r : Registry Backend := { slots := [⟨0, some b.backend⟩] }
    let r' : Registry Backend := { slots := [⟨7, some (b.afterAll calls).backend⟩] }
    (b.afterAll calls).paths = ["<process>", "late.so"] ∧
      (b.afterAll calls).resolve "memcpy" = some entry ∧
      (b.afterAll calls).resolve "late" = some ⟨0x20, by decide⟩ ∧
      (b.afterAll calls).resolve "mem\x00cpy" = none ∧
      ∃ module, (r.bind ⟨0, 0⟩ {} m).outcome = .ok module ∧
        (r'.bind ⟨0, 7⟩ {} m).outcome = .ok (module.under ⟨0, 7⟩) := by
  intro b calls entry copy m r r'
  obtain ⟨-, hall, hkeeps, hbind, hnul⟩ := opening_keeps b calls
  have hsuits : b.backend.Suits false m := ⟨nofun, by decide, by decide⟩
  obtain ⟨module, hm⟩ : ∃ module, (r.bind ⟨0, 0⟩ {} m).outcome = .ok module :=
    Registry.exists_bind.mpr ⟨b.backend, rfl, hsuits⟩
  refine ⟨by rw [hall]; rfl, (hkeeps "memcpy" entry rfl).1, by rw [hall]; rfl,
    hnul "mem\x00cpy" (by decide), module, hm, ?_⟩
  exact hbind r r' ⟨0, 0⟩ ⟨0, 7⟩ {} m module rfl rfl hm

end LibraryBackend
end Precompiled
