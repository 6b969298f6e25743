import Mathlib.Logic.Relation
import Precompiled.Proofs.Json.Derivation
import Precompiled.Proofs.Json.Members
import Precompiled.Proofs.Metadata.Document

/-!
# Newer documents

Later revisions of the format add keys. A document is read as the same record after any change that
such a revision may make of its objects, and after any change of the order of their members and of
the blanks between them. What no document may have is a known key twice.
-/

namespace Precompiled.Record

open Json

-- ---------------------------------------------------------------------------
-- Documents
-- ---------------------------------------------------------------------------

def Kernel.assumed : List (String × Value) := [("args", .array [] true)]

def Field.assumed : List (String × Value) := [("shape", .array [] true)]

def assumed : List (String × Value) :=
  [("arch", .null), ("kernels", .array [] true), ("fields", .array [] true)]

/-- Another text for one of the objects of a record. -/
inductive Revision : Value → Value → Prop
  | top {members members'} : MemberRevision reading.names assumed members members' →
      Revision (.object members true) (.object members' true)
  | kernel {v v'} : ItemRevision "kernels" Kernel.reading.names Kernel.assumed v v' → Revision v v'
  | field {v v'} : ItemRevision "fields" Field.reading.names Field.assumed v v' → Revision v v'

/-- An object of a record, with the names that are known in it. -/
inductive ObjectOf : Value → List String → List (Bytes × Value) → Prop
  | top {members} : ObjectOf (.object members true) reading.names members
  | kernel {v items members} : ListUnder reading.names "kernels" v items →
      .object members true ∈ items → ObjectOf v Kernel.reading.names members
  | field {v items members} : ListUnder reading.names "fields" v items →
      .object members true ∈ items → ObjectOf v Field.reading.names members

theorem Revision.grammatical {v v' : Value} (h : Revision v v') (hv : v.Grammatical) :
    v'.Grammatical := by
  cases h with
  | top hm => exact hm.grammatical hv
  | kernel hm => exact hm.grammatical hv
  | field hm => exact hm.grammatical hv

theorem parse_ok {text : Bytes} {r : Record} :
    parse text = .ok r ↔ ∃ v : Value, v.Spells text ∧ ofValue v = .ok r := by
  simp only [← parse_eq_iff, parse, Document.read, bind_ok]
  obtain ⟨root, whole, hparse⟩ : ∃ root whole, Json.parse text = ⟨root, whole⟩ := ⟨_, _, rfl⟩
  rw [hparse]
  cases whole with
  | true => simp [pure_ok]
  | false => simp [throw, throwThe, MonadExceptOf.throw]

-- ---------------------------------------------------------------------------
-- Places
-- ---------------------------------------------------------------------------

def Kernel.argsPlace : Place Found :=
  .list "args" Value.readText (·.args) (fun found x => { found with args := x }) fun _ _ => rfl

def Kernel.places : List (Place Found) :=
  [{ name := "name", read := Value.readText, get := (·.name)
     set := fun found x => { found with name := x } },
   { name := "entry_symbol", read := Value.readText, get := (·.symbol)
     set := fun found x => { found with symbol := x } },
   argsPlace]

def Field.shapePlace : Place Found :=
  .list "shape" Value.readInt64 (·.shape) (fun found x => { found with shape := x }) fun _ _ => rfl

def Field.places : List (Place Found) :=
  [{ name := "name", read := Value.readText, get := (·.name)
     set := fun found x => { found with name := x } },
   { name := "dtype", read := Value.readText, get := (·.type)
     set := fun found x => { found with type := x } },
   shapePlace]

def archPlace : Place Found where
  name := "arch"
  read := Value.readOptional Value.readText
  get := (·.arch)
  set := fun found x => { found with arch := x }

def kernelsPlace : Place Found :=
  .list "kernels" Kernel.read (·.kernels) (fun found x => { found with kernels := x })
    fun _ _ => rfl

def fieldsPlace : Place Found :=
  .list "fields" Field.read (·.fields) (fun found x => { found with fields := x }) fun _ _ => rfl

def places : List (Place Found) :=
  [{ name := "format_version", read := Value.readUInt32, get := (·.version)
     set := fun found x => { found with version := x } },
   archPlace, kernelsPlace, fieldsPlace]

theorem Kernel.orderly : reading.Orderly places assumed where
  names := rfl
  distinct := by decide
  take found name v := by
    simp only [reading]
    split <;> simp_all [places, argsPlace, Place.takeInto, Place.take, Place.list]
  apart := by simp [places, argsPlace, Place.list, Place.apart_iff]
  assume := by
    have hargs : argsPlace.Assumes reading.finish (.array [] true) :=
      Place.list_assumes_nil fun found h => by simp [reading, h]
    simpa [assumed] using ⟨argsPlace, by simp [places], rfl, hargs⟩

theorem Field.orderly : reading.Orderly places assumed where
  names := rfl
  distinct := by decide
  take found name v := by
    simp only [reading]
    split <;> simp_all [places, shapePlace, Place.takeInto, Place.take, Place.list]
  apart := by simp [places, shapePlace, Place.list, Place.apart_iff]
  assume := by
    have hshape : shapePlace.Assumes reading.finish (.array [] true) :=
      Place.list_assumes_nil fun found h => by simp [reading, h]
    simpa [assumed] using ⟨shapePlace, by simp [places], rfl, hshape⟩

theorem kernelsPlace_mem : kernelsPlace ∈ places := by
  simp [places]

theorem fieldsPlace_mem : fieldsPlace ∈ places := by
  simp [places]

theorem archPlace_assumes : archPlace.Assumes reading.finish .null := by
  intro found x hnone hx
  have harch : found.arch = none := hnone
  cases hx
  simp [reading, archPlace, harch]

theorem orderly : reading.Orderly places assumed where
  names := rfl
  distinct := by decide
  take found name v := by
    simp only [reading]
    split <;> simp_all [places, archPlace, kernelsPlace, fieldsPlace, Place.takeInto, Place.take,
      Place.list]
  apart := by
    simp [places, archPlace, kernelsPlace, fieldsPlace, Place.list, Place.apart_iff]
  assume := by
    have hkernels : kernelsPlace.Assumes reading.finish (.array [] true) :=
      Place.list_assumes_nil fun found h => by simp [reading, h]
    have hfields : fieldsPlace.Assumes reading.finish (.array [] true) :=
      Place.list_assumes_nil fun found h => by simp [reading, h]
    simpa [assumed] using ⟨⟨archPlace, by simp [places], rfl, archPlace_assumes⟩,
      ⟨kernelsPlace, kernelsPlace_mem, rfl, hkernels⟩, fieldsPlace, fieldsPlace_mem, rfl, hfields⟩

-- ---------------------------------------------------------------------------
-- Whole documents
-- ---------------------------------------------------------------------------

variable {v v' : Value} {r : Record}

theorem Revision.ofValue_ok (h : Revision v v') (hr : ofValue v = .ok r) : ofValue v' = .ok r := by
  cases h with
  | top hm => exact orderly.read_revision hm hr
  | kernel hm => exact orderly.read_itemRevision Kernel.orderly kernelsPlace_mem hm hr
  | field hm => exact orderly.read_itemRevision Field.orderly fieldsPlace_mem hm hr

theorem revisions_ok (h : Relation.ReflTransGen Revision v v') (hv : v.Grammatical)
    (hr : ofValue v = .ok r) : v'.Grammatical ∧ ofValue v' = .ok r := by
  induction h with
  | refl => exact ⟨hv, hr⟩
  | tail _ hstep ih => exact ⟨hstep.grammatical ih.1, hstep.ofValue_ok ih.2⟩

theorem ObjectOf.not_repeats {known : List String} {members : List (Bytes × Value)}
    (h : ObjectOf v known members) (hr : ofValue v = .ok r) : ¬ Repeats known members := by
  cases h with
  | top => exact orderly.not_repeats hr
  | kernel hl hi => exact orderly.not_repeats_item Kernel.orderly kernelsPlace_mem hr hl hi
  | field hl hi => exact orderly.not_repeats_item Field.orderly fieldsPlace_mem hr hl hi

/-- Every document that holds a record spells a value, and after any number of revisions of its
objects every text that spells what has become of the value holds the same record. A document in
which an object of the record has a known key twice holds no record. -/
theorem parse_of_revisions (text : Bytes) :
    (∀ r, parse text = .ok r → (∃ v : Value, v.Spells text) ∧
      ∀ v v' : Value, v.Spells text → Relation.ReflTransGen Revision v v' →
        (∃ text', v'.Spells text') ∧ ∀ text', v'.Spells text' → parse text' = .ok r) ∧
    ∀ (v : Value) known members, v.Spells text → ObjectOf v known members →
      Repeats known members → ∃ e, parse text = .error e := by
  constructor
  · intro r hr
    obtain ⟨v, hspells, hv⟩ := parse_ok.mp hr
    refine ⟨⟨v, hspells⟩, fun w v' hw hrevisions => ?_⟩
    obtain rfl : v = w := congrArg Document.root (hspells.parse.symm.trans hw.parse)
    obtain ⟨hgrammatical, hv'⟩ := revisions_ok hrevisions hspells.grammatical hv
    exact ⟨⟨_, hgrammatical.spells_compact⟩, fun text' h => parse_ok.mpr ⟨v', h, hv'⟩⟩
  · intro v known members hspells hobject hrepeats
    cases hparse : parse text with
    | error e => exact ⟨e, rfl⟩
    | ok r =>
      obtain ⟨w, hw, hr⟩ := parse_ok.mp hparse
      obtain rfl : v = w := congrArg Document.root (hspells.parse.symm.trans hw.parse)
      exact absurd hrepeats (hobject.not_repeats hr)

def adder : Record := { version := 1, kernels := [{ name := "add", symbol := "add_2" }] }

def adderMembers : List (Bytes × Value) :=
  [member "name" (textValue "add"), member "entry_symbol" (textValue "add_2")]

def noteMember : Bytes × Value := member "note" (.array [.array [] true, .null] true)

def versionMember : Bytes × Value := member "format_version" (.int 1)

def kernelMember (members : List (Bytes × Value)) : Bytes × Value :=
  member "kernels" (.array [.object members true] true)

/-- The record in a later form: its kernel has a note, the empty lists are left out and the version
comes last. -/
def laterAdder : Value :=
  .object [kernelMember (adderMembers ++ [noteMember]), versionMember] true

/-- A version that is given twice, once with an escape in the key. -/
def twiceVersioned : Value :=
  .object [versionMember, (Utf8.encode "format\\u005fversion", .int 1)] true

theorem parse_of_revisions_of_note :
    parse (Json.compact laterAdder.tokens) = .ok adder ∧
      ∃ e, parse (Json.compact twiceVersioned.tokens) = .error e := by
  constructor
  · have hkernel {members members' : List (Bytes × Value)}
        (h : MemberRevision Kernel.reading.names Kernel.assumed members members') :
        Revision (.object [versionMember, kernelMember members] true)
          (.object [versionMember, kernelMember members'] true) :=
      .kernel (@ItemRevision.item _ _ _ [versionMember] [] _ [] [] _ _
        (Quoted.unescape?_escape "kernels") h)
    have hfields : MemberRevision reading.names assumed
        ([versionMember, kernelMember (adderMembers ++ [member "args" (.array [] true)])] ++
          [member "fields" (.array [] true)])
        ([versionMember, kernelMember (adderMembers ++ [member "args" (.array [] true)])] ++ []) :=
      .leaveOut (Quoted.unescape?_escape "fields") (by simp [assumed])
    have hargs : MemberRevision Kernel.reading.names Kernel.assumed
        (adderMembers ++ [member "args" (.array [] true)]) (adderMembers ++ []) :=
      .leaveOut (Quoted.unescape?_escape "args") (by simp [Kernel.assumed])
    have hnote : MemberRevision Kernel.reading.names Kernel.assumed (adderMembers ++ [])
        (adderMembers ++ [noteMember]) :=
      .insert (Quoted.formed_escape "note") (Quoted.unescape?_escape "note") (by decide)
        (by simp [Value.grammatical_array, Value.Grammatical.null])
    have hlast :
        Revision (.object [versionMember, kernelMember (adderMembers ++ [noteMember])] true)
          laterAdder := .top (.reorder (.swap _ _ _))
    have hrevisions : Relation.ReflTransGen Revision adder.value laterAdder :=
      .tail (.tail (.tail (.single (.top hfields)) (hkernel hargs)) (hkernel hnote)) hlast
    have hspells : adder.value.Spells adder.compact := adder.grammatical_value.spells_compact
    have hlater : laterAdder.Grammatical :=
      (revisions_ok hrevisions adder.grammatical_value (ofValue_value adder)).1
    obtain ⟨-, hall⟩ := (parse_of_revisions adder.compact).1 adder (parse_compact adder)
    exact (hall _ _ hspells hrevisions).2 _ hlater.spells_compact
  · have hspells : twiceVersioned.Spells (Json.compact twiceVersioned.tokens) :=
      spells_of_parse rfl
    have htwice : Repeats reading.names
        [versionMember, (Utf8.encode "format\\u005fversion", .int 1)] :=
      ⟨"format_version", by decide, _, _, .refl _, Quoted.unescape?_escape _, by decide⟩
    exact (parse_of_revisions _).2 twiceVersioned _ _ hspells .top htwice

end Precompiled.Record
