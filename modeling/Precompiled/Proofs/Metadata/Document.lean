import Precompiled.Metadata.Document
import Precompiled.Proofs.Json.Layout
import Precompiled.Proofs.Json.Members

/-!
# Documents round trip

A record is read back from both of its layouts, whatever texts and numbers are in it.
-/

namespace Precompiled

namespace Json

theorem Value.readRaw_escape (text : String) : readRaw (Quoted.escape text) = .ok text := by
  simp [readRaw, Quoted.unescape?_escape]

theorem Value.readUInt32_toNat (n : UInt32) : (Value.int n.toNat).readUInt32 = .ok n := by
  have hlt : (n.toNat : Int) < UInt32.size := Int.ofNat_lt.mpr (UInt32.toNat_lt_size n)
  have hrange : (0 : Int) ≤ n.toNat ∧ (n.toNat : Int) < UInt32.size :=
    ⟨Int.natCast_nonneg _, hlt⟩
  have hvalue : UInt32.ofNat (n.toNat : Int).toNat = n := by simp
  rw [readUInt32, readInt, bind_ok]
  refine ⟨_, rfl, ?_⟩
  rw [if_pos hrange, hvalue, pure_ok]

theorem Value.readInt64_toInt (d : Int64) : (Value.int d.toInt).readInt64 = .ok d := by
  have hrange : Int64.minValue.toInt ≤ d.toInt ∧ d.toInt ≤ Int64.maxValue.toInt :=
    ⟨Int64.minValue_le_toInt d, Int64.toInt_le d⟩
  simp only [readInt64, readInt, bind, Except.bind, if_pos hrange, Int64.ofInt_toInt]
  rfl

theorem Value.readList_map {α : Type} {read : Value → Except Fault α} {write : α → Value}
    {xs : List α} (h : ∀ x ∈ xs, read (write x) = .ok x) :
    Value.readList read (.array (xs.map write) true) = .ok xs := by
  rw [readList, mapM_map h]
  rfl

theorem takeOnce_none {α : Type} {read : Value → Except Fault α} {v : Value} {x : α}
    (name : String) (h : read v = .ok x) : takeOnce none name read v = .ok (some x) := by
  simp [takeOnce, h, Functor.map, Except.map]

namespace Reading

variable {δ ρ : Type} {r : Reading δ ρ}

theorem takeMembers_cons {found found' : δ} {key : Bytes} {name : String} {v : Value}
    {rest : List (Bytes × Value)} (hkey : Value.readRaw key = .ok name)
    (htake : r.take found name v = .ok found') :
    r.takeMembers found ((key, v) :: rest) = r.takeMembers found' rest := by
  simp [takeMembers, hkey, htake, bind, Except.bind]

end Reading
end Json

namespace Record

open Json

theorem readText_textValue (text : String) : (textValue text).readText = .ok text :=
  Value.readRaw_escape text

theorem takeMembers_member {δ ρ : Type} {r : Reading δ ρ} {found found' : δ} {name : String}
    {v : Value} {rest : List (Bytes × Value)} (h : r.take found name v = .ok found') :
    r.takeMembers found (member name v :: rest) = r.takeMembers found' rest :=
  Reading.takeMembers_cons (Value.readRaw_escape name) h

theorem Kernel.read_value (k : Kernel) : Kernel.read k.value = .ok k := by
  have hargs : Value.readList Value.readText (.array (k.args.map textValue) true) = .ok k.args :=
    Value.readList_map fun text _ => readText_textValue text
  have hname : Kernel.reading.take {} "name" (textValue k.name) = .ok { name := some k.name } := by
    simp only [Kernel.reading, takeOnce_none "name" (readText_textValue k.name)]
    rfl
  have hsymbol : Kernel.reading.take { name := some k.name } "entry_symbol" (textValue k.symbol) =
      .ok { name := some k.name, symbol := some k.symbol } := by
    simp only [Kernel.reading, takeOnce_none "entry_symbol" (readText_textValue k.symbol)]
    rfl
  have htake : Kernel.reading.take { name := some k.name, symbol := some k.symbol } "args"
      (.array (k.args.map textValue) true) =
      .ok { name := some k.name, symbol := some k.symbol, args := some k.args } := by
    simp only [Kernel.reading, takeOnce_none "args" hargs]
    rfl
  have hmembers : Kernel.reading.takeMembers {} [member "name" (textValue k.name),
      member "entry_symbol" (textValue k.symbol),
      member "args" (.array (k.args.map textValue) true)] =
      .ok { name := some k.name, symbol := some k.symbol, args := some k.args } := by
    rw [takeMembers_member hname, takeMembers_member hsymbol, takeMembers_member htake]
    rfl
  exact Reading.read_object_ok.mpr ⟨rfl, _, hmembers, rfl⟩

theorem Field.read_value (f : Field) : Field.read f.value = .ok f := by
  have hshape : Value.readList Value.readInt64 (.array (f.shape.map fun d => .int d.toInt) true) =
      .ok f.shape := Value.readList_map fun d _ => Value.readInt64_toInt d
  have hname : Field.reading.take {} "name" (textValue f.name) = .ok { name := some f.name } := by
    simp only [Field.reading, takeOnce_none "name" (readText_textValue f.name)]
    rfl
  have htype : Field.reading.take { name := some f.name } "dtype" (textValue f.type) =
      .ok { name := some f.name, type := some f.type } := by
    simp only [Field.reading, takeOnce_none "dtype" (readText_textValue f.type)]
    rfl
  have htake : Field.reading.take { name := some f.name, type := some f.type } "shape"
      (.array (f.shape.map fun d => .int d.toInt) true) =
      .ok { name := some f.name, type := some f.type, shape := some f.shape } := by
    simp only [Field.reading, takeOnce_none "shape" hshape]
    rfl
  have hmembers : Field.reading.takeMembers {} [member "name" (textValue f.name),
      member "dtype" (textValue f.type),
      member "shape" (.array (f.shape.map fun d => .int d.toInt) true)] =
      .ok { name := some f.name, type := some f.type, shape := some f.shape } := by
    rw [takeMembers_member hname, takeMembers_member htype, takeMembers_member htake]
    rfl
  exact Reading.read_object_ok.mpr ⟨rfl, _, hmembers, rfl⟩

theorem takeMembers_lists (r : Record) (arch : Option (Option String)) :
    reading.takeMembers { version := some r.version, arch }
        [member "kernels" (.array (r.kernels.map Kernel.value) true),
          member "fields" (.array (r.fields.map Field.value) true)] =
      .ok { version := some r.version, arch,
            kernels := some r.kernels, fields := some r.fields } := by
  have hkernels : Value.readList Kernel.read (.array (r.kernels.map Kernel.value) true) =
      .ok r.kernels := Value.readList_map fun k _ => k.read_value
  have hfields : Value.readList Field.read (.array (r.fields.map Field.value) true) =
      .ok r.fields := Value.readList_map fun f _ => f.read_value
  have htake : reading.take { version := some r.version, arch } "kernels"
      (.array (r.kernels.map Kernel.value) true) =
      .ok { version := some r.version, arch, kernels := some r.kernels } := by
    simp only [reading, takeOnce_none "kernels" hkernels]
    rfl
  have htake' : reading.take { version := some r.version, arch, kernels := some r.kernels } "fields"
      (.array (r.fields.map Field.value) true) =
      .ok { version := some r.version, arch, kernels := some r.kernels
            fields := some r.fields } := by
    simp only [reading, takeOnce_none "fields" hfields]
    rfl
  rw [takeMembers_member htake, takeMembers_member htake']
  rfl

theorem ofValue_value (r : Record) : ofValue r.value = .ok r := by
  have hversion : reading.take {} "format_version" (.int r.version.toNat) =
      .ok { version := some r.version } := by
    simp only [reading, takeOnce_none "format_version" (Value.readUInt32_toNat r.version)]
    rfl
  obtain ⟨version, arch, kernels, fields⟩ := r
  cases arch with
  | none =>
    exact Reading.read_object_ok.mpr
      ⟨rfl, _, (takeMembers_member hversion).trans (takeMembers_lists _ none), rfl⟩
  | some arch =>
    have hread : Value.readOptional Value.readText (textValue arch) = .ok (some arch) := by
      simp [Value.readOptional, textValue, Value.readText, Value.readRaw_escape, Functor.map,
        Except.map]
    have harch : reading.take { version := some version } "arch" (textValue arch) =
        .ok { version := some version, arch := some (some arch) } := by
      simp only [reading, takeOnce_none "arch" hread]
      rfl
    exact Reading.read_object_ok.mpr ⟨rfl, _, (takeMembers_member hversion).trans
      ((takeMembers_member harch).trans (takeMembers_lists ⟨version, _, kernels, fields⟩ _)), rfl⟩

-- ---------------------------------------------------------------------------
-- Texts of a record
-- ---------------------------------------------------------------------------

theorem grammatical_text (text : String) : (textValue text).Grammatical :=
  .text (Quoted.formed_escape text)

theorem grammatical_member {name : String} {v : Value} (hv : v.Grammatical) :
    Quoted.Formed (member name v).1 ∧ (member name v).2.Grammatical :=
  ⟨Quoted.formed_escape name, hv⟩

theorem grammatical_list {α : Type} {write : α → Value} {xs : List α}
    (h : ∀ x, (write x).Grammatical) : (Value.array (xs.map write) true).Grammatical :=
  .array (List.forall_mem_map.mpr fun x _ => h x)

theorem Kernel.grammatical_value (k : Kernel) : k.value.Grammatical := by
  refine Value.grammatical_object.mpr ⟨rfl, fun m hm => ?_⟩
  simp only [List.mem_cons, List.not_mem_nil, or_false] at hm
  rcases hm with rfl | rfl | rfl
  · exact grammatical_member (grammatical_text _)
  · exact grammatical_member (grammatical_text _)
  · exact grammatical_member (grammatical_list grammatical_text)

theorem Field.grammatical_value (f : Field) : f.value.Grammatical := by
  refine Value.grammatical_object.mpr ⟨rfl, fun m hm => ?_⟩
  simp only [List.mem_cons, List.not_mem_nil, or_false] at hm
  rcases hm with rfl | rfl | rfl
  · exact grammatical_member (grammatical_text _)
  · exact grammatical_member (grammatical_text _)
  · exact grammatical_member (grammatical_list fun d => .int d.toInt)

theorem grammatical_value (r : Record) : r.value.Grammatical := by
  refine Value.grammatical_object.mpr ⟨rfl, fun m hm => ?_⟩
  simp only [List.mem_append, List.mem_cons, List.not_mem_nil, or_false, Option.mem_toList,
    Option.map_eq_some_iff] at hm
  rcases hm with (rfl | ⟨arch, -, rfl⟩) | rfl | rfl
  · exact grammatical_member (.int _)
  · exact grammatical_member (grammatical_text arch)
  · exact grammatical_member (grammatical_list Kernel.grammatical_value)
  · exact grammatical_member (grammatical_list Field.grammatical_value)

theorem parse_of_spells {r : Record} {text : Bytes} (h : r.value.Spells text) :
    parse text = .ok r := by
  rw [parse, h.parse, Document.read, bind_ok]
  exact ⟨r, ofValue_value r, rfl⟩

theorem parse_compact (r : Record) : parse r.compact = .ok r :=
  parse_of_spells r.grammatical_value.spells_compact

theorem parse_pretty_append (r : Record) {last : Bytes} (h : ∀ b ∈ last, isBlank b = true) :
    parse (r.pretty ++ last) = .ok r :=
  parse_of_spells (r.grammatical_value.spells_pretty h)

/-- A record of any texts and any numbers is what each of its layouts holds, also with the newline
at the end of a file. -/
theorem parse_layouts (r : Record) :
    parse r.compact = .ok r ∧ parse r.pretty = .ok r ∧ parse (r.pretty ++ [0x0A]) = .ok r := by
  have hpretty : parse (r.pretty ++ []) = .ok r := parse_pretty_append r (by simp)
  rw [List.append_nil] at hpretty
  exact ⟨parse_compact r, hpretty, parse_pretty_append r (List.forall_mem_singleton.mpr rfl)⟩

end Record
end Precompiled
