import Mathlib.Data.List.Pairwise
import Mathlib.Tactic.MkIffOfInductiveProp
import Precompiled.Json.Decode
import Precompiled.Proofs.Attempt
import Precompiled.Proofs.Json.Building

/-!
# Members of a record in any order

A record that takes its members one by one, each into a place of its own, does not care for their
order, nor for members that it does not know, nor for members that hold what is assumed without
them. It never takes a member that it knows twice.
-/

namespace Precompiled.Json

-- ---------------------------------------------------------------------------
-- Changes of an object
-- ---------------------------------------------------------------------------

/-- Another text for the same members, when some names are known and some of their values are
assumed where they are missing. -/
inductive MemberRevision (known : List String) (assumed : List (String × Value)) :
    List (Bytes × Value) → List (Bytes × Value) → Prop
  | insert {before after key name v} : Quoted.Formed key → Quoted.unescape? key = some name →
      name ∉ known → v.Grammatical →
      MemberRevision known assumed (before ++ after) (before ++ (key, v) :: after)
  | reorder {members members'} : members.Perm members' →
      MemberRevision known assumed members members'
  | leaveOut {before after key name v} : Quoted.unescape? key = some name → (name, v) ∈ assumed →
      MemberRevision known assumed (before ++ (key, v) :: after) (before ++ after)

inductive ItemRevision (name : String) (known : List String) (assumed : List (String × Value)) :
    Value → Value → Prop
  | item {before after key first rest members members'} : Quoted.unescape? key = some name →
      MemberRevision known assumed members members' →
      ItemRevision name known assumed
        (.object (before ++ (key, .array (first ++ .object members true :: rest) true) :: after) true)
        (.object (before ++ (key, .array (first ++ .object members' true :: rest) true) :: after) true)

/-- What a record holds as a list under a name: under that key, or in its place where the record is
written as an array. -/
inductive ListUnder (names : List String) (name : String) : Value → List Value → Prop
  | member {members key items} : (key, .array items true) ∈ members →
      Quoted.unescape? key = some name → ListUnder names name (.object members true) items
  | place {values items} : (name, .array items true) ∈ names.zip values →
      ListUnder names name (.array values true) items

/-- Two of the members have one known name, however each of them spells it. -/
def Repeats (known : List String) (members : List (Bytes × Value)) : Prop :=
  ∃ name ∈ known, ∃ first second : Bytes × Value, [first, second].Sublist members ∧
    Quoted.unescape? first.1 = some name ∧ Quoted.unescape? second.1 = some name

theorem MemberRevision.grammatical {known : List String} {assumed : List (String × Value)}
    {members members' : List (Bytes × Value)} (h : MemberRevision known assumed members members')
    (hm : (Value.object members true).Grammatical) : (Value.object members' true).Grammatical := by
  rw [Value.grammatical_object] at hm ⊢
  obtain ⟨-, hm⟩ := hm
  refine ⟨rfl, ?_⟩
  cases h with
  | insert hkey _ _ hv =>
    rw [List.forall_mem_append] at hm
    exact List.forall_mem_append.mpr ⟨hm.1, List.forall_mem_cons.mpr ⟨⟨hkey, hv⟩, hm.2⟩⟩
  | reorder hp => exact fun m h => hm m (hp.mem_iff.mpr h)
  | leaveOut =>
    rw [List.forall_mem_append, List.forall_mem_cons] at hm
    exact List.forall_mem_append.mpr ⟨hm.1, hm.2.2⟩

theorem ItemRevision.grammatical {name : String} {known : List String}
    {assumed : List (String × Value)} {v v' : Value} (h : ItemRevision name known assumed v v')
    (hv : v.Grammatical) : v'.Grammatical := by
  cases h with
  | item _ hm =>
    simp only [Value.grammatical_object, Value.grammatical_array, List.forall_mem_append,
      List.forall_mem_cons, true_and] at hv ⊢
    obtain ⟨hbefore, ⟨hkey, hfirst, hitem, hrest⟩, hafter⟩ := hv
    have hitem' := hm.grammatical (Value.grammatical_object.mpr ⟨rfl, hitem⟩)
    exact ⟨hbefore, ⟨hkey, hfirst, (Value.grammatical_object.mp hitem').2, hrest⟩, hafter⟩

-- ---------------------------------------------------------------------------
-- Readings
-- ---------------------------------------------------------------------------

theorem Value.readRaw_ok {raw : Bytes} {text : String} :
    readRaw raw = .ok text ↔ Quoted.unescape? raw = some text := by
  unfold readRaw
  split <;> simp [*]

theorem Value.Grammatical.whole {v : Value} (h : v.Grammatical) : v.whole = true := by
  cases h with
  | _ => rfl

theorem Value.readList_replace {α : Type} {read : Value → Except Fault α} {item item' : Value}
    {first rest : List Value} {closed : Bool} {xs : List α}
    (hitem : ∀ {x}, read item = .ok x → read item' = .ok x)
    (h : Value.readList read (.array (first ++ item :: rest) closed) = .ok xs) :
    Value.readList read (.array (first ++ item' :: rest) closed) = .ok xs := by
  simp only [readList, List.mapM_append, List.mapM_cons, bind_ok, pure_ok] at h ⊢
  obtain ⟨_, ⟨xs₁, hfirst, _, ⟨x, hx, hrest⟩, happend⟩, hclosed⟩ := h
  exact ⟨_, ⟨xs₁, hfirst, _, ⟨x, hitem hx, hrest⟩, happend⟩, hclosed⟩

theorem Value.readList_mem {α : Type} {read : Value → Except Fault α} {items : List Value}
    {closed : Bool} {xs : List α} (h : Value.readList read (.array items closed) = .ok xs)
    {item : Value} (hi : item ∈ items) : ∃ x, read item = .ok x := by
  obtain ⟨ys, hys, -⟩ := bind_ok.mp h
  exact (mapM_isOk fun _ => Iff.rfl).mp ⟨ys, hys⟩ item hi

/-- A place in what has been read of a record, for the member of one name. -/
structure Place (δ : Type) where
  name : String
  {α : Type}
  read : Value → Except Fault α
  get : δ → Option α
  set : δ → Option α → δ
  get_set : ∀ found x, get (set found x) = x := by intros; rfl

namespace Place

variable {α δ ρ : Type}

def take (p : Place δ) (found : δ) (v : Value) : Except Fault δ := do
  return p.set found (← takeOnce (p.get found) p.name p.read v)

theorem take_ok {p : Place δ} {found found' : δ} {v : Value} :
    p.take found v = .ok found' ↔
      p.get found = none ∧ ∃ x, p.read v = .ok x ∧ p.set found (some x) = found' := by
  simp only [take, bind_ok, pure_ok]
  cases hget : p.get found with
  | some x => simp [takeOnce]
  | none => cases hread : p.read v <;> simp [takeOnce, hread, Functor.map, Except.map]

theorem not_take_twice {p : Place δ} {found mid found' : δ} {v v' : Value}
    (h : p.take found v = .ok mid) : p.take mid v' ≠ .ok found' := by
  intro h'
  obtain ⟨-, x, -, rfl⟩ := take_ok.mp h
  obtain ⟨hnone, -⟩ := take_ok.mp h'
  rw [p.get_set] at hnone
  cases hnone

theorem take_congr {p : Place δ} {found found' : δ} {v v' : Value}
    (hread : ∀ {x}, p.read v = .ok x → p.read v' = .ok x) (h : p.take found v = .ok found') :
    p.take found v' = .ok found' := by
  obtain ⟨hnone, x, hx, hset⟩ := take_ok.mp h
  exact take_ok.mpr ⟨hnone, x, hread hx, hset⟩

def list (name : String) (read : Value → Except Fault α) (get : δ → Option (List α))
    (set : δ → Option (List α) → δ) (get_set : ∀ found x, get (set found x) = x) : Place δ where
  name := name
  read := Value.readList read
  get := get
  set := set
  get_set := get_set

/-- Neither of two places sees what the other one is filled with. -/
@[mk_iff]
structure Apart (p q : Place δ) : Prop where
  get_left : ∀ found x, p.get (q.set found x) = p.get found
  get_right : ∀ found x, q.get (p.set found x) = q.get found
  set_comm : ∀ found x y, p.set (q.set found y) x = q.set (p.set found x) y

instance : Std.Symm (@Apart δ) where
  symm _ _ h := ⟨h.get_right, h.get_left, fun found x y => (h.set_comm found y x).symm⟩

theorem Apart.take_swap {p q : Place δ} (hpq : p.Apart q) {found mid found' : δ} {v v' : Value}
    (h : p.take found v = .ok mid) (h' : q.take mid v' = .ok found') :
    ∃ mid', q.take found v' = .ok mid' ∧ p.take mid' v = .ok found' := by
  obtain ⟨hp, x, hx, rfl⟩ := take_ok.mp h
  obtain ⟨hq, y, hy, rfl⟩ := take_ok.mp h'
  rw [hpq.get_right] at hq
  refine ⟨q.set found (some y), take_ok.mpr ⟨hq, y, hy, rfl⟩, take_ok.mpr ⟨?_, x, hx, ?_⟩⟩
  · rw [hpq.get_left, hp]
  · exact hpq.set_comm found (some x) (some y)

/-- A record ends in the same way whether the place was left empty or was filled with this value. -/
def Assumes (p : Place δ) (finish : δ → Except Fault ρ) (v : Value) : Prop :=
  ∀ found x, p.get found = none → p.read v = .ok x → finish (p.set found (some x)) = finish found

theorem list_assumes_nil {name : String} {read : Value → Except Fault α}
    {get : δ → Option (List α)} {set : δ → Option (List α) → δ} {get_set}
    {finish : δ → Except Fault ρ}
    (h : ∀ found, get found = none → finish (set found (some [])) = finish found) :
    (list name read get set get_set).Assumes finish (.array [] true) := by
  intro found x hnone hx
  obtain ⟨xs, hxs, hx⟩ := bind_ok.mp hx
  obtain rfl := pure_ok.mp hxs
  obtain rfl := pure_ok.mp hx
  exact h found hnone

/-- Takes a member into the place of its name. A name of no place is passed over. -/
def takeInto (places : List (Place δ)) (found : δ) (name : String) (v : Value) : Except Fault δ :=
  match places with
  | [] => do v.skip; return found
  | p :: rest => if name = p.name then p.take found v else takeInto rest found name v

theorem takeInto_of_mem {places : List (Place δ)} {p : Place δ} {found : δ} {v : Value}
    (hdistinct : (places.map (·.name)).Nodup) (hp : p ∈ places) :
    takeInto places found p.name v = p.take found v := by
  induction places with
  | nil => cases hp
  | cons q rest ih =>
    obtain ⟨hq, hrest⟩ := List.nodup_cons.mp hdistinct
    rcases List.mem_cons.mp hp with rfl | hp
    · exact if_pos rfl
    · have hne : p.name ≠ q.name := fun h => hq (List.mem_map.mpr ⟨p, hp, h⟩)
      exact (if_neg hne).trans (ih hrest hp)

theorem takeInto_of_not_mem {places : List (Place δ)} {name : String} {found : δ} {v : Value}
    (h : name ∉ places.map (·.name)) :
    takeInto places found name v = do v.skip; return found := by
  induction places with
  | nil => rfl
  | cons q rest ih =>
    obtain ⟨hne, hrest⟩ := not_or.mp fun hmem => h (List.mem_cons.mpr hmem)
    exact (if_neg hne).trans (ih hrest)

end Place

theorem Value.skip_ok {v : Value} {u : Unit} : v.skip = .ok u ↔ v.whole = true := by
  unfold skip
  split <;> simp [*]

namespace Reading

variable {δ ρ : Type}

/-- What a list of places has to satisfy to be where a reading keeps the members that it knows: the
names of the places are distinct, a member is taken into the place of its name, no place sees the
others, and some places may as well be left empty for an assumed value. -/
structure Orderly (r : Reading δ ρ) (places : List (Place δ)) (assumed : List (String × Value)) :
    Prop where
  names : r.names = places.map (·.name)
  distinct : r.names.Nodup
  take : ∀ found name v, r.take found name v = Place.takeInto places found name v
  apart : places.Pairwise Place.Apart
  assume : ∀ a ∈ assumed, ∃ p ∈ places, p.name = a.1 ∧ p.Assumes r.finish a.2

variable {r : Reading δ ρ} {start found found' : δ} {key : Bytes} {name : String} {v v' : Value}
  {before after members members' : List (Bytes × Value)} {record : ρ} {closed : Bool}

theorem takeMembers_cons_ok {m : Bytes × Value} :
    r.takeMembers found (m :: members) = .ok found' ↔
      ∃ name, Quoted.unescape? m.1 = some name ∧
        ∃ mid, r.take found name m.2 = .ok mid ∧ r.takeMembers mid members = .ok found' := by
  simp only [takeMembers, List.foldlM_cons, bind_ok, Value.readRaw_ok]
  constructor
  · rintro ⟨mid, ⟨name, hkey, htake⟩, hrest⟩
    exact ⟨name, hkey, mid, htake, hrest⟩
  · rintro ⟨name, hkey, mid, htake, hrest⟩
    exact ⟨mid, ⟨name, hkey, htake⟩, hrest⟩

theorem takeMembers_append_ok :
    r.takeMembers found (before ++ after) = .ok found' ↔
      ∃ mid, r.takeMembers found before = .ok mid ∧ r.takeMembers mid after = .ok found' := by
  simp only [takeMembers, List.foldlM_append, bind_ok]

theorem read_object_ok :
    r.read start (.object members closed) = .ok record ↔
      closed = true ∧ ∃ found, r.takeMembers start members = .ok found ∧
        r.finish found = .ok record := by
  cases closed <;> simp [read, bind_ok, throw, throwThe, MonadExceptOf.throw]

theorem takeMembers_replace (hkey : Quoted.unescape? key = some name)
    (htake : ∀ {found found'}, r.take found name v = .ok found' → r.take found name v' = .ok found')
    (h : r.takeMembers start (before ++ (key, v) :: after) = .ok found) :
    r.takeMembers start (before ++ (key, v') :: after) = .ok found := by
  obtain ⟨mid, hbefore, h⟩ := takeMembers_append_ok.mp h
  obtain ⟨name', hkey', mid', hv, hafter⟩ := takeMembers_cons_ok.mp h
  obtain rfl : name = name' := Option.some_inj.mp (hkey.symm.trans hkey')
  exact takeMembers_append_ok.mpr
    ⟨mid, hbefore, takeMembers_cons_ok.mpr ⟨name, hkey, mid', htake hv, hafter⟩⟩

theorem take_of_listUnder {items : List Value} (h : r.read start v = .ok record)
    (hl : ListUnder r.names name v items) :
    ∃ found found', r.take found name (.array items true) = .ok found' := by
  cases hl with
  | member hm hkey =>
    obtain ⟨-, found, htake, -⟩ := read_object_ok.mp h
    obtain ⟨mid, mid', hstep⟩ := foldlM_mem htake hm
    simp only [bind_ok, Value.readRaw_ok] at hstep
    obtain ⟨name', hkey', hstep⟩ := hstep
    obtain rfl : name = name' := Option.some_inj.mp (hkey.symm.trans hkey')
    exact ⟨mid, mid', hstep⟩
  | place hm =>
    obtain ⟨found, htake, -⟩ := bind_ok.mp h
    obtain ⟨mid, mid', hstep⟩ := foldlM_mem htake hm
    exact ⟨mid, mid', hstep⟩

namespace Orderly

variable {places : List (Place δ)} {assumed : List (String × Value)}

theorem exists_place (hr : r.Orderly places assumed) (h : name ∈ r.names) :
    ∃ p ∈ places, p.name = name := by
  rw [hr.names] at h
  exact List.mem_map.mp h

theorem known (hr : r.Orderly places assumed) {p : Place δ} (hp : p ∈ places) :
    r.take found p.name v = p.take found v :=
  (hr.take found p.name v).trans (Place.takeInto_of_mem (hr.names ▸ hr.distinct) hp)

theorem apart_of_ne (hr : r.Orderly places assumed) {p q : Place δ} (hp : p ∈ places)
    (hq : q ∈ places) (hne : p.name ≠ q.name) : p.Apart q :=
  hr.apart.forall hp hq fun h => hne (congrArg Place.name h)

theorem finish_of_assumed (hr : r.Orderly places assumed) (hassumed : (name, v) ∈ assumed)
    (h : r.take found name v = .ok found') : r.finish found' = r.finish found := by
  obtain ⟨p, hp, rfl, hassumes⟩ := hr.assume _ hassumed
  obtain ⟨hnone, x, hx, rfl⟩ := Place.take_ok.mp ((hr.known hp).symm.trans h)
  exact hassumes found x hnone hx

theorem pass (hr : r.Orderly places assumed) (h : name ∉ r.names) :
    r.take found name v = .ok found' ↔ v.whole = true ∧ found = found' := by
  rw [hr.names] at h
  simp only [hr.take, Place.takeInto_of_not_mem h, bind_ok, Value.skip_ok, pure_ok,
    exists_and_left, exists_const]

theorem once (hr : r.Orderly places assumed) {mid : δ} (hknown : name ∈ r.names)
    (h : r.take found name v = .ok mid) : r.take mid name v' ≠ .ok found' := by
  obtain ⟨p, hp, rfl⟩ := hr.exists_place hknown
  rw [hr.known hp] at h ⊢
  exact Place.not_take_twice h

theorem swap (hr : r.Orderly places assumed) {mid : δ} {name' : String}
    (h : r.take found name v = .ok mid) (h' : r.take mid name' v' = .ok found') :
    ∃ mid', r.take found name' v' = .ok mid' ∧ r.take mid' name v = .ok found' := by
  by_cases hknown : name ∈ r.names
  · by_cases hknown' : name' ∈ r.names
    · have hne : name ≠ name' := by
        rintro rfl
        exact hr.once hknown h h'
      obtain ⟨p, hp, rfl⟩ := hr.exists_place hknown
      obtain ⟨q, hq, rfl⟩ := hr.exists_place hknown'
      simp only [hr.known hp, hr.known hq] at h h' ⊢
      exact (hr.apart_of_ne hp hq hne).take_swap h h'
    · obtain ⟨hwhole, rfl⟩ := (hr.pass hknown').mp h'
      exact ⟨found, (hr.pass hknown').mpr ⟨hwhole, rfl⟩, h⟩
  · obtain ⟨hwhole, rfl⟩ := (hr.pass hknown).mp h
    exact ⟨found', h', (hr.pass hknown).mpr ⟨hwhole, rfl⟩⟩

theorem takeMembers_perm (hr : r.Orderly places assumed) (hp : members.Perm members')
    (h : r.takeMembers found members = .ok found') : r.takeMembers found members' = .ok found' := by
  induction hp generalizing found with
  | nil => exact h
  | cons m _ ih =>
    obtain ⟨name, hkey, mid, htake, hrest⟩ := takeMembers_cons_ok.mp h
    exact takeMembers_cons_ok.mpr ⟨name, hkey, mid, htake, ih hrest⟩
  | trans _ _ ih ih' => exact ih' (ih h)
  | swap second first rest =>
    obtain ⟨name, hkey, mid, htake, h⟩ := takeMembers_cons_ok.mp h
    obtain ⟨name', hkey', mid', htake', hrest⟩ := takeMembers_cons_ok.mp h
    obtain ⟨mid'', hfirst, hsecond⟩ := hr.swap htake htake'
    exact takeMembers_cons_ok.mpr ⟨name', hkey', mid'', hfirst,
      takeMembers_cons_ok.mpr ⟨name, hkey, mid', hsecond, hrest⟩⟩

theorem not_repeats (hr : r.Orderly places assumed)
    (h : r.read start (.object members closed) = .ok record) : ¬ Repeats r.names members := by
  rintro ⟨name, hknown, first, second, hsub, hfirst, hsecond⟩
  obtain ⟨-, found, h, -⟩ := read_object_ok.mp h
  -- The two of them may as well come first.
  obtain ⟨rest, hp⟩ := hsub.exists_perm_append
  obtain ⟨name₁, hkey, mid, htake, h⟩ := takeMembers_cons_ok.mp (hr.takeMembers_perm hp h)
  obtain ⟨name₂, hkey', mid', htake', -⟩ := takeMembers_cons_ok.mp h
  obtain rfl : name = name₁ := Option.some_inj.mp (hfirst.symm.trans hkey)
  obtain rfl : name = name₂ := Option.some_inj.mp (hsecond.symm.trans hkey')
  exact hr.once hknown htake htake'

/-- The record is the same after a change of the members. -/
theorem read_revision (hr : r.Orderly places assumed)
    (hm : MemberRevision r.names assumed members members')
    (h : r.read start (.object members true) = .ok record) :
    r.read start (.object members' true) = .ok record := by
  obtain ⟨-, found, htake, hfinish⟩ := read_object_ok.mp h
  cases hm with
  | @insert before after key name v _ hkey hknown hv =>
    obtain ⟨mid, hbefore, hafter⟩ := takeMembers_append_ok.mp htake
    have hpass : r.take mid name v = .ok mid := (hr.pass hknown).mpr ⟨hv.whole, rfl⟩
    exact read_object_ok.mpr ⟨rfl, found, takeMembers_append_ok.mpr
      ⟨mid, hbefore, takeMembers_cons_ok.mpr ⟨name, hkey, mid, hpass, hafter⟩⟩, hfinish⟩
  | reorder hp => exact read_object_ok.mpr ⟨rfl, found, hr.takeMembers_perm hp htake, hfinish⟩
  | @leaveOut before after key name v hkey hassumed =>
    -- The member is taken last, where only the end of the record can see it.
    have hp : (before ++ (key, v) :: after).Perm (before ++ after ++ [(key, v)]) :=
      List.perm_middle.trans (List.perm_append_singleton _ _).symm
    obtain ⟨mid, hrest, hlast⟩ := takeMembers_append_ok.mp (hr.takeMembers_perm hp htake)
    obtain ⟨name', hkey', found', htake', hnil⟩ := takeMembers_cons_ok.mp hlast
    obtain rfl : name = name' := Option.some_inj.mp (hkey.symm.trans hkey')
    obtain rfl : found' = found := pure_ok.mp hnil
    have hsame : r.finish found' = r.finish mid := hr.finish_of_assumed hassumed htake'
    exact read_object_ok.mpr ⟨rfl, mid, hrest, hsame.symm.trans hfinish⟩

section
variable {δ' ρ' : Type} {q : Reading δ' ρ'} {start' : δ'} {places' : List (Place δ')}
  {assumed' : List (String × Value)} {get : δ → Option (List ρ')} {set : δ → Option (List ρ') → δ}
  {get_set : ∀ found x, get (set found x) = x}

theorem read_itemRevision (hr : r.Orderly places assumed) (hq : q.Orderly places' assumed')
    (hp : Place.list name (q.read start') get set get_set ∈ places)
    (hm : ItemRevision name q.names assumed' v v') (h : r.read start v = .ok record) :
    r.read start v' = .ok record := by
  cases hm with
  | item hkey hm =>
    obtain ⟨-, found, hmembers, hfinish⟩ := read_object_ok.mp h
    refine read_object_ok.mpr ⟨rfl, found, takeMembers_replace hkey ?_ hmembers, hfinish⟩
    intro mid mid' htake
    have hplace := (hr.known hp).symm.trans htake
    refine (hr.known hp).trans (Place.take_congr ?_ hplace)
    exact Value.readList_replace (hq.read_revision hm)

theorem not_repeats_item (hr : r.Orderly places assumed) (hq : q.Orderly places' assumed')
    (hp : Place.list name (q.read start') get set get_set ∈ places)
    (h : r.read start v = .ok record) {items : List Value} (hl : ListUnder r.names name v items)
    (hi : .object members closed ∈ items) : ¬ Repeats q.names members := by
  obtain ⟨found, found', htake⟩ := take_of_listUnder h hl
  obtain ⟨-, xs, hxs, -⟩ := Place.take_ok.mp ((hr.known hp).symm.trans htake)
  obtain ⟨x, hx⟩ := Value.readList_mem hxs hi
  exact hq.not_repeats hx

end

end Orderly
end Reading
end Precompiled.Json
