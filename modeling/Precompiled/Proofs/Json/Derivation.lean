import Precompiled.Proofs.Json.Tokenization

/-!
# The value of a text is its own

The tokens that the builder has taken are those of the containers it has open, up to the place where
it stands (`Builder.Follows`). Every token keeps this, so a text that is read as one whole value
spells that value.
-/

namespace Precompiled.Json

theorem itemTokens_concat (items : List Value) (v : Value) :
    itemTokens (items ++ [v]) =
      items.flatMap (fun item => item.tokens ++ [.comma]) ++ v.tokens := by
  induction items with
  | nil => simp [itemTokens]
  | cons item rest ih => simp [itemTokens_cons, ih]

theorem memberTokens_concat (members : List (Bytes × Value)) (m : Bytes × Value) :
    memberTokens (members ++ [m]) =
      members.flatMap (fun m => .text m.1 :: .colon :: (m.2.tokens ++ [.comma])) ++
        .text m.1 :: .colon :: m.2.tokens := by
  induction members with
  | nil => simp [memberTokens_cons]
  | cons m rest ih => simp [memberTokens_cons, ih]

-- ---------------------------------------------------------------------------
-- Open containers
-- ---------------------------------------------------------------------------

/-- The tokens of an open container up to the place of its next item or member, or of the value of
the member under way. -/
def Frame.opening : Frame → List Token
  | .items done => .openArray :: done.reverse.flatMap fun item => item.tokens ++ [.comma]
  | .members done key =>
    .openObject :: done.reverse.flatMap (fun m => .text m.1 :: .colon :: (m.2.tokens ++ [.comma])) ++
      key.toList.flatMap fun k => [.text k, .colon]

def opening (frames : List Frame) : List Token := frames.reverse.flatMap Frame.opening

theorem opening_cons (frame : Frame) (outer : List Frame) :
    opening (frame :: outer) = opening outer ++ frame.opening := by
  simp [opening]

theorem opening_items {done : List Value} (h : done ≠ []) (outer : List Frame) :
    opening (.items done :: outer) =
      opening outer ++ .openArray :: itemTokens done.reverse ++ [.comma] := by
  cases done with
  | nil => exact absurd rfl h
  | cons item rest => simp [opening_cons, Frame.opening, itemTokens_concat]

theorem opening_members {done : List (Bytes × Value)} (h : done ≠ []) (outer : List Frame) :
    opening (.members done none :: outer) =
      opening outer ++ .openObject :: memberTokens done.reverse ++ [.comma] := by
  cases done with
  | nil => exact absurd rfl h
  | cons m rest => simp [opening_cons, Frame.opening, memberTokens_concat]

inductive Frame.Awaits : Frame → Prop
  | items {done} : (∀ item ∈ done, item.Grammatical) → Awaits (.items done)
  | members {done key} : (∀ m ∈ done, Quoted.Formed m.1 ∧ m.2.Grammatical) → Quoted.Formed key →
      Awaits (.members done (some key))

/-- What the builder has taken. -/
inductive Builder.Follows : Builder → List Token → Prop
  | value {frames} : (∀ f ∈ frames, f.Awaits) → Follows ⟨frames, .value⟩ (opening frames)
  | firstItem {outer} : (∀ f ∈ outer, f.Awaits) →
      Follows ⟨.items [] :: outer, .firstItem⟩ (opening outer ++ [.openArray])
  | firstKey {outer} : (∀ f ∈ outer, f.Awaits) →
      Follows ⟨.members [] none :: outer, .firstKey⟩ (opening outer ++ [.openObject])
  | key {done outer} : (∀ f ∈ outer, f.Awaits) →
      (∀ m ∈ done, Quoted.Formed m.1 ∧ m.2.Grammatical) →
      Follows ⟨.members done none :: outer, .key⟩ (opening (.members done none :: outer))
  | colon {done key outer} : (∀ f ∈ outer, f.Awaits) →
      (∀ m ∈ done, Quoted.Formed m.1 ∧ m.2.Grammatical) → Quoted.Formed key →
      Follows ⟨.members done (some key) :: outer, .colon⟩
        (opening (.members done none :: outer) ++ [.text key])
  | item {done outer} : (∀ f ∈ outer, f.Awaits) → (∀ item ∈ done, item.Grammatical) → done ≠ [] →
      Follows ⟨.items done :: outer, .separator⟩
        (opening outer ++ .openArray :: itemTokens done.reverse)
  | member {done outer} : (∀ f ∈ outer, f.Awaits) →
      (∀ m ∈ done, Quoted.Formed m.1 ∧ m.2.Grammatical) → done ≠ [] →
      Follows ⟨.members done none :: outer, .separator⟩
        (opening outer ++ .openObject :: memberTokens done.reverse)
  | done {v} : v.Grammatical → Follows ⟨[], .done v false⟩ v.tokens
  | extra {frames v tokens} : Follows ⟨frames, .done v true⟩ tokens
  | stuck {frames tokens} : Follows ⟨frames, .stuck⟩ tokens

-- ---------------------------------------------------------------------------
-- One token
-- ---------------------------------------------------------------------------

namespace Builder.Follows

variable {frames outer : List Frame} {tok : Token} {v : Value}

theorem put (hf : ∀ f ∈ frames, f.Awaits) (hv : v.Grammatical) :
    (Builder.put frames v).Follows (opening frames ++ v.tokens) := by
  cases frames with
  | nil => exact .done hv
  | cons frame outer =>
    rw [List.forall_mem_cons] at hf
    obtain ⟨hframe, houter⟩ := hf
    cases hframe with
    | @items done hdone =>
      have hput : Builder.put (.items done :: outer) v =
          ⟨.items (v :: done) :: outer, .separator⟩ := rfl
      have hnext := item houter (List.forall_mem_cons.mpr ⟨hv, hdone⟩) (by simp)
      simpa [hput, opening_cons, Frame.opening, itemTokens_concat] using hnext
    | @members done key hdone hkey =>
      have hput : Builder.put (.members done (some key) :: outer) v =
          ⟨.members ((key, v) :: done) none :: outer, .separator⟩ := rfl
      have hdone' : ∀ m ∈ (key, v) :: done, Quoted.Formed m.1 ∧ m.2.Grammatical :=
        List.forall_mem_cons.mpr ⟨⟨hkey, hv⟩, hdone⟩
      have hnext := member houter hdone' (by simp)
      simpa [hput, opening_cons, Frame.opening, memberTokens_concat] using hnext

theorem start (hf : ∀ f ∈ frames, f.Awaits) (ht : tok.Grammatical) :
    (Builder.start frames tok).Follows (opening frames ++ [tok]) := by
  cases tok with
  | openArray => exact .firstItem hf
  | openObject => exact .firstKey hf
  | null => exact .put hf .null
  | bool value => exact .put hf (.bool value)
  | int value => exact .put hf (.int value)
  | real digits => exact .put hf (.real ht)
  | text raw => exact .put hf (.text ht)
  | _ => exact .stuck

theorem takeKey {done : List (Bytes × Value)} (hf : ∀ f ∈ outer, f.Awaits)
    (hdone : ∀ m ∈ done, Quoted.Formed m.1 ∧ m.2.Grammatical) (ht : tok.Grammatical) :
    (Builder.takeKey (.members done none :: outer) tok).Follows
      (opening (.members done none :: outer) ++ [tok]) := by
  cases tok with
  | text raw => exact .colon hf hdone ht
  | _ => exact .stuck

theorem closeArray {done : List Value} (hf : ∀ f ∈ outer, f.Awaits)
    (hdone : ∀ item ∈ done, item.Grammatical) :
    (Builder.close (.items done :: outer) .closeArray).Follows
      (opening outer ++ .openArray :: itemTokens done.reverse ++ [.closeArray]) := by
  have harray : (Value.array done.reverse true).Grammatical :=
    .array fun item hm => hdone item (List.mem_reverse.mp hm)
  simpa [Builder.close, Value.tokens] using put hf harray

theorem closeObject {done : List (Bytes × Value)} (hf : ∀ f ∈ outer, f.Awaits)
    (hdone : ∀ m ∈ done, Quoted.Formed m.1 ∧ m.2.Grammatical) :
    (Builder.close (.members done none :: outer) .closeObject).Follows
      (opening outer ++ .openObject :: memberTokens done.reverse ++ [.closeObject]) := by
  have hobject : (Value.object done.reverse true).Grammatical :=
    Value.grammatical_object.mpr ⟨rfl, fun m hm => hdone m (List.mem_reverse.mp hm)⟩
  simpa [Builder.close, Value.tokens] using put hf hobject

theorem step {b : Builder} {tokens : List Token} (h : b.Follows tokens) (ht : tok.Grammatical) :
    (b.step tok).Follows (tokens ++ [tok]) := by
  cases h with
  | value hf => exact .start hf ht
  | @firstItem outer hf =>
    simp only [Builder.step]
    split
    · subst tok
      simpa [itemTokens] using closeArray hf (List.forall_mem_nil _)
    · have hstart := start (List.forall_mem_cons.mpr ⟨.items (List.forall_mem_nil _), hf⟩) ht
      simpa [opening_cons, Frame.opening] using hstart
  | @firstKey outer hf =>
    simp only [Builder.step]
    split
    · subst tok
      simpa [memberTokens] using closeObject hf (List.forall_mem_nil _)
    · have hkey := takeKey hf (List.forall_mem_nil _) ht
      simpa [opening_cons, Frame.opening] using hkey
  | key hf hdone => exact .takeKey hf hdone ht
  | @colon done key outer hf hdone hkey =>
    simp only [Builder.step]
    split
    · subst tok
      have hvalue := value (List.forall_mem_cons.mpr ⟨.members hdone hkey, hf⟩)
      simpa [opening_cons, Frame.opening] using hvalue
    · exact .stuck
  -- Any token but the comma and the bracket leaves the builder stuck, whatever it has taken.
  | @item done outer hf hdone hne =>
    cases tok with
    | comma =>
      have hvalue := value (List.forall_mem_cons.mpr ⟨.items hdone, hf⟩)
      rwa [opening_items hne] at hvalue
    | closeArray => exact .closeArray hf hdone
    | _ => exact .stuck
  | @member done outer hf hdone hne =>
    cases tok with
    | comma =>
      have hkey := key hf hdone
      rwa [opening_members hne] at hkey
    | closeObject => exact .closeObject hf hdone
    | _ => exact .stuck
  | done => exact .extra
  | extra => exact .extra
  | stuck => exact .stuck

theorem run {b : Builder} {tokens : List Token} (h : b.Follows tokens) {more : List Token}
    (ht : ∀ tok ∈ more, tok.Grammatical) :
    (more.foldl Builder.step b).Follows (tokens ++ more) := by
  induction more generalizing b tokens with
  | nil => simpa using h
  | cons tok rest ih =>
    rw [List.forall_mem_cons] at ht
    simpa using ih (h.step ht.1) ht.2

end Builder.Follows

-- ---------------------------------------------------------------------------
-- Texts
-- ---------------------------------------------------------------------------

variable {text : Bytes} {v : Value}

theorem spells_of_parse (h : parse text = ⟨v, true⟩) : v.Spells text := by
  obtain ⟨tokens, whole, hlex⟩ : ∃ tokens whole, lex text = ⟨tokens, whole⟩ := ⟨_, _, rfl⟩
  simp only [parse, hlex, Lexed.document, Document.mk.injEq, Bool.and_eq_true] at h
  obtain ⟨hroot, hwhole, hcomplete⟩ := h
  subst whole
  obtain ⟨hspaced, hgrammatical⟩ := spaced_of_lex hlex
  have hempty : Builder.Follows {} [] := .value (List.forall_mem_nil _)
  have hfollows := hempty.run hgrammatical
  generalize tokens.foldl Builder.step {} = b at hfollows hroot hcomplete
  rw [List.nil_append] at hfollows
  cases hfollows with
  | done hv =>
    obtain rfl : _ = v := hroot
    exact ⟨hv, hspaced⟩
  | extra => simp at hcomplete
  | _ => simp at hcomplete

/-- A text is read as one whole value just if it spells that value. -/
theorem parse_eq_iff : parse text = ⟨v, true⟩ ↔ v.Spells text :=
  ⟨spells_of_parse, Value.Spells.parse⟩

end Precompiled.Json
