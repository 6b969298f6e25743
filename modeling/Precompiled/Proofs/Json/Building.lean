import Precompiled.Json.Value
import Precompiled.Proofs.Json.Lexing

/-!
# Values round trip

A value of the grammar is read back from its tokens, and so from every text that puts nothing but
blanks between them. The builder takes the tokens of a value to the place where the value is due, by
induction on the grammar; a list of items or members is taken one by one.
-/

namespace Precompiled.Json

-- ---------------------------------------------------------------------------
-- The grammar
-- ---------------------------------------------------------------------------

/-- A value of the grammar, of any depth. -/
inductive Value.Grammatical : Value → Prop
  | null : Grammatical .null
  | bool (value) : Grammatical (.bool value)
  | int (value) : Grammatical (.int value)
  | real {digits} : Number.Real digits → Grammatical (.real digits)
  | text {raw} : Quoted.Formed raw → Grammatical (.text raw)
  | array {items} : (∀ item ∈ items, Grammatical item) → Grammatical (.array items true)
  | object {members : List (Bytes × Value)} : (∀ m ∈ members, Quoted.Formed m.1) →
      (∀ m ∈ members, Grammatical m.2) → Grammatical (.object members true)

theorem Value.grammatical_array {items : List Value} {closed : Bool} :
    (Value.array items closed).Grammatical ↔
      closed = true ∧ ∀ item ∈ items, item.Grammatical := by
  constructor
  · rintro ⟨⟩
    exact ⟨rfl, ‹_›⟩
  · rintro ⟨rfl, h⟩
    exact .array h

theorem Value.grammatical_object {members : List (Bytes × Value)} {closed : Bool} :
    (Value.object members closed).Grammatical ↔
      closed = true ∧ ∀ m ∈ members, Quoted.Formed m.1 ∧ m.2.Grammatical := by
  constructor
  · rintro ⟨⟩
    exact ⟨rfl, fun m hm => ⟨‹∀ m ∈ members, Quoted.Formed m.1› m hm,
      ‹∀ m ∈ members, m.2.Grammatical› m hm⟩⟩
  · rintro ⟨rfl, h⟩
    exact .object (fun m hm => (h m hm).1) fun m hm => (h m hm).2

-- ---------------------------------------------------------------------------
-- Tokens of a value
-- ---------------------------------------------------------------------------

theorem itemTokens_cons (item : Value) (rest : List Value) :
    itemTokens (item :: rest) =
      item.tokens ++ if rest = [] then [] else .comma :: itemTokens rest := by
  cases rest <;> simp [itemTokens]

theorem memberTokens_cons (m : Bytes × Value) (rest : List (Bytes × Value)) :
    memberTokens (m :: rest) =
      .text m.1 :: .colon ::
        (m.2.tokens ++ if rest = [] then [] else .comma :: memberTokens rest) := by
  obtain ⟨key, v⟩ := m
  cases rest <;> simp [memberTokens]

theorem mem_itemTokens {items : List Value} {tok : Token} (h : tok ∈ itemTokens items) :
    tok = .comma ∨ ∃ item ∈ items, tok ∈ item.tokens := by
  induction items with
  | nil => simp [itemTokens] at h
  | cons item rest ih =>
    rw [itemTokens_cons, List.mem_append] at h
    rcases h with h | h
    · exact .inr ⟨item, List.mem_cons_self, h⟩
    · split at h
      · simp at h
      · rcases List.mem_cons.mp h with h | h
        · exact .inl h
        · exact (ih h).imp_right fun ⟨other, hm, ht⟩ => ⟨other, List.mem_cons_of_mem _ hm, ht⟩

theorem mem_memberTokens {members : List (Bytes × Value)} {tok : Token}
    (h : tok ∈ memberTokens members) :
    tok = .comma ∨ tok = .colon ∨ ∃ m ∈ members, tok = .text m.1 ∨ tok ∈ m.2.tokens := by
  induction members with
  | nil => simp [memberTokens] at h
  | cons m rest ih =>
    rw [memberTokens_cons, List.mem_cons, List.mem_cons, List.mem_append] at h
    rcases h with h | h | h | h
    · exact .inr (.inr ⟨m, List.mem_cons_self, .inl h⟩)
    · exact .inr (.inl h)
    · exact .inr (.inr ⟨m, List.mem_cons_self, .inr h⟩)
    · split at h
      · simp at h
      · rcases List.mem_cons.mp h with h | h
        · exact .inl h
        · exact (ih h).imp_right <| .imp_right fun ⟨other, hm, ht⟩ =>
            ⟨other, List.mem_cons_of_mem _ hm, ht⟩

variable {v : Value}

theorem Value.Grammatical.readable (h : v.Grammatical) : ∀ tok ∈ v.tokens, tok.Readable := by
  induction h with
  | null | bool =>
    intro tok ht
    rw [List.mem_singleton.mp ht]
    exact Token.readable_of_word rfl (by simp)
  | int value =>
    intro tok ht
    rw [List.mem_singleton.mp ht]
    exact Token.readable_int value
  | real hdigits =>
    intro tok ht
    rw [List.mem_singleton.mp ht]
    exact Token.readable_real hdigits
  | text hraw =>
    intro tok ht
    rw [List.mem_singleton.mp ht]
    exact Token.readable_formed hraw
  | array _ ih =>
    intro tok ht
    rw [Value.tokens, if_pos rfl, List.mem_append, List.mem_cons, List.mem_singleton] at ht
    rcases ht with (rfl | ht) | rfl
    · exact Token.readable_of_word rfl (by simp)
    · rcases mem_itemTokens ht with rfl | ⟨item, hm, ht⟩
      · exact Token.readable_of_word rfl (by simp)
      · exact ih item hm tok ht
    · exact Token.readable_of_word rfl (by simp)
  | object hkeys _ ih =>
    intro tok ht
    rw [Value.tokens, if_pos rfl, List.mem_append, List.mem_cons, List.mem_singleton] at ht
    rcases ht with (rfl | ht) | rfl
    · exact Token.readable_of_word rfl (by simp)
    · rcases mem_memberTokens ht with rfl | rfl | ⟨m, hm, rfl | ht⟩
      · exact Token.readable_of_word rfl (by simp)
      · exact Token.readable_of_word rfl (by simp)
      · exact Token.readable_formed (hkeys m hm)
      · exact ih m hm tok ht
    · exact Token.readable_of_word rfl (by simp)

theorem apart_append {a b : List Token} {tok : Token} (h : tok.isNumber = false)
    (ha : Apart a = true) (hb : Apart b = true) : Apart (a ++ tok :: b) = true := by
  induction a with
  | nil =>
    cases b with
    | nil => rfl
    | cons next rest => simpa [Apart, h] using hb
  | cons x rest ih =>
    cases rest with
    | nil =>
      have hnext : Apart (tok :: b) = true := ih rfl
      simp [Apart, h, hnext]
    | cons y more =>
      simp only [Apart, Bool.and_eq_true] at ha
      have hrest := ih ha.2
      simp only [List.cons_append] at hrest ⊢
      simp [Apart, ha.1, hrest]

mutual
theorem apart_value (v : Value) : Apart v.tokens = true := by
  match v with
  | .null | .bool _ | .int _ | .real _ | .text _ | .broken => rfl
  | .array items closed =>
    have hitems := apart_items items
    cases closed with
    | true => exact apart_append (a := []) rfl rfl (apart_append rfl hitems rfl)
    | false => exact apart_append (a := []) rfl rfl (by simpa using hitems)
  | .object members closed =>
    have hmembers := apart_members members
    cases closed with
    | true => exact apart_append (a := []) rfl rfl (apart_append rfl hmembers rfl)
    | false => exact apart_append (a := []) rfl rfl (by simpa using hmembers)

theorem apart_items (items : List Value) : Apart (itemTokens items) = true := by
  match items with
  | [] => rfl
  | item :: rest =>
    have hitem := apart_value item
    have hrest := apart_items rest
    rw [itemTokens_cons]
    split
    · simpa using hitem
    · exact apart_append rfl hitem hrest

theorem apart_members (members : List (Bytes × Value)) : Apart (memberTokens members) = true := by
  match members with
  | [] => rfl
  | (key, v) :: rest =>
    have hv := apart_value v
    have hrest := apart_members rest
    rw [memberTokens_cons]
    refine apart_append (a := [.text key]) rfl rfl ?_
    split
    · simpa using hv
    · exact apart_append rfl hv hrest
end

-- ---------------------------------------------------------------------------
-- What the builder does with them
-- ---------------------------------------------------------------------------

theorem Value.Grammatical.tokens_eq_cons (h : v.Grammatical) :
    ∃ tok rest, v.tokens = tok :: rest ∧ tok ≠ .closeArray := by
  cases h with
  | _ => exact ⟨_, _, rfl, by simp⟩

open Builder (put)

theorem foldl_firstItem {item : Value} {rest : List Value} (h : item.Grammatical)
    (frames : List Frame) :
    (itemTokens (item :: rest)).foldl Builder.step ⟨frames, .firstItem⟩ =
      (itemTokens (item :: rest)).foldl Builder.step ⟨frames, .value⟩ := by
  obtain ⟨tok, more, htokens, hclose⟩ := h.tokens_eq_cons
  have hstep : Builder.step ⟨frames, .firstItem⟩ tok = Builder.step ⟨frames, .value⟩ tok := by
    simp [Builder.step, hclose]
  rw [itemTokens_cons, htokens, List.cons_append, List.foldl_cons, List.foldl_cons, hstep]

theorem foldl_firstKey (m : Bytes × Value) (rest : List (Bytes × Value)) (frames : List Frame) :
    (memberTokens (m :: rest)).foldl Builder.step ⟨frames, .firstKey⟩ =
      (memberTokens (m :: rest)).foldl Builder.step ⟨frames, .key⟩ := by
  rw [memberTokens_cons, List.foldl_cons, List.foldl_cons]
  rfl

theorem foldl_items {items : List Value}
    (h : ∀ item ∈ items, ∀ frames,
      item.tokens.foldl Builder.step ⟨frames, .value⟩ = put frames item)
    (hne : items ≠ []) (done : List Value) (outer : List Frame) :
    (itemTokens items).foldl Builder.step ⟨.items done :: outer, .value⟩ =
      ⟨.items (items.reverse ++ done) :: outer, .separator⟩ := by
  induction items generalizing done with
  | nil => exact absurd rfl hne
  | cons item rest ih =>
    rw [List.forall_mem_cons] at h
    rw [itemTokens_cons, List.foldl_append, h.1]
    cases rest with
    | nil => rfl
    | cons next more =>
      have hcomma : Builder.step (put (.items done :: outer) item) .comma =
          ⟨.items (item :: done) :: outer, .value⟩ := rfl
      rw [if_neg (by simp), List.foldl_cons, hcomma, ih h.2 (by simp)]
      simp

theorem foldl_members {members : List (Bytes × Value)}
    (h : ∀ m ∈ members, ∀ frames,
      m.2.tokens.foldl Builder.step ⟨frames, .value⟩ = put frames m.2)
    (hne : members ≠ []) (done : List (Bytes × Value)) (outer : List Frame) :
    (memberTokens members).foldl Builder.step ⟨.members done none :: outer, .key⟩ =
      ⟨.members (members.reverse ++ done) none :: outer, .separator⟩ := by
  induction members generalizing done with
  | nil => exact absurd rfl hne
  | cons m rest ih =>
    rw [List.forall_mem_cons] at h
    have hkey : Builder.step ⟨.members done none :: outer, .key⟩ (.text m.1) =
        ⟨.members done (some m.1) :: outer, .colon⟩ := rfl
    have hcolon : Builder.step ⟨.members done (some m.1) :: outer, .colon⟩ .colon =
        ⟨.members done (some m.1) :: outer, .value⟩ := rfl
    rw [memberTokens_cons, List.foldl_cons, hkey, List.foldl_cons, hcolon, List.foldl_append, h.1]
    cases rest with
    | nil => rfl
    | cons next more =>
      have hcomma : Builder.step (put (.members done (some m.1) :: outer) m.2) .comma =
          ⟨.members (m :: done) none :: outer, .key⟩ := rfl
      rw [if_neg (by simp), List.foldl_cons, hcomma, ih h.2 (by simp)]
      simp

theorem foldl_value (h : v.Grammatical) (frames : List Frame) :
    v.tokens.foldl Builder.step ⟨frames, .value⟩ = put frames v := by
  induction h generalizing frames with
  | @array items hitems ih =>
    have hopen : Builder.step ⟨frames, .value⟩ .openArray = ⟨.items [] :: frames, .firstItem⟩ := rfl
    rw [Value.tokens, if_pos rfl, List.cons_append, List.foldl_cons, hopen, List.foldl_append,
      List.foldl_cons, List.foldl_nil]
    cases items with
    | nil => rfl
    | cons item rest =>
      have hclose : Builder.step
          ⟨.items ((item :: rest).reverse ++ []) :: frames, .separator⟩ .closeArray =
            put frames (.array ((item :: rest).reverse ++ []).reverse true) := rfl
      rw [foldl_firstItem (hitems item List.mem_cons_self), foldl_items ih (by simp), hclose]
      simp
  | @object members _ _ ih =>
    have hopen : Builder.step ⟨frames, .value⟩ .openObject =
        ⟨.members [] none :: frames, .firstKey⟩ := rfl
    rw [Value.tokens, if_pos rfl, List.cons_append, List.foldl_cons, hopen, List.foldl_append,
      List.foldl_cons, List.foldl_nil]
    cases members with
    | nil => rfl
    | cons m rest =>
      have hclose : Builder.step
          ⟨.members ((m :: rest).reverse ++ []) none :: frames, .separator⟩ .closeObject =
            put frames (.object ((m :: rest).reverse ++ []).reverse true) := rfl
      rw [foldl_firstKey, foldl_members ih (by simp), hclose]
      simp
  | _ => rfl

-- ---------------------------------------------------------------------------
-- Texts of a value
-- ---------------------------------------------------------------------------

/-- The text is the value, with blanks anywhere between its tokens. -/
structure Value.Spells (v : Value) (text : Bytes) : Prop where
  grammatical : v.Grammatical
  spaced : Spaced v.tokens text

/-- A value is read back from every text that spells it. -/
theorem Value.Spells.parse {text : Bytes} (h : v.Spells text) : parse text = ⟨v, true⟩ := by
  have hlex := lex_spaced h.spaced h.grammatical.readable (apart_value v)
  have hbuild : v.tokens.foldl Builder.step {} = put [] v := foldl_value h.grammatical []
  rw [Json.parse, hlex, Lexed.document, hbuild]
  rfl

end Precompiled.Json
