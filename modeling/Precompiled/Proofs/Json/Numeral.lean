import Precompiled.Json.Token
import Precompiled.Proofs.Text.Digits

/-!
# The grammar of numbers

A number is a sign, a whole part, a fraction and an exponent, of which only the whole part has to
be there. A whole part alone is an integer and everything else is kept as it stands (`Real`), minus
zero included. The phases of the reader are the starts of such a number (`Number.UnderWay`), and
where it may end it has the token that spells what has been read.
-/

namespace Precompiled.Json

theorem eq_toUInt8 {b : UInt8} {c : Char} (h : Char.ofUInt8 b = c) : b = c.toUInt8 := by
  subst h
  exact (UInt8.toUInt8_toUInt32 b).symm

-- ---------------------------------------------------------------------------
-- Digits
-- ---------------------------------------------------------------------------

def digitByte (d : Nat) : UInt8 := UInt8.ofNat (48 + d)

theorem encode_digitChar {d : Nat} (h : d < 10) :
    String.utf8EncodeChar d.digitChar = [digitByte d] := by
  have hall : ∀ d : Fin 10, String.utf8EncodeChar d.val.digitChar = [digitByte d.val] := by decide
  exact hall ⟨d, h⟩

theorem digitByte_spec {d : Nat} (h : d < 10) :
    (Char.ofUInt8 (digitByte d)).isDigit = true ∧ (digitByte d).toNat - '0'.toNat = d := by
  have hall : ∀ d : Fin 10, (Char.ofUInt8 (digitByte d.val)).isDigit = true ∧
      (digitByte d.val).toNat - '0'.toNat = d.val := by decide
  exact hall ⟨d, h⟩

theorem exists_digitByte {b : UInt8} (h : (Char.ofUInt8 b).isDigit = true) :
    ∃ d < 10, b = digitByte d := by
  have hval : (Char.ofUInt8 b).val = b.toUInt32 := rfl
  have hrange : 48 ≤ b.toNat ∧ b.toNat ≤ 57 := by
    simpa [Char.isDigit, hval, UInt32.le_iff_toNat_le] using h
  refine ⟨b.toNat - 48, by omega, UInt8.toNat_inj.mp ?_⟩
  simp only [digitByte, UInt8.toNat_ofNat']
  omega

def decimal (n : Nat) : Bytes := (Nat.toDigits 10 n).flatMap String.utf8EncodeChar

theorem decimal_of_lt {d : Nat} (h : d < 10) : decimal d = [digitByte d] := by
  simp [decimal, Nat.toDigits_of_lt_base h, encode_digitChar h]

theorem decimal_concat {n d : Nat} (hn : 0 < n) (hd : d < 10) :
    decimal (n * 10 + d) = decimal n ++ [digitByte d] := by
  have hdiv : (n * 10 + d) / 10 = n := by omega
  have hmod : (n * 10 + d) % 10 = d := by omega
  simp [decimal, Nat.toDigits_of_base_le (show 1 < 10 by decide) (show 10 ≤ n * 10 + d by omega),
    hdiv, hmod, encode_digitChar hd]

def signBytes (negative : Bool) : Bytes := if negative then ['-'.toUInt8] else []

-- ---------------------------------------------------------------------------
-- Integers
-- ---------------------------------------------------------------------------

def signed (negative : Bool) (n : Nat) : Int := if negative then -n else n

theorem exists_signed (value : Int) :
    ∃ negative n, (negative = true → 0 < n) ∧ value = signed negative n := by
  by_cases h : 0 ≤ value
  · exact ⟨false, value.toNat, by simp, (Int.toNat_of_nonneg h).symm⟩
  · exact ⟨true, (-value).toNat, fun _ => by omega, by simp [signed]; omega⟩

theorem spelling_signed {negative : Bool} {n : Nat} (h : negative = true → 0 < n) :
    (Token.int (signed negative n)).spelling = signBytes negative ++ decimal n := by
  cases negative with
  | false => simp [Token.spelling, Utf8.encode, toString, Int.repr, decimal, signed, signBytes]
  | true =>
    obtain ⟨k, rfl⟩ := Nat.exists_eq_succ_of_ne_zero (Nat.ne_of_gt (h rfl))
    have hvalue : signed true (k + 1) = Int.negSucc k := rfl
    rw [Nat.succ_eq_add_one, hvalue]
    simp only [Token.spelling, Utf8.encode, toString, Int.repr, String.toList_append,
      Nat.toList_repr, List.flatMap_append]
    rfl

namespace Number

def whole (negative : Bool) (n : Nat) : Number :=
  ⟨if n = 0 then .zero else .whole, negative, n, (signBytes negative ++ decimal n).reverse⟩

def minus : Number := ⟨.sign, true, 0, ['-'.toUInt8]⟩

theorem token?_whole {negative : Bool} {n : Nat} (h : negative = true → 0 < n) :
    (whole negative n).token? = some (.int (signed negative n)) := by
  have hphase : (whole negative n).phase = .zero ∨ (whole negative n).phase = .whole := by
    by_cases hn : n = 0 <;> simp [whole, hn]
  have hne : negative = true → n ≠ 0 := fun hneg => Nat.ne_of_gt (h hneg)
  rcases hphase with hphase | hphase <;> cases negative <;>
    simp_all [token?, signed, whole]

theorem next?_minus {d : Nat} (h : d < 10) : minus.next? (digitByte d) = some (whole true d) := by
  have hall : ∀ d : Fin 10, minus.next? (digitByte d.val) = some (whole true d.val) := by decide
  exact hall ⟨d, h⟩

theorem next?_whole (negative : Bool) {n d : Nat} (hn : 0 < n) (hd : d < 10) :
    (whole negative n).next? (digitByte d) = some (whole negative (n * 10 + d)) := by
  obtain ⟨hdigit, hvalue⟩ := digitByte_spec hd
  have hne : n ≠ 0 := Nat.ne_of_gt hn
  have hne' : n * 10 + d ≠ 0 := by omega
  simp only [whole, if_neg hne, if_neg hne', next?, Phase.next?, hdigit, if_true,
    Option.map_some, hvalue, decimal_concat hn hd]
  simp

theorem next?_of_phase {n : Number} {b : UInt8} {p : Phase}
    (h : n.phase.next? (.ofUInt8 b) = some p)
    (hp : p ≠ .whole) : n.next? b = some ⟨p, n.negative, n.value, b :: n.read⟩ := by
  simp [next?, h, hp]

theorem foldlM_decimal (negative : Bool) (n : Nat) :
    ∃ d < 10, ∃ rest, decimal n = digitByte d :: rest ∧
      rest.foldlM next? (whole negative d) = some (whole negative n) := by
  induction n using Nat.strongRecOn with
  | ind n ih =>
    by_cases hlt : n < 10
    · exact ⟨n, hlt, [], decimal_of_lt hlt, rfl⟩
    · have hd : n % 10 < 10 := Nat.mod_lt n (by decide)
      have hpos : 0 < n / 10 := by omega
      have hsplit : n / 10 * 10 + n % 10 = n := Nat.div_add_mod' n 10
      obtain ⟨d, hlt', rest, hdigits, hrun⟩ := ih (n / 10) (by omega)
      refine ⟨d, hlt', rest ++ [digitByte (n % 10)], ?_, ?_⟩
      · rw [← hsplit, decimal_concat hpos hd, hdigits, hsplit, List.cons_append]
      · rw [List.foldlM_append, hrun]
        simp [next?_whole negative hpos hd, hsplit]

-- ---------------------------------------------------------------------------
-- Fractions and exponents
-- ---------------------------------------------------------------------------

inductive Digits : Bytes → Prop
  | one {d} : d < 10 → Digits [digitByte d]
  | concat {digits d} : Digits digits → d < 10 → Digits (digits ++ [digitByte d])

inductive Fraction : Bytes → Prop
  | none : Fraction []
  | digits {digits} : Digits digits → Fraction ('.'.toUInt8 :: digits)

inductive Exponent : Bytes → Prop
  | none : Exponent []
  | plain {mark digits} : isMark (.ofUInt8 mark) = true → Digits digits → Exponent (mark :: digits)
  | signed {mark sign digits} : isMark (.ofUInt8 mark) = true →
      sign = '+'.toUInt8 ∨ sign = '-'.toUInt8 → Digits digits → Exponent (mark :: sign :: digits)

/-- A number that is no integer as it stands: it has a fraction or an exponent, or it is minus
zero. -/
inductive Real : Bytes → Prop
  | mk (negative n) {fraction exponent} : Fraction fraction → Exponent exponent →
      fraction ≠ [] ∨ exponent ≠ [] ∨ negative = true ∧ n = 0 →
      Real (signBytes negative ++ decimal n ++ fraction ++ exponent)

variable {p q : Phase} {digits fraction exponent : Bytes}

theorem foldlM_digits (h : Digits digits)
    (hp : ∀ c : Char, c.isDigit = true → p.next? c = some q)
    (hq : ∀ c : Char, c.isDigit = true → q.next? c = some q) (hne : q ≠ .whole)
    (negative : Bool) (n : Nat) (read : Bytes) :
    digits.foldlM next? ⟨p, negative, n, read⟩ = some ⟨q, negative, n, digits.reverse ++ read⟩ := by
  induction h with
  | one hd =>
    have hnext := next?_of_phase (n := ⟨p, negative, n, read⟩) (hp _ (digitByte_spec hd).1) hne
    simp [hnext]
  | @concat digits d _ hd ih =>
    have hnext := next?_of_phase (n := ⟨q, negative, n, digits.reverse ++ read⟩)
      (hq _ (digitByte_spec hd).1) hne
    rw [List.foldlM_append, ih]
    simp [hnext]

theorem foldlM_fraction (h : Fraction fraction) (hp : p = .zero ∨ p = .whole) (negative : Bool)
    (n : Nat) (read : Bytes) :
    ∃ q, (q = p ∧ fraction = [] ∨ q = .fraction) ∧
      fraction.foldlM next? ⟨p, negative, n, read⟩ =
        some ⟨q, negative, n, fraction.reverse ++ read⟩ := by
  cases h with
  | none => exact ⟨p, .inl ⟨rfl, rfl⟩, rfl⟩
  | @digits digits h =>
    have hpoint : next? ⟨p, negative, n, read⟩ '.'.toUInt8 =
        some ⟨.point, negative, n, '.'.toUInt8 :: read⟩ := by
      rcases hp with rfl | rfl <;> rfl
    have hrun := foldlM_digits (p := .point) (q := .fraction) h
      (fun c hc => by simp [Phase.next?, hc]) (fun c hc => by simp [Phase.next?, hc]) (by simp)
      negative n ('.'.toUInt8 :: read)
    refine ⟨.fraction, .inr rfl, ?_⟩
    simp [List.foldlM_cons, hpoint, hrun]

theorem foldlM_exponent (h : Exponent exponent) (hp : p = .zero ∨ p = .whole ∨ p = .fraction)
    (negative : Bool) (n : Nat) (read : Bytes) :
    ∃ q, (q = p ∧ exponent = [] ∨ q = .exponent) ∧
      exponent.foldlM next? ⟨p, negative, n, read⟩ =
        some ⟨q, negative, n, exponent.reverse ++ read⟩ := by
  have hmark {mark : UInt8} (hm : isMark (.ofUInt8 mark) = true) :
      next? ⟨p, negative, n, read⟩ mark = some ⟨.mark, negative, n, mark :: read⟩ := by
    refine next?_of_phase (n := ⟨p, negative, n, read⟩) ?_ (by simp)
    have hm' := hm
    simp only [isMark, Bool.or_eq_true, decide_eq_true_eq] at hm'
    rcases hp with rfl | rfl | rfl <;> rcases hm' with hm' | hm' <;> rw [hm'] <;> rfl
  cases h with
  | none => exact ⟨p, .inl ⟨rfl, rfl⟩, rfl⟩
  | @plain mark digits hm h =>
    have hrun := foldlM_digits (p := .mark) (q := .exponent) h
      (fun c hc => by simp [Phase.next?, hc]) (fun c hc => by simp [Phase.next?, hc]) (by simp)
      negative n (mark :: read)
    refine ⟨.exponent, .inr rfl, ?_⟩
    simp [List.foldlM_cons, hmark hm, hrun]
  | @signed mark sign digits hm hs h =>
    have hsign : next? ⟨.mark, negative, n, mark :: read⟩ sign =
        some ⟨.markSign, negative, n, sign :: mark :: read⟩ := by
      rcases hs with rfl | rfl <;> rfl
    have hrun := foldlM_digits (p := .markSign) (q := .exponent) h
      (fun c hc => by simp [Phase.next?, hc]) (fun c hc => by simp [Phase.next?, hc]) (by simp)
      negative n (sign :: mark :: read)
    refine ⟨.exponent, .inr rfl, ?_⟩
    simp [List.foldlM_cons, hmark hm, hsign, hrun]

theorem foldlM_real (hf : Fraction fraction) (he : Exponent exponent) {negative : Bool} {n : Nat}
    (h : fraction ≠ [] ∨ exponent ≠ [] ∨ negative = true ∧ n = 0) :
    ∃ last, (fraction ++ exponent).foldlM next? (whole negative n) = some last ∧
      last.token? = some (.real (signBytes negative ++ decimal n ++ fraction ++ exponent)) := by
  have hphase : (whole negative n).phase = .zero ∨ (whole negative n).phase = .whole := by
    by_cases hn : n = 0 <;> simp [whole, hn]
  obtain ⟨q, hq, hfraction⟩ := foldlM_fraction hf hphase negative n (whole negative n).read
  have hphase' : q = .zero ∨ q = .whole ∨ q = .fraction := by
    rcases hq with ⟨rfl, -⟩ | rfl
    · exact hphase.imp_right .inl
    · exact .inr (.inr rfl)
  obtain ⟨q', hq', hexponent⟩ := foldlM_exponent he hphase' negative n
    (fraction.reverse ++ (whole negative n).read)
  have hrun : (fraction ++ exponent).foldlM next? (whole negative n) =
      some ⟨q', negative, n, exponent.reverse ++ (fraction.reverse ++ (whole negative n).read)⟩ := by
    rw [List.foldlM_append]
    exact Option.bind_eq_some_iff.mpr ⟨_, hfraction, hexponent⟩
  refine ⟨_, hrun, ?_⟩
  have hread : (exponent.reverse ++ (fraction.reverse ++ (whole negative n).read)).reverse =
      signBytes negative ++ decimal n ++ fraction ++ exponent := by
    simp [whole]
  -- It may end after digits of a fraction or of an exponent, or as minus zero.
  rcases hq' with ⟨rfl, rfl⟩ | rfl
  · rcases hq with ⟨rfl, rfl⟩ | rfl
    · obtain ⟨rfl, rfl⟩ : negative = true ∧ n = 0 := by simpa using h
      simp [token?, whole]
    · simp only [token?, hread]
  · simp only [token?, hread]

-- ---------------------------------------------------------------------------
-- Numbers under way
-- ---------------------------------------------------------------------------

/-- What the reader may have read of a number. -/
inductive UnderWay : Number → Prop
  | minus : UnderWay minus
  | whole (negative n) : UnderWay (whole negative n)
  | point (negative n) :
      UnderWay ⟨.point, negative, n, (signBytes negative ++ decimal n ++ ['.'.toUInt8]).reverse⟩
  | fraction (negative n) {digits} : Digits digits →
      UnderWay ⟨.fraction, negative, n,
        (signBytes negative ++ decimal n ++ '.'.toUInt8 :: digits).reverse⟩
  | mark (negative n) {fraction mark} : Fraction fraction → isMark (.ofUInt8 mark) = true →
      UnderWay ⟨.mark, negative, n,
        (signBytes negative ++ decimal n ++ fraction ++ [mark]).reverse⟩
  | markSign (negative n) {fraction mark sign} : Fraction fraction →
      isMark (.ofUInt8 mark) = true → sign = '+'.toUInt8 ∨ sign = '-'.toUInt8 →
      UnderWay ⟨.markSign, negative, n,
        (signBytes negative ++ decimal n ++ fraction ++ [mark, sign]).reverse⟩
  | exponent (negative n) {fraction exponent} : Fraction fraction → Exponent exponent →
      exponent ≠ [] →
      UnderWay ⟨.exponent, negative, n,
        (signBytes negative ++ decimal n ++ fraction ++ exponent).reverse⟩

theorem Exponent.concat {d : Nat} (h : Exponent exponent) (hne : exponent ≠ []) (hd : d < 10) :
    Exponent (exponent ++ [digitByte d]) := by
  cases h with
  | none => exact absurd rfl hne
  | plain hm hdigits => exact .plain hm (hdigits.concat hd)
  | signed hm hs hdigits => exact .signed hm hs (hdigits.concat hd)

variable {n n' : Number} {b : UInt8}

theorem next?_eq_some (h : n.next? b = some n') :
    ∃ p, n.phase.next? (.ofUInt8 b) = some p ∧
      n' = ⟨p, n.negative, if p = .whole then n.value * 10 + (b.toNat - '0'.toNat) else n.value,
        b :: n.read⟩ := by
  obtain ⟨p, hp, rfl⟩ := Option.map_eq_some_iff.mp h
  exact ⟨p, hp, rfl⟩

theorem UnderWay.after_whole {negative : Bool} {v : Nat}
    (h : (Number.whole negative v).next? b = some n') : n'.UnderWay := by
  have hpoint (hb : Char.ofUInt8 b = '.') : UnderWay
      ⟨.point, negative, v, b :: (signBytes negative ++ decimal v).reverse⟩ := by
    rw [eq_toUInt8 hb]
    simpa using UnderWay.point negative v
  have hmark (hb : isMark (.ofUInt8 b) = true) : UnderWay
      ⟨.mark, negative, v, b :: (signBytes negative ++ decimal v).reverse⟩ := by
    simpa using UnderWay.mark negative v .none hb
  obtain ⟨p, hp, rfl⟩ := next?_eq_some h
  by_cases hv : v = 0
  · simp only [Number.whole, if_pos hv, Phase.next?] at hp
    split at hp
    · cases hp
      exact hpoint ‹_›
    split at hp
    · cases hp
      exact hmark ‹_›
    · cases hp
  · simp only [Number.whole, if_neg hv, Phase.next?] at hp
    split at hp
    · obtain ⟨d, hd, rfl⟩ := exists_digitByte ‹_›
      rw [next?_whole negative (Nat.pos_of_ne_zero hv) hd, Option.some_inj] at h
      rw [← h]
      exact .whole negative _
    split at hp
    · cases hp
      exact hpoint ‹_›
    split at hp
    · cases hp
      exact hmark ‹_›
    · cases hp

theorem UnderWay.next (hn : n.UnderWay) (h : n.next? b = some n') : n'.UnderWay := by
  -- A byte that the phase does not go on with leads to no phase, against `hp`.
  cases hn with
  | minus =>
    have hdigit : (Char.ofUInt8 b).isDigit = true := by
      obtain ⟨p, hp, -⟩ := next?_eq_some h
      simp only [Number.minus, Phase.next?] at hp
      split at hp
      · simp [*]
      split at hp
      · assumption
      · cases hp
    obtain ⟨d, hd, rfl⟩ := exists_digitByte hdigit
    rw [next?_minus hd, Option.some_inj] at h
    rw [← h]
    exact .whole true d
  | whole negative v => exact .after_whole h
  | point negative v =>
    obtain ⟨p, hp, rfl⟩ := next?_eq_some h
    simp only [Phase.next?] at hp
    split at hp
    · obtain ⟨d, hd, rfl⟩ := exists_digitByte ‹_›
      cases hp
      simpa using UnderWay.fraction negative v (.one hd)
    · cases hp
  | fraction negative v hdigits =>
    obtain ⟨p, hp, rfl⟩ := next?_eq_some h
    simp only [Phase.next?] at hp
    split at hp
    · obtain ⟨d, hd, rfl⟩ := exists_digitByte ‹_›
      cases hp
      simpa using UnderWay.fraction negative v (hdigits.concat hd)
    split at hp
    · cases hp
      simpa using UnderWay.mark negative v (.digits hdigits) ‹_›
    · cases hp
  | mark negative v hf hm =>
    obtain ⟨p, hp, rfl⟩ := next?_eq_some h
    simp only [Phase.next?] at hp
    split at hp
    · obtain ⟨d, hd, rfl⟩ := exists_digitByte ‹_›
      cases hp
      simpa using UnderWay.exponent negative v hf (.plain hm (.one hd)) (by simp)
    split at hp
    · have hsign : b = '+'.toUInt8 ∨ b = '-'.toUInt8 := by
        rename_i hb
        exact hb.imp eq_toUInt8 eq_toUInt8
      cases hp
      simpa using UnderWay.markSign negative v hf hm hsign
    · cases hp
  | markSign negative v hf hm hs =>
    obtain ⟨p, hp, rfl⟩ := next?_eq_some h
    simp only [Phase.next?] at hp
    split at hp
    · obtain ⟨d, hd, rfl⟩ := exists_digitByte ‹_›
      cases hp
      simpa using UnderWay.exponent negative v hf (.signed hm hs (.one hd)) (by simp)
    · cases hp
  | exponent negative v hf he hne =>
    obtain ⟨p, hp, rfl⟩ := next?_eq_some h
    simp only [Phase.next?] at hp
    split at hp
    · obtain ⟨d, hd, rfl⟩ := exists_digitByte ‹_›
      cases hp
      simpa using UnderWay.exponent negative v hf (he.concat hne hd) (by simp)
    · cases hp

theorem UnderWay.token {tok : Token} (hn : n.UnderWay) (h : n.token? = some tok) :
    tok.spelling = n.read.reverse ∧ ∀ digits, tok = .real digits → Real digits := by
  have hreal {negative : Bool} {v : Nat} {fraction exponent : Bytes} (hf : Fraction fraction)
      (he : Exponent exponent) (hne : fraction ≠ [] ∨ exponent ≠ [] ∨ negative = true ∧ v = 0)
      (htok : tok = .real (signBytes negative ++ decimal v ++ fraction ++ exponent)) :
      tok.spelling = signBytes negative ++ decimal v ++ fraction ++ exponent ∧
        ∀ digits, tok = .real digits → Real digits := by
    subst htok
    refine ⟨rfl, ?_⟩
    rintro digits ⟨⟩
    exact .mk negative v hf he hne
  cases hn with
  | minus => cases h
  | whole negative v =>
    by_cases hv : negative = true ∧ v = 0
    · obtain ⟨rfl, rfl⟩ := hv
      cases h
      exact hreal .none .none (.inr (.inr ⟨rfl, rfl⟩)) rfl
    · have hpos : negative = true → 0 < v := fun hneg =>
        Nat.pos_of_ne_zero fun hzero => hv ⟨hneg, hzero⟩
      rw [token?_whole hpos, Option.some_inj] at h
      subst h
      exact ⟨by simp [spelling_signed hpos, Number.whole], nofun⟩
  | point => cases h
  | fraction negative v hdigits =>
    cases h
    simpa using hreal (.digits hdigits) .none (.inl (by simp)) (by simp)
  | mark => cases h
  | markSign => cases h
  | exponent negative v hf he hne =>
    cases h
    simpa using hreal hf he (.inr (.inl hne)) (by simp)

end Number
end Precompiled.Json
