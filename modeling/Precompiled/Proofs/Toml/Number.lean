import Mathlib.Data.Bool.AllAny
import Mathlib.Data.Nat.Digits.Defs
import Precompiled.Proofs.Text.Hex
import Precompiled.Proofs.Toml.Scan
import Precompiled.Toml.Moment

/-!
# Spellings of integers

An integer can be written in four bases, with a sign if it is decimal, with letters of either case
and with single underscores between its digits. However it is written, what is read is the value of
its digits; and it is taken neither for a date nor for a float.
-/

namespace Precompiled.Toml

open Scan

-- ---------------------------------------------------------------------------
-- Spellings
-- ---------------------------------------------------------------------------

def Digit (base : Nat) (c : Char) (d : Nat) : Prop := Hex.Shows c d ∧ d < base

instance (base : Nat) (c : Char) (d : Nat) : Decidable (Digit base c d) :=
  inferInstanceAs (Decidable (_ ∧ _))

/-- Digits of a base, with or without an underscore between two of them. -/
inductive Row (base : Nat) : List Char → List Nat → Prop
  | last {c d} : Digit base c d → Row base [c] [d]
  | digit {c d chars digits} : Digit base c d → Row base chars digits →
      Row base (c :: chars) (d :: digits)
  | scored {c d chars digits} : Digit base c d → Row base chars digits →
      Row base (c :: '_' :: chars) (d :: digits)

/-- A decimal number with no zero before other digits. -/
inductive Whole : List Char → Nat → Prop
  | zero : Whole ['0'] 0
  | row {chars d digits} : Row 10 chars (d :: digits) → d ≠ 0 →
      Whole chars (Nat.ofDigits 10 (d :: digits).reverse)

inductive BaseLetter : Char → Nat → Prop
  | hexadecimal : BaseLetter 'x' 16
  | octal : BaseLetter 'o' 8
  | binary : BaseLetter 'b' 2

inductive Sign : List Char → Bool → Prop
  | none : Sign [] false
  | plus : Sign ['+'] false
  | minus : Sign ['-'] true

/-- The ways to write an integer of any size. -/
inductive Spelled : List Char → Int → Prop
  | decimal {mark negative chars} {n : Nat} : Sign mark negative → Whole chars n →
      Spelled (mark ++ chars) (if negative then -n else n)
  | based {letter base chars digits} : BaseLetter letter base → Row base chars digits →
      Spelled ('0' :: letter :: chars) (Nat.ofDigits base digits.reverse : Nat)

def valueEnds : List Char := [' ', '\t', '\n', '\r', '#']

/-- A value on a line cannot go on with what comes next. -/
def Ends (rest : List Char) : Prop := ∀ c ∈ rest.head?, c ∈ valueEnds

variable {base n : Nat} {c : Char} {d : Nat} {chars rest shown text : List Char}
  {digits : List Nat} {kind : Char → Bool}

theorem Ends.stops (h : Ends rest) (hk : valueEnds.any kind = false) : Stops kind rest :=
  fun c hc => Bool.eq_false_iff.mpr (List.any_eq_false.mp hk c (h c hc))

theorem ends_of_stops (h : Stops (fun c => c ∉ valueEnds) rest) : Ends rest :=
  fun c hc => by simpa using h c hc

-- ---------------------------------------------------------------------------
-- Digits
-- ---------------------------------------------------------------------------

theorem Digit.value_decimal (h : Digit 10 c d) : c.toNat - '0'.toNat = d := by
  have hall : ∀ d : Fin 10, d.val.digitChar.toNat - '0'.toNat = d ∧
      d.val.digitChar.toUpper.toNat - '0'.toNat = d := by decide
  obtain ⟨⟨-, rfl | rfl⟩, hd⟩ := h
  · exact (hall ⟨d, hd⟩).1
  · exact (hall ⟨d, hd⟩).2

def decimalDigits : List Char := ['0', '1', '2', '3', '4', '5', '6', '7', '8', '9']

theorem Digit.mem_decimalDigits (h : Digit 10 c d) : c ∈ decimalDigits := by
  have hall : ∀ d : Fin 10, d.val.digitChar ∈ decimalDigits ∧
      d.val.digitChar.toUpper ∈ decimalDigits := by decide
  obtain ⟨⟨-, rfl | rfl⟩, hd⟩ := h
  · exact (hall ⟨d, hd⟩).1
  · exact (hall ⟨d, hd⟩).2

theorem Digit.isDigit (h : Digit 10 c d) : c.isDigit := by
  have hall : ∀ c ∈ decimalDigits, c.isDigit := List.all_eq_true.mp rfl
  exact hall c h.mem_decimalDigits

theorem Digit.value_based (h : Digit base c d) : (Hex.digit? c).getD 0 = d := by
  rw [Hex.digit?_eq_some.mpr h.1, Option.getD_some]

theorem Digit.isBased (h : Digit base c d) : (Hex.digit? c).any (· < base) := by
  rw [Hex.digit?_eq_some.mpr h.1]
  exact decide_eq_true h.2

theorem Row.head (h : Row base chars (d :: digits)) :
    ∃ c tail, chars = c :: tail ∧ Digit base c d := by
  cases h with
  | last hd => exact ⟨_, _, rfl, hd⟩
  | digit hd _ => exact ⟨_, _, rfl, hd⟩
  | scored hd _ => exact ⟨_, _, rfl, hd⟩

def nextDigit (kind : Char → Bool) : Scan Char := do
  discard (attempt (char '_'))
  satisfy kind

theorem digitRun_eq :
    digitRun kind = do return (← satisfy kind) :: (← many (nextDigit kind)) := rfl

theorem nextDigit_digit (hc : kind c) (hne : c ≠ '_') :
    nextDigit kind (c :: text) = some (c, text) := by
  simp [nextDigit, hc, hne]

theorem nextDigit_scored (hc : kind c) : nextDigit kind ('_' :: c :: text) = some (c, text) := by
  simp [nextDigit, hc]

theorem nextDigit_stops (hs : Stops (fun c => kind c || c = '_') rest) :
    nextDigit kind rest = none := by
  cases rest with
  | nil => rfl
  | cons c rest =>
    have hc := stops_cons.mp hs
    simp only [Bool.or_eq_false_iff, decide_eq_false_iff_not] at hc
    simp [nextDigit, hc]

theorem chain_row (hkind : ∀ c d, Digit base c d → kind c) (hscore : kind '_' = false)
    (h : Row base chars digits) (hs : Stops (fun c => kind c || c = '_') rest) :
    ∃ c tail shown, chars = c :: tail ∧ kind c ∧
      Chain (nextDigit kind) (tail ++ rest) shown rest ∧
      List.Forall₂ (Digit base) (c :: shown) digits := by
  have hne {c : Char} (hc : kind c) : c ≠ '_' := by
    rintro rfl
    exact absurd hc (by simp [hscore])
  induction h with
  | @last c d hd =>
    exact ⟨c, [], [], rfl, hkind c d hd, .stop (nextDigit_stops hs), .cons hd .nil⟩
  | @digit c d chars digits hd _ ih =>
    obtain ⟨c', tail, shown, rfl, hc', hchain, hshown⟩ := ih
    exact ⟨c, c' :: tail, c' :: shown, rfl, hkind c d hd,
      .next (nextDigit_digit hc' (hne hc')) (Nat.lt_succ_self _) hchain, .cons hd hshown⟩
  | @scored c d chars digits hd _ ih =>
    obtain ⟨c', tail, shown, rfl, hc', hchain, hshown⟩ := ih
    exact ⟨c, '_' :: c' :: tail, c' :: shown, rfl, hkind c d hd,
      .next (nextDigit_scored hc') (Nat.lt_succ_of_lt (Nat.lt_succ_self _)) hchain,
      .cons hd hshown⟩

theorem digitRun_row (hkind : ∀ c d, Digit base c d → kind c) (hscore : kind '_' = false)
    (h : Row base chars digits) (hs : Stops (fun c => kind c || c = '_') rest) :
    ∃ shown, digitRun kind (chars ++ rest) = some (shown, rest) ∧
      List.Forall₂ (Digit base) shown digits := by
  obtain ⟨c, tail, shown, rfl, hc, hchain, hshown⟩ := chain_row hkind hscore h hs
  refine ⟨c :: shown, ?_, hshown⟩
  simp [digitRun_eq, hc, many_of_chain hchain]

theorem foldl_value {value : Char → Nat} (hv : ∀ c d, Digit base c d → value c = d)
    (h : List.Forall₂ (Digit base) shown digits) :
    shown.foldl (fun total c => total * base + value c) 0 = Nat.ofDigits base digits.reverse := by
  have hfold : shown.foldl (fun total c => total * base + value c) 0 =
      digits.foldl (fun total d => total * base + d) 0 := by
    generalize 0 = total
    induction h generalizing total with
    | nil => rfl
    | cons hd _ ih => rw [List.foldl_cons, List.foldl_cons, hv _ _ hd, ih]
  rw [hfold, Nat.ofDigits_eq_foldr, List.foldr_reverse]
  simp only [Nat.cast_id, Nat.mul_comm base, Nat.add_comm]

-- ---------------------------------------------------------------------------
-- Integers
-- ---------------------------------------------------------------------------

theorem ne_zero_of_digit (h : Digit 10 c d) (hd : d ≠ 0) : c ≠ '0' := by
  rintro rfl
  exact hd h.value_decimal.symm

theorem wholeDigits_whole (h : Whole chars n)
    (hs : Stops (fun c => c.isDigit || c = '_') rest) :
    ∃ shown, wholeDigits (chars ++ rest) = some (shown, rest) ∧ decimalValue shown = n := by
  cases h with
  | zero => exact ⟨['0'], by simp [wholeDigits], rfl⟩
  | @row chars d digits hrow hd =>
    obtain ⟨shown, hrun, hshown⟩ := digitRun_row (fun _ _ h => h.isDigit) (by decide) hrow hs
    refine ⟨shown, ?_, foldl_value (fun _ _ h => h.value_decimal) hshown⟩
    obtain ⟨c, tail, rfl, hc⟩ := hrow.head
    have hahead : ahead (satisfy fun c => c.isDigit && c ≠ '0') (c :: tail ++ rest) =
        some ((), c :: tail ++ rest) := by
      simp [hc.isDigit, ne_zero_of_digit hc hd]
    refine orElse_of_some ?_
    rw [bind_of_some hahead, hrun]

theorem Whole.head (h : Whole chars n) : ∃ c tail, chars = c :: tail ∧ c ∈ decimalDigits := by
  cases h with
  | zero => exact ⟨_, _, rfl, by decide⟩
  | row hrow _ =>
    obtain ⟨c, tail, rfl, hc⟩ := hrow.head
    exact ⟨c, tail, rfl, hc.mem_decimalDigits⟩

theorem sign_of_stops (h : Stops (fun c => c = '+' || c = '-') text) :
    sign text = some (false, text) := by
  simp [sign, satisfy_of_stops h]

theorem sign_whole {mark : List Char} {negative : Bool} (hm : Sign mark negative)
    (h : Whole chars n) : sign (mark ++ (chars ++ rest)) = some (negative, chars ++ rest) := by
  obtain ⟨c, tail, rfl, hc⟩ := h.head
  cases hm with
  | none => exact sign_of_stops (stops_of_mem hc (by decide))
  | plus => rfl
  | minus => rfl

theorem decimalInteger_whole {mark : List Char} {negative : Bool} (hm : Sign mark negative)
    (h : Whole chars n) (hf : fits (if negative then -(n : Int) else n)) (he : Ends rest) :
    decimalInteger (mark ++ (chars ++ rest)) =
      some (if negative then -(n : Int) else n, rest) := by
  obtain ⟨shown, hwhole, rfl⟩ := wholeDigits_whole h (he.stops (by decide))
  simp [decimalInteger, sign_whole hm h, hwhole, checked, hf]

theorem basedInteger_row {letter : Char} (hrow : Row base chars digits)
    (hf : fits (Nat.ofDigits base digits.reverse : Nat)) (he : Ends rest) :
    basedInteger letter base ('0' :: letter :: chars ++ rest) =
      some (((Nat.ofDigits base digits.reverse : Nat) : Int), rest) := by
  have hs : Stops (fun c => (Hex.digit? c).any (· < base) || c = '_') rest := by
    have hno : ∀ c ∈ valueEnds, Hex.digit? c = none ∧ c ≠ '_' := List.all_iff_forall_prop.mp rfl
    exact fun c hc => by simp [hno c (he c hc)]
  obtain ⟨shown, hrun, hshown⟩ := digitRun_row (fun _ _ h => h.isBased) (by rfl) hrow hs
  rw [← foldl_value (fun _ _ h => h.value_based) hshown] at hf ⊢
  simp [basedInteger, hrun, checked, hf]

theorem basedInteger_none {letter : Char} (h : ∀ tail, text ≠ '0' :: letter :: tail) :
    basedInteger letter base text = none := by
  refine bind_of_none ?_
  cases text with
  | nil => rfl
  | cons c text =>
    by_cases hc : c = '0'
    · cases text with
      | nil => simp [hc]
      | cons c' tail =>
        by_cases hc' : c' = letter
        · exact absurd (by rw [hc, hc']) (h tail)
        · simp [hc, hc']
    · simp [hc]

theorem decimal_ne_based {mark : List Char} {negative : Bool} (hm : Sign mark negative)
    (h : Whole chars n) (he : Ends rest) {letter : Char} (hl : BaseLetter letter base)
    (tail : List Char) : mark ++ (chars ++ rest) ≠ '0' :: letter :: tail := by
  intro heq
  cases hm with
  | plus => cases heq
  | minus => cases heq
  | none =>
    cases h with
    | zero =>
      obtain rfl : rest = letter :: tail := (List.cons.inj heq).2
      have hmark := he letter rfl
      cases hl <;> exact absurd hmark (by decide)
    | row hrow hd =>
      obtain ⟨c, chars, rfl, hc⟩ := hrow.head
      exact ne_zero_of_digit hc hd (List.cons.inj heq).1

/-- However an integer is spelled, its value is read. -/
theorem integer_spelled {value : Int} (h : Spelled chars value) (hf : fits value)
    (he : Ends rest) : integer (chars ++ rest) = some (value, rest) := by
  cases h with
  | decimal hm hwhole =>
    rw [List.append_assoc, integer,
      orElse_of_none (basedInteger_none (decimal_ne_based hm hwhole he .hexadecimal)),
      orElse_of_none (basedInteger_none (decimal_ne_based hm hwhole he .octal)),
      orElse_of_none (basedInteger_none (decimal_ne_based hm hwhole he .binary)),
      decimalInteger_whole hm hwhole hf he]
  | based hl hrow =>
    cases hl with
    | hexadecimal => exact orElse_of_some (basedInteger_row hrow hf he)
    | octal =>
      rw [integer, orElse_of_none (basedInteger_none (by simp)),
        orElse_of_some (basedInteger_row hrow hf he)]
    | binary =>
      rw [integer, orElse_of_none (basedInteger_none (by simp)),
        orElse_of_none (basedInteger_none (by simp)),
        orElse_of_some (basedInteger_row hrow hf he)]

-- ---------------------------------------------------------------------------
-- Neither floats nor dates
-- ---------------------------------------------------------------------------

theorem float_none {negative : Bool} {between left : List Char}
    (hs : sign text = some (negative, between)) (hw : wholeDigits between = some (shown, left))
    (hl : Stops (fun c => c = '.' || c = 'e' || c = 'E') left)
    (hb : Stops (fun c => c = 'i' || c = 'n') between) : float text = none := by
  have hexponent : exponentPart left = none := by
    refine bind_of_none ?_
    rw [discard_apply, satisfy_of_stops (hl.mono (by simp +contextual)), Option.map_none]
  have hfraction : fractionPart left = none :=
    bind_of_none (char_of_stops (hl.mono (by simp +contextual)))
  have hfinite : finiteFloat text = none := by simp [finiteFloat, hs, hw, hexponent, hfraction]
  have hinf : word ['i', 'n', 'f'] between = none :=
    word_of_stops (hb.mono (by simp +contextual))
  have hnan : word ['n', 'a', 'n'] between = none :=
    word_of_stops (hb.mono (by simp +contextual))
  rw [float, orElse_of_none hfinite, bind_apply, discard_apply, hs]
  exact (orElse_of_none hinf).trans hnan

theorem float_spelled {value : Int} (h : Spelled chars value) (he : Ends rest) :
    float (chars ++ rest) = none := by
  cases h with
  | decimal hm hwhole =>
    obtain ⟨shown, hw, -⟩ := wholeDigits_whole hwhole (he.stops (by decide))
    obtain ⟨c, tail, rfl, hc⟩ := hwhole.head
    rw [List.append_assoc]
    exact float_none (sign_whole hm hwhole) hw (he.stops (by decide))
      (stops_of_mem hc (by decide))
  | @based letter base chars digits hl _ =>
    have hsign : sign ('0' :: letter :: chars ++ rest) =
        some (false, '0' :: letter :: chars ++ rest) := rfl
    have hzero : wholeDigits ('0' :: letter :: chars ++ rest) =
        some (['0'], letter :: chars ++ rest) := by simp [wholeDigits]
    refine float_none hsign hzero ?_ (stops_cons.mpr rfl)
    cases hl <;> exact stops_cons.mpr rfl

theorem Digit.no_mark (h : Digit base c d) : c ≠ '-' ∧ c ≠ ':' := by
  have hall : ∀ d : Fin 16, (d.val.digitChar ≠ '-' ∧ d.val.digitChar ≠ ':') ∧
      d.val.digitChar.toUpper ≠ '-' ∧ d.val.digitChar.toUpper ≠ ':' := by decide
  obtain ⟨⟨hd, rfl | rfl⟩, -⟩ := h
  · exact (hall ⟨d, hd⟩).1
  · exact (hall ⟨d, hd⟩).2

theorem Row.no_mark (h : Row base chars digits) : ∀ c ∈ chars, c ≠ '-' ∧ c ≠ ':' := by
  induction h with
  | last hd => exact List.forall_mem_singleton.mpr hd.no_mark
  | digit hd _ ih => exact List.forall_mem_cons.mpr ⟨hd.no_mark, ih⟩
  | scored hd _ ih =>
    exact List.forall_mem_cons.mpr ⟨hd.no_mark, List.forall_mem_cons.mpr ⟨by decide, ih⟩⟩

theorem Whole.no_mark (h : Whole chars n) : ∀ c ∈ chars, c ≠ '-' ∧ c ≠ ':' := by
  cases h with
  | zero => exact List.forall_mem_singleton.mpr (by decide)
  | row hrow _ => exact hrow.no_mark

theorem Spelled.no_mark {value : Int} (h : Spelled chars value) :
    ∀ c ∈ chars.tail, c ≠ '-' ∧ c ≠ ':' := by
  cases h with
  | decimal hm hwhole =>
    cases hm with
    | none => exact fun c hc => hwhole.no_mark c (List.mem_of_mem_tail hc)
    | plus => exact hwhole.no_mark
    | minus => exact hwhole.no_mark
  | based hl hrow =>
    cases hl <;> exact List.forall_mem_cons.mpr ⟨by decide, hrow.no_mark⟩

theorem bounded_some {width least greatest value : Nat}
    (h : bounded width least greatest text = some (value, rest)) :
    ∃ row, text = row ++ rest ∧ row.length = width ∧ ∀ c ∈ row, c.isDigit := by
  obtain ⟨⟨row, left⟩, hcount, hvalue⟩ := Option.bind_eq_some_iff.mp h
  obtain ⟨rfl, hlength, hdigits⟩ := count_some hcount
  refine ⟨row, ?_, hlength, hdigits⟩
  simp only at hvalue
  split at hvalue
  · rw [(Prod.mk.inj (Option.some.inj hvalue)).2]
  · cases hvalue

/-- Every date and time begins with digits that have a minus or a colon right after them. -/
theorem moment_none (h : ∀ row c tail, text = row ++ c :: tail → row ≠ [] →
    (∀ c ∈ row, c.isDigit) → c ≠ '-' ∧ c ≠ ':') : moment text = none := by
  have hafter {width least greatest value : Nat} {rest : List Char} (hwidth : 0 < width)
      (hb : bounded width least greatest text = some (value, rest)) :
      char '-' rest = none ∧ char ':' rest = none := by
    obtain ⟨row, rfl, rfl, hdigits⟩ := bounded_some hb
    cases rest with
    | nil => exact ⟨rfl, rfl⟩
    | cons c tail =>
      have hc := h row c tail rfl (List.length_pos_iff.mp hwidth) hdigits
      simp [hc]
  -- A year or an hour would be such a row, but the mark that has to follow does not.
  have hdate : date text = none := by
    rw [date, bind_apply]
    cases hb : bounded 4 0 9999 text with
    | none => rfl
    | some found => exact bind_of_none (hafter (by decide) hb).1
  have htime : time text = none := by
    rw [time, bind_apply, discard_apply]
    cases hb : bounded 2 0 23 text with
    | none => rfl
    | some found => exact bind_of_none (hafter (by decide) hb).2
  rw [moment, orElse_of_none (bind_of_none hdate), htime]

theorem moment_spelled {value : Int} (h : Spelled chars value) (he : Ends rest) :
    moment (chars ++ rest) = none := by
  refine moment_none fun row c tail heq hne hdigits => ?_
  have hend {c : Char} (hc : c ∈ rest.head?) : c.isDigit = false ∧ c ≠ '-' ∧ c ≠ ':' := by
    have hall : ∀ c ∈ valueEnds, c.isDigit = false ∧ c ≠ '-' ∧ c ≠ ':' :=
      List.all_iff_forall_prop.mp rfl
    exact hall c (he c hc)
  -- The digits end within the spelling, at its end or, if they went on, in what follows it.
  rcases List.append_eq_append_iff.mp heq with ⟨more, rfl, rfl⟩ | ⟨left, rfl, hleft⟩
  · cases more with
    | nil => exact (hend rfl).2
    | cons c' more =>
      have hc' := hdigits c' (List.mem_append_right _ List.mem_cons_self)
      exact absurd hc' (by simp [hend (c := c') rfl])
  · cases left with
    | nil =>
      obtain rfl : c :: tail = rest := hleft
      exact (hend rfl).2
    | cons c' left =>
      obtain ⟨rfl, -⟩ := List.cons.inj hleft
      refine h.no_mark c ?_
      rw [List.tail_append_of_ne_nil hne]
      exact List.mem_append_right _ List.mem_cons_self

end Precompiled.Toml
