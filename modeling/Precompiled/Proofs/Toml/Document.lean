import Precompiled.Proofs.Toml.Number
import Precompiled.Proofs.Toml.Table
import Precompiled.Toml.Document

/-!
# Documents of one line for each key

What a text with a value under a key on each line is read as. Layout does not matter: blanks, empty
lines, comments, line ends of either kind, and how the integers are spelled.
-/

namespace Precompiled.Toml

open Dict (Distinct)
open Scan

theorem distinct_of_parse? {text : String} {entries : Entries} (h : parse? text = some entries) :
    Distinct entries := by
  obtain ⟨found, -, h⟩ := Option.bind_eq_some_iff.mp h
  obtain ⟨values, hvalues, hsections⟩ := Option.bind_eq_some_iff.mp h
  exact foldlM_keeps (fun _ _ _ => distinct_addSection) hsections
    (distinct_fill hvalues List.nodup_nil)

-- ---------------------------------------------------------------------------
-- Texts
-- ---------------------------------------------------------------------------

inductive Written : List Char → Item → Prop
  | integer {chars value} : Spelled chars value → fits value → Written chars (.integer value)
  | yes : Written ['t', 'r', 'u', 'e'] (.boolean true)
  | no : Written ['f', 'a', 'l', 's', 'e'] (.boolean false)

def Blank (pad : List Char) : Prop := ∀ c ∈ pad, isBlank c

theorem blank_nil : Blank [] := nofun

inductive Note : List Char → Prop
  | none : Note []
  | comment {chars} : (∀ c ∈ chars, isPlain c) → Note ('#' :: chars)

/-- A key that stands bare, or between marks with no escape in it. -/
inductive KeyText : List Char → String → Prop
  | bare {name} : name.toList ≠ [] → (∀ c ∈ name.toList, isKeyChar c) → KeyText name.toList name
  | basic {name} : (∀ c ∈ name.toList, isUnescaped c) →
      KeyText ('"' :: (name.toList ++ ['"'])) name
  | literal {name} : (∀ c ∈ name.toList, isLiteral c) →
      KeyText ('\'' :: (name.toList ++ ['\''])) name

/-- What stands on a line after the blanks that it begins with, and the values under keys in it. -/
inductive Content : List Char → Entries → Prop
  | empty {note} : Note note → Content note []
  | entry {key name before after chars item pad note} : KeyText key name → Blank before →
      Blank after → Written chars item → Blank pad → Note note →
      Content (key ++ (before ++ '=' :: (after ++ (chars ++ (pad ++ note))))) [(name, item)]

inductive Break : List Char → Prop
  | newline : Break ['\n']
  | carriageReturn : Break ['\r', '\n']

/-- The texts of documents of one line for each key. -/
inductive Writes : List Char → Entries → Prop
  | last {indent content entries} : Blank indent → Content content entries →
      Writes (indent ++ content) entries
  | more {indent content entries parting text others} : Blank indent → Content content entries →
      Break parting → Writes text others →
      Writes (indent ++ (content ++ (parting ++ text))) (entries ++ others)

-- ---------------------------------------------------------------------------
-- Values
-- ---------------------------------------------------------------------------

variable {chars rest text : List Char} {item : Item} {kind : Char → Bool}

theorem Spelled.head {value : Int} (h : Spelled chars value) :
    ∃ c tail, chars = c :: tail ∧ c ∈ '+' :: '-' :: decimalDigits := by
  cases h with
  | decimal hm hwhole =>
    cases hm with
    | none =>
      obtain ⟨c, tail, rfl, hc⟩ := hwhole.head
      exact ⟨c, tail, rfl, List.mem_cons_of_mem _ (List.mem_cons_of_mem _ hc)⟩
    | plus => exact ⟨_, _, rfl, by decide⟩
    | minus => exact ⟨_, _, rfl, by decide⟩
  | based _ _ => exact ⟨_, _, rfl, by decide⟩

theorem Written.stops (h : Written chars item)
    (hk : ('t' :: 'f' :: '+' :: '-' :: decimalDigits).any kind = false) :
    Stops kind (chars ++ rest) := by
  cases h with
  | integer hspelled _ =>
    obtain ⟨c, tail, rfl, hc⟩ := hspelled.head
    exact stops_of_mem (List.mem_cons_of_mem _ (List.mem_cons_of_mem _ hc)) hk
  | yes => exact stops_of_mem List.mem_cons_self hk
  | no => exact stops_of_mem (List.mem_cons_of_mem _ List.mem_cons_self) hk

theorem quoted_none (h : Stops (fun c => c = '"' || c = '\'') text) : quoted text = none := by
  have hquote : char '"' text = none := char_of_stops (h.mono (by simp +contextual))
  have hmark : char '\'' text = none := char_of_stops (h.mono (by simp +contextual))
  have hlines {mark : Char} (part : Scan (List Char)) (hm : char mark text = none) :
      lines mark part text = none := by
    refine bind_of_none ?_
    rw [List.replicate_succ, word_cons, hm, Option.bind_none]
  have hbasic : basicLines text = none ∧ basicString text = none :=
    ⟨hlines _ hquote, bind_of_none hquote⟩
  have hliteral : literalLines text = none ∧ literalString text = none :=
    ⟨hlines _ hmark, bind_of_none hmark⟩
  simp [quoted, hbasic, hliteral]

theorem scalar_written (h : Written chars item) (he : Ends rest) :
    scalar (chars ++ rest) = some (item, rest) := by
  have hquoted : quoted (chars ++ rest) = none := quoted_none (h.stops (by decide))
  cases h with
  | integer hspelled hfits =>
    rw [scalar, orElse_of_none (bind_of_none hquoted),
      orElse_of_none (bind_of_none (moment_spelled hspelled he)),
      orElse_of_none (bind_of_none (float_spelled hspelled he))]
    refine orElse_of_some ?_
    rw [bind_of_some (integer_spelled hspelled hfits he)]
    rfl
  | yes => rfl
  | no => rfl

theorem value_written {depth : Nat} (h : Written chars item) (he : Ends rest) :
    value depth (chars ++ rest) = some (item, rest) := by
  cases depth with
  | zero => exact scalar_written h he
  | succ depth =>
    have harray : array (value depth) (chars ++ rest) = none :=
      bind_of_none (char_of_stops (h.stops (by decide)))
    have htable : inlineTable (value depth) (chars ++ rest) = none :=
      bind_of_none (char_of_stops (h.stops (by decide)))
    rw [value, orElse_of_none harray, orElse_of_none htable, scalar_written h he]

-- ---------------------------------------------------------------------------
-- Keys
-- ---------------------------------------------------------------------------

variable {pad : List Char}

theorem Blank.stops (h : Blank pad) (hspace : kind ' ' = false) (htab : kind '\t' = false)
    (hs : Stops kind rest) : Stops kind (pad ++ rest) := by
  cases pad with
  | nil => exact hs
  | cons c pad =>
    have hc : c = ' ' ∨ c = '\t' := by simpa [isBlank] using h c List.mem_cons_self
    rcases hc with rfl | rfl
    · exact stops_cons.mpr hspace
    · exact stops_cons.mpr htab

theorem blanks_append (h : Blank pad) (hs : Stops isBlank rest) :
    blanks (pad ++ rest) = some ((), rest) := by
  rw [blanks, discard_apply, run_append h hs]
  rfl

theorem blanks_of_stops (hs : Stops isBlank rest) : blanks rest = some ((), rest) :=
  blanks_append blank_nil hs

def basicPart : Scan (List Char) := runOfSome isUnescaped <|> (do return [← escaped])

theorem basicPart_quote : basicPart ('"' :: rest) = none :=
  (orElse_of_none (runOfSome_of_stops (stops_cons.mpr rfl))).trans rfl

theorem chain_basicPart (rest : List Char) (h : ∀ c ∈ chars, isUnescaped c) :
    ∃ parts, Chain basicPart (chars ++ '"' :: rest) parts ('"' :: rest) ∧
      parts.flatten = chars := by
  by_cases hne : chars = []
  · subst hne
    exact ⟨[], .stop basicPart_quote, rfl⟩
  · have hpart : basicPart (chars ++ '"' :: rest) = some (chars, '"' :: rest) :=
      orElse_of_some (runOfSome_append hne h (stops_cons.mpr rfl))
    refine ⟨[chars], .next hpart ?_ (.stop basicPart_quote), by simp⟩
    simpa [List.length_pos_iff] using hne

theorem basicString_append (h : ∀ c ∈ chars, isUnescaped c) :
    basicString ('"' :: (chars ++ '"' :: rest)) = some (String.ofList chars, rest) := by
  obtain ⟨parts, hchain, rfl⟩ := chain_basicPart rest h
  have hmany : many basicPart (parts.flatten ++ '"' :: rest) = some (parts, '"' :: rest) :=
    many_of_chain hchain
  rw [basicString, bind_of_some char_self]
  exact (bind_of_some hmany).trans rfl

theorem literalString_append (h : ∀ c ∈ chars, isLiteral c) :
    literalString ('\'' :: (chars ++ '\'' :: rest)) = some (String.ofList chars, rest) := by
  rw [literalString, bind_of_some char_self, bind_of_some (run_append h (stops_cons.mpr rfl))]
  rfl

theorem bareKey_append (hne : chars ≠ []) (h : ∀ c ∈ chars, isKeyChar c)
    (hs : Stops isKeyChar rest) : bareKey (chars ++ rest) = some (String.ofList chars, rest) := by
  rw [bareKey, map_apply, runOfSome_append hne h hs]
  rfl

theorem stops_bareKey {marks : List Char} (hne : chars ≠ []) (h : ∀ c ∈ chars, isKeyChar c)
    (hm : marks.any isKeyChar = false) : Stops (fun c => c ∈ marks) (chars ++ rest) := by
  obtain ⟨c, tail, rfl⟩ := List.exists_cons_of_ne_nil hne
  refine stops_cons.mpr (decide_eq_false fun hmem => ?_)
  exact absurd (h c List.mem_cons_self) (List.any_eq_false.mp hm c hmem)

variable {key : List Char} {name : String}

theorem KeyText.stops (h : KeyText key name) :
    Stops (fun c => c ∈ [' ', '\t', '\n', '\r', '#', '[', '\uFEFF']) (key ++ rest) := by
  cases h with
  | bare hne hkey => exact stops_bareKey hne hkey (by decide)
  | basic _ => exact stops_cons.mpr rfl
  | literal _ => exact stops_cons.mpr rfl

theorem key_append (h : KeyText key name) (hs : Stops isKeyChar rest) :
    (basicString <|> literalString <|> bareKey) (key ++ rest) = some (name, rest) := by
  rw [← String.ofList_toList (s := name)]
  cases h with
  | bare hne hkey =>
    have hmarks : Stops (fun c => c ∈ ['"', '\'']) (name.toList ++ rest) :=
      stops_bareKey hne hkey (by decide)
    have hbasic : basicString (name.toList ++ rest) = none :=
      bind_of_none (char_of_stops (hmarks.mono (by simp +contextual)))
    have hliteral : literalString (name.toList ++ rest) = none :=
      bind_of_none (char_of_stops (hmarks.mono (by simp +contextual)))
    rw [orElse_of_none hbasic, orElse_of_none hliteral, bareKey_append hne hkey hs]
  | basic hkey =>
    rw [List.cons_append, List.append_assoc]
    exact orElse_of_some (basicString_append hkey)
  | literal hkey =>
    rw [List.cons_append, List.append_assoc]
    have hbasic : basicString ('\'' :: (name.toList ++ (['\''] ++ rest))) = none := rfl
    rw [orElse_of_none hbasic]
    exact orElse_of_some (literalString_append hkey)

theorem simpleKey_append {before : List Char} (h : KeyText key name) (hb : Blank before) :
    simpleKey (key ++ (before ++ '=' :: rest)) = some (name, '=' :: rest) := by
  have hkey : Stops isKeyChar (before ++ '=' :: rest) :=
    hb.stops rfl rfl (stops_cons.mpr rfl)
  have hstart : Stops isBlank (key ++ (before ++ '=' :: rest)) :=
    h.stops.mono (by simp +contextual [isBlank])
  rw [simpleKey, bind_of_some (blanks_of_stops hstart), bind_of_some (key_append h hkey),
    bind_of_some (blanks_append hb (stops_cons.mpr rfl))]
  rfl

theorem dottedKey_append {before : List Char} (h : KeyText key name) (hb : Blank before) :
    dottedKey (key ++ (before ++ '=' :: rest)) = some ([name], '=' :: rest) := by
  rw [dottedKey, bind_of_some (separated_of_one (simpleKey_append h hb) (by rfl))]
  rfl

-- ---------------------------------------------------------------------------
-- Lines
-- ---------------------------------------------------------------------------

theorem entry_append {depth : Nat} {before after : List Char} (h : KeyText key name)
    (hb : Blank before) (ha : Blank after) (hw : Written chars item) (he : Ends rest) :
    entry (value depth) (key ++ (before ++ '=' :: (after ++ (chars ++ rest)))) =
      some (.ofPair (name, item), rest) := by
  rw [entry, bind_of_some (dottedKey_append h hb), bind_of_some char_self,
    bind_of_some (blanks_append ha (hw.stops (by decide))), bind_of_some (value_written hw he)]
  rfl

/-- What is left of a text at the end of a line: nothing, or a line end with the lines that
follow. -/
inductive LineEnd : List Char → List Char → Prop
  | last : LineEnd [] []
  | more {parting text} : Break parting → LineEnd (parting ++ text) text

variable {ending left : List Char}

theorem LineEnd.read (h : LineEnd ending left) : lineEnding ending = some ((), left) := by
  cases h with
  | last => rfl
  | more hb => cases hb <;> rfl

theorem LineEnd.stops (h : LineEnd ending left) (hn : kind '\n' = false)
    (hr : kind '\r' = false) : Stops kind ending := by
  cases h with
  | last => exact stops_nil
  | more hb =>
    cases hb with
    | newline => exact stops_cons.mpr hn
    | carriageReturn => exact stops_cons.mpr hr

theorem LineEnd.length_lt (h : LineEnd ending left) {content : List Char}
    (hne : content ++ ending ≠ []) : left.length < (content ++ ending).length := by
  cases h with
  | last => exact List.length_pos_iff.mpr hne
  | more hb => cases hb <;> simp <;> omega

variable {note : List Char}

theorem Note.stops (h : Note note) (hc : kind '#' = false) (hs : Stops kind ending) :
    Stops kind (note ++ ending) := by
  cases h with
  | none => exact hs
  | comment _ => exact stops_cons.mpr hc

theorem comment_append (h : ∀ c ∈ chars, isPlain c) (he : LineEnd ending left) :
    comment ('#' :: (chars ++ ending)) = some ((), ending) := by
  have hrun := run_append h (he.stops (by decide) (by decide))
  simp [comment, hrun]

theorem note_append (h : Note note) (he : LineEnd ending left) :
    (discard (attempt comment) : Scan Unit) (note ++ ending) = some ((), ending) := by
  cases h with
  | none =>
    have hcomment : comment ending = none :=
      bind_of_none (char_of_stops (he.stops (by decide) (by decide)))
    simp [hcomment]
  | comment hplain => simp [comment_append hplain he]

theorem restOfLine_append (hp : Blank pad) (hn : Note note) (he : LineEnd ending left) :
    restOfLine (pad ++ (note ++ ending)) = some ((), left) := by
  have hs : Stops isBlank (note ++ ending) := hn.stops rfl (he.stops rfl rfl)
  rw [restOfLine, bind_of_some (blanks_append hp hs), bind_of_some (note_append hn he), he.read]

theorem line_entry {e : Entry}
    (hs : Stops (fun c => c ∈ ['\n', '\r', '#', '[']) text)
    (he : entry (value depthLimit) text = some (e, rest))
    (hr : restOfLine rest = some ((), left)) : line text = some (.entry e, left) := by
  have hno {c : Char} (hc : c ∈ ['\n', '\r', '#', '[']) : char c text = none :=
    char_of_stops (hs.mono (by simpa using hc))
  have hnewline : newline text = none := by
    rw [newline, orElse_of_none (hno (by decide)), word_cons, hno (by decide), Option.bind_none]
  have hcomment : comment text = none := bind_of_none (hno (by decide))
  have hheader : header text = none := by
    have hword : word ['[', '['] text = none := by
      rw [word_cons, hno (by decide), Option.bind_none]
    rw [header, orElse_of_none (bind_of_none hword), bind_of_none (hno (by decide))]
  rw [line, orElse_of_none (bind_of_none hnewline), orElse_of_none (bind_of_none hcomment),
    orElse_of_none (bind_of_none hheader), bind_of_some he, bind_of_some hr]
  rfl

theorem line_append {content : List Char} {entries : Entries} (h : Content content entries)
    (he : LineEnd ending left) (hne : content ++ ending ≠ []) :
    ∃ found, line (content ++ ending) = some (found, left) ∧
      ∀ more, cut (found :: more) = (entries.map .ofPair ++ (cut more).1, (cut more).2) := by
  cases h with
  | empty hn =>
    refine ⟨.empty, ?_, fun more => rfl⟩
    cases hn with
    | none =>
      cases he with
      | last => exact absurd rfl hne
      | more hb => cases hb <;> rfl
    | @comment chars hplain =>
      have hnewline : newline ('#' :: (chars ++ ending)) = none := rfl
      rw [List.cons_append, line, orElse_of_none (bind_of_none hnewline)]
      refine orElse_of_some ?_
      rw [bind_of_some (comment_append hplain he), bind_of_some he.read]
      rfl
  | @entry key name before after chars item pad note hk hb ha hw hp hn =>
    refine ⟨.entry (.ofPair (name, item)), ?_, fun more => rfl⟩
    have hends : Stops (fun c => c ∉ valueEnds) (pad ++ (note ++ ending)) :=
      hp.stops rfl rfl (hn.stops rfl (he.stops rfl rfl))
    simp only [List.append_assoc, List.cons_append]
    exact line_entry (hk.stops.mono (by simp +contextual))
      (entry_append hk hb ha hw (ends_of_stops hends)) (restOfLine_append hp hn he)

-- ---------------------------------------------------------------------------
-- Documents
-- ---------------------------------------------------------------------------

def nextLine : Scan Line := do
  let found ← line
  blanks
  return found

theorem blanks_apply : blanks text = some ((), text.dropWhile isBlank) := by
  simp [blanks, run, List.span_eq_takeWhile_dropWhile]

theorem dropWhile_indent {indent : List Char} (h : Blank indent) (hs : Stops isBlank rest) :
    (indent ++ rest).dropWhile isBlank = rest := by
  have hblanks := blanks_append h hs
  rw [blanks_apply] at hblanks
  exact (Prod.mk.inj (Option.some.inj hblanks)).2

theorem lines?_of_chain {doc : String} {found : List Line}
    (hs : Stops (· = '\uFEFF') doc.toList)
    (h : Chain nextLine (doc.toList.dropWhile isBlank) found []) : lines? doc = some found := by
  have hmark : (discard (attempt (char '\uFEFF')) : Scan Unit) doc.toList =
      some ((), doc.toList) := by simp [char_of_stops hs]
  have hmany : many nextLine (doc.toList.dropWhile isBlank) = some (found, []) := many_of_chain h
  have hread : (do
      discard (attempt (char '\uFEFF'))
      blanks
      let found ← many nextLine
      finish
      return found : Scan (List Line)) doc.toList = some (found, []) := by
    rw [bind_of_some hmark, bind_of_some blanks_apply, bind_of_some hmany]
    rfl
  exact congrArg (Option.bind · fun read => some read.1) hread

theorem Content.stops {content : List Char} {entries : Entries} (h : Content content entries)
    (he : LineEnd ending left) :
    Stops (fun c => c ∈ [' ', '\t', '\uFEFF']) (content ++ ending) := by
  cases h with
  | empty hn => exact hn.stops rfl (he.stops rfl rfl)
  | entry hk _ _ _ _ _ =>
    rw [List.append_assoc]
    exact hk.stops.mono (by simp +contextual)

theorem Content.no_blank {content : List Char} {entries : Entries} (h : Content content entries)
    (he : LineEnd ending left) : Stops isBlank (content ++ ending) :=
  (h.stops he).mono (by simp +contextual [isBlank])

theorem Content.eq_nil {entries : Entries} (h : Content [] entries) : entries = [] := by
  generalize hnil : ([] : List Char) = content at h
  cases h with
  | empty _ => rfl
  | entry _ _ _ _ _ _ => simp at hnil

theorem chain_content {content : List Char} {entries others : Entries} {more : List Line}
    (h : Content content entries) (he : LineEnd ending left) (hne : content ++ ending ≠ [])
    (hmore : Chain nextLine (left.dropWhile isBlank) more [])
    (hcut : cut more = (others.map .ofPair, [])) :
    ∃ found, Chain nextLine (content ++ ending) found [] ∧
      cut found = ((entries ++ others).map .ofPair, []) := by
  obtain ⟨found, hline, hfound⟩ := line_append h he hne
  have hnext : nextLine (content ++ ending) = some (found, left.dropWhile isBlank) := by
    rw [nextLine, bind_of_some hline, bind_of_some blanks_apply]
    rfl
  have hlt : (left.dropWhile isBlank).length < (content ++ ending).length :=
    Nat.lt_of_le_of_lt (List.dropWhile_sublist _).length_le (he.length_lt hne)
  refine ⟨found :: more, .next hnext hlt hmore, ?_⟩
  rw [hfound, hcut, List.map_append]

theorem chain_lines {entries : Entries} (h : Writes text entries) :
    ∃ found, Chain nextLine (text.dropWhile isBlank) found [] ∧
      cut found = (entries.map .ofPair, []) := by
  induction h with
  | @last indent content entries hindent hcontent =>
    have hstart := hcontent.no_blank .last
    rw [List.append_nil] at hstart
    rw [dropWhile_indent hindent hstart]
    by_cases hne : content = []
    · subst hne
      exact ⟨[], .stop rfl, by rw [hcontent.eq_nil]; rfl⟩
    · have hnothing : cut [] = (([] : Entries).map .ofPair, []) := rfl
      have hchain := chain_content hcontent .last (by simpa using hne) (.stop rfl) hnothing
      rwa [List.append_nil, List.append_nil] at hchain
  | more hindent hcontent hbreak _ ih =>
    obtain ⟨more, hmore, hcut⟩ := ih
    rw [dropWhile_indent hindent (hcontent.no_blank (.more hbreak))]
    exact chain_content hcontent (.more hbreak) (by cases hbreak <;> simp) hmore hcut

theorem Writes.no_mark {entries : Entries} (h : Writes text entries) :
    Stops (· = '\uFEFF') text := by
  have hmark {content : List Char} {entries : Entries} (hcontent : Content content entries)
      {ending left : List Char} (he : LineEnd ending left) :
      Stops (· = '\uFEFF') (content ++ ending) :=
    (hcontent.stops he).mono (by simp +contextual)
  cases h with
  | @last _ content _ hindent hcontent =>
    have hstart := hmark hcontent .last
    rw [List.append_nil] at hstart
    exact hindent.stops rfl rfl hstart
  | more hindent hcontent hbreak _ => exact hindent.stops rfl rfl (hmark hcontent (.more hbreak))

/-- A document of one line for each key is read as these keys with their values. -/
theorem parse?_writes {doc : String} {entries : Entries} (h : Writes doc.toList entries)
    (hd : Distinct entries) : parse? doc = some entries := by
  obtain ⟨found, hchain, hcut⟩ := chain_lines h
  have hlines := lines?_of_chain h.no_mark hchain
  simp [parse?, hlines, hcut, fill_pairs hd]

end Precompiled.Toml
